import PageTokens.Dictionary
import PageTokens.Text.Blank
import PageTokens.Text.Cut

/-!
# Parameters

A token carries parameters: values by position and values by key. A value is a
single text or a list of texts.
-/

namespace PageTokens

/-- The value of a parameter. -/
inductive Value
  | single (text : Text)
  | multi (items : List Text)
deriving DecidableEq

namespace Value

/-- A field read as a value: a list when the separator stands in it. Blanks
around the field and around the items of a list are dropped. -/
def read (separator field : Text) : Value :=
  if Text.contains separator field then .multi ((Text.split separator field).map Text.trim)
  else .single (Text.trim field)

/-- The text of a value that is no list. -/
def single? : Value → Option Text
  | single text => some text
  | multi _ => none

/-- The items of a value; a single text is the only item. -/
def items : Value → List Text
  | single text => [text]
  | multi items => items

/-- Whether a value is a list. -/
def isMulti : Value → Bool
  | single _ => false
  | multi _ => true

/-- The items of a value with a separator between them. -/
def join (separator : Text) : Value → Text
  | single text => text
  | multi items => Text.join separator items

end Value

/-- The parameters of a token. Of two values with one key the later one stays. -/
structure Parameters where
  positional : List Value
  named : Dictionary Text Value
deriving DecidableEq

namespace Parameters

/-- No parameters. -/
def none : Parameters := ⟨[], .empty⟩

/-- Parameters with one more value at the end of the positional ones. -/
def addPositional (parameters : Parameters) (value : Value) : Parameters :=
  { parameters with positional := parameters.positional ++ [value] }

/-- Parameters with a value under a key. -/
def addNamed (parameters : Parameters) (key : Text) (value : Value) : Parameters :=
  { parameters with named := parameters.named.insert key value }

/-- The value under a key. -/
def get? (parameters : Parameters) (key : Text) : Option Value :=
  parameters.named.get? key

/-- Whether there are no parameters. -/
def isEmpty (parameters : Parameters) : Bool :=
  parameters.positional.isEmpty && parameters.named.entries.isEmpty

/-- The items of all positional values, one after the other. -/
def positionalItems (parameters : Parameters) : List Text :=
  parameters.positional.flatMap Value.items

end Parameters
end PageTokens
