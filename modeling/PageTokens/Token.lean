import PageTokens.Delimiters
import PageTokens.Parameter

/-!
# Tokens

A token is a name with parameters. `Token.ofBody` reads the text between the
delimiters of a token, and `Token.written` writes a token with its delimiters.
-/

namespace PageTokens

/-- A name with parameters. -/
structure Token where
  name : Text
  parameters : Parameters
deriving DecidableEq

/-- Whether a name consists of ASCII letters, digits and underscores and is not empty. -/
def isTokenName (name : Text) : Bool :=
  !name.isEmpty && name.all fun char => char.isAlphanum || char = '_'

/-- A field of a token: `key` and value, or a value by position. -/
structure Field where
  key : Option Text
  value : Value
deriving DecidableEq

namespace Field

/-- A field read at its first separator between key and value. -/
def read (marks : Marks) (field : Text) : Field :=
  match Text.cut? marks.keyValue field with
  | some (key, value) => ⟨some (Text.trim key), Value.read marks.multivalue value⟩
  | none => ⟨none, Value.read marks.multivalue field⟩

/-- The value of a field without a key. -/
def positional? (field : Field) : Option Value :=
  match field.key with
  | some _ => none
  | none => some field.value

/-- The key and the value of a field with a key. -/
def named? (field : Field) : Option (Text × Value) :=
  field.key.map fun key => (key, field.value)

end Field

namespace Parameters

/-- The parameters that some fields make. -/
def ofFields (fields : List Field) : Parameters :=
  { positional := fields.filterMap Field.positional?
    named := Dictionary.ofList (fields.filterMap Field.named?) }

/-- The parameters in the text after the name of a token. -/
def read (marks : Marks) (raw : Text) : Parameters :=
  ofFields ((Text.split marks.parameter raw).map (Field.read marks))

end Parameters

namespace Token

/-- The text of a body before its first parameter separator, and the text after it. -/
def cutBody (marks : Marks) (body : Text) : Text × Option Text :=
  match Text.cut? marks.parameter body with
  | some (name, raw) => (name, some raw)
  | none => (body, none)

/-- The token with a given text between its delimiters. -/
def ofBody (marks : Marks) (body : Text) : Token :=
  let (name, raw) := cutBody marks body
  ⟨Text.trim name, (raw.map (Parameters.read marks)).getD .none⟩

/-- The text of a token between its delimiters: the name, the positional
values, and the named values in ascending order of their keys. -/
def body (marks : Marks) (token : Token) : Text :=
  token.name ++
    token.parameters.positional.flatMap (fun value =>
      marks.parameter ++ value.join marks.multivalue) ++
    token.parameters.named.entries.flatMap (fun (key, value) =>
      marks.parameter ++ key ++ marks.keyValue ++ value.join marks.multivalue)

/-- The text of a token. -/
def written (marks : Marks) (token : Token) : Text :=
  marks.start ++ token.body marks ++ marks.stop

end Token
end PageTokens
