import PageTokens.Data.Basic
import PageTokens.Dictionary
import PageTokens.Text.Cut

/-!
# Reading data of a known shape

A reader turns data into a value of a domain type, or says with which part it
does not agree. A record may come as a record or as the list of its members in
their order; members that nobody asked for are passed over. The first
disagreement in the order of the data is the one that is reported.
-/

namespace PageTokens

/-- A disagreement between data and the shape that is expected. -/
inductive Misfit
  | wrongType (found : Data) (expected : Text)
  | unknownVariant (found : Text) (known : List Text)
  | missingMember (name : Text)
  | tooShort (length : Nat) (expected : Text)
  | tooLong (length : Nat)
  | notOneEntry

namespace Misfit

/-- Names in an error message: two of them, or a list of more. -/
def alternatives : List Text → Text
  | [] => []
  | [only] => "`".toList ++ only ++ "`".toList
  | [first, second] =>
    "`".toList ++ first ++ "` or `".toList ++ second ++ "`".toList
  | names => "one of ".toList ++
      Text.join ", ".toList (names.map fun name => "`".toList ++ name ++ "`".toList)

/-- The text of a disagreement. -/
def message : Misfit → Text
  | wrongType found expected =>
    "invalid type: ".toList ++ found.described ++ ", expected ".toList ++ expected
  | unknownVariant found known =>
    "unknown variant `".toList ++ found ++ "`, expected ".toList ++ alternatives known
  | missingMember name => "missing field `".toList ++ name ++ "`".toList
  | tooShort length expected =>
    "invalid length ".toList ++ Text.ofNat length ++ ", expected ".toList ++ expected
  | tooLong length =>
    "invalid length ".toList ++ Text.ofNat length ++ ", expected fewer elements in array".toList
  | notOneEntry => "invalid value: map, expected map with a single key".toList

end Misfit

/-- A reader of values of type `α`. -/
abbrev Reader (α : Type) := Data → Except Misfit α

namespace Reader

variable {α : Type}

/-- Reads a text. -/
def text : Reader Text
  | .text content => .ok content
  | other => .error (.wrongType other "a string".toList)

/-- Reads a truth value. -/
def flag : Reader Bool
  | .boolean flag => .ok flag
  | other => .error (.wrongType other "a boolean".toList)

/-- Reads nothing, or what another reader reads. -/
def optional (inner : Reader α) : Reader (Option α)
  | .null => .ok none
  | other => (inner other).map some

/-- Reads the entries of a record into a dictionary. -/
def dictionary (inner : Reader α) : Reader (Dictionary Text α)
  | .record entries =>
    entries.foldlM (fun read (key, value) => (inner value).map (read.insert key)) .empty
  | other => .error (.wrongType other "a map".toList)

/-- The value among `known` with a given name. -/
def variant (name : α → Text) (known : List α) (found : Text) : Except Misfit α :=
  match known.find? fun value => name value = found with
  | some value => .ok value
  | none => .error (.unknownVariant found (known.map name))

/-- Reads one of some named values: its name, or a record with the name as its only key. -/
def choice (name : α → Text) (known : List α) : Reader α
  | .text found => variant name known found
  | .record [(found, inner)] => do
    let value ← variant name known found
    match inner with
    | .null => .ok value
    | other => .error (.wrongType other "unit".toList)
  | .record _ => .error .notOneEntry
  | other => .error (.wrongType other "string or map".toList)

/-- A member of a record of type `α`: its name, whether it has to be there, and
how it is read into a record. -/
structure Member (α : Type) where
  name : Text
  required : Bool
  readInto : Data → α → Except Misfit α

/-- A member that may be absent. -/
def Member.optional {β : Type} (name : Text) (inner : Reader β) (set : α → β → α) : Member α :=
  ⟨name, false, fun data record => (inner data).map (set record)⟩

/-- A member that has to be there. -/
def Member.needed {β : Type} (name : Text) (inner : Reader β) (set : α → β → α) : Member α :=
  ⟨name, true, fun data record => (inner data).map (set record)⟩

/-- Whether a list may be longer than the record it stands for. -/
inductive Surplus
  | refused
  | passedOver
deriving DecidableEq

/-- The shape of a record: what it is called, its members, the record without
any of them, and what becomes of a list that is too long. -/
structure Shape (α : Type) where
  title : Text
  members : List (Member α)
  blank : α
  surplus : Surplus

namespace Shape

/-- What the shape is called in an error message. -/
def expected (shape : Shape α) : Text :=
  "struct ".toList ++ shape.title

/-- What the shape is called where a list is too short for it. -/
def expectedLength (shape : Shape α) : Text :=
  let count := shape.members.length
  shape.expected ++ " with ".toList ++ Text.ofNat count ++
    (if count = 1 then " element" else " elements").toList

/-- Reads the entries of a record. -/
def readEntries (shape : Shape α) (entries : List (Text × Data)) : Except Misfit α := do
  let record ← entries.foldlM (fun record (key, data) =>
    match shape.members.find? fun member => member.name = key with
    | some member => member.readInto data record
    | none => .ok record) shape.blank
  match shape.members.find? fun member =>
      member.required && !(entries.map Prod.fst).contains member.name with
  | some member => .error (.missingMember member.name)
  | none => .ok record

/-- Reads the items of a list as the members in their order. `position` members
have been read. -/
def readItems (shape : Shape α) (length position : Nat) (record : α) :
    List (Member α) → List Data → Except Misfit α
  | [], [] => .ok record
  | [], _ :: _ =>
    match shape.surplus with
    | .refused => .error (.tooLong length)
    | .passedOver => .ok record
  | member :: members, [] =>
    if member.required then .error (.tooShort position shape.expectedLength)
    else readItems shape length (position + 1) record members []
  | member :: members, item :: items => do
    readItems shape length (position + 1) (← member.readInto item record) members items

end Shape

/-- Reads a record of a given shape. -/
def shape (shape : Shape α) : Reader α
  | .record entries => shape.readEntries entries
  | .list items => shape.readItems items.length 0 shape.blank shape.members items
  | other => .error (.wrongType other shape.expected)

end Reader
end PageTokens
