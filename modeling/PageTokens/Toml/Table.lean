import PageTokens.Data.Basic

/-!
# Tables of a TOML document

While a document is read, a table remembers how it came into being, because that
decides what may still be added to it. A header names a table once. A table that
was only passed through on the way to a header may be named later. A table that
was made by a key with dots takes further keys with dots and no header.
-/

namespace PageTokens.Toml

/-- How a table came into being. -/
inductive Origin
  | header
  | passage
  | dots
deriving DecidableEq, Repr

/-- What a key of a table stands for. Of a list of tables only the last one may change. -/
inductive Item
  | value (data : Data)
  | table (origin : Origin) (entries : List (Text × Item))
  | tables (finished : List Data) (last : List (Text × Item))

/-- The entries of a table in the order in which they came. -/
abbrev Entries := List (Text × Item)

mutual

/-- What a key stands for, as data. -/
def Item.toData : Item → Data
  | .value data => data
  | .table _ entries => .record (entriesToData entries)
  | .tables finished last => .list (finished ++ [.record (entriesToData last)])

/-- The entries of a table as data. -/
def entriesToData : Entries → List (Text × Data)
  | [] => []
  | (key, item) :: rest => (key, item.toData) :: entriesToData rest

end

namespace Entries

/-- What a key stands for. -/
def get? (key : Text) : Entries → Option Item
  | [] => none
  | (other, item) :: rest => if key = other then some item else get? key rest

/-- The entries with another item for a key. -/
def put (key : Text) (item : Item) : Entries → Entries
  | [] => [(key, item)]
  | (other, held) :: rest =>
    if key = other then (key, item) :: rest else (other, held) :: put key item rest

/-- The entries with a value under a key with dots. The key must be new, and the
table that takes it must have been made by dots, or be the one that is being
read. -/
def assign (value : Data) : List Text → Entries → Option Entries
  | [], _ => none
  | [key], entries =>
    match get? key entries with
    | none => some (put key (.value value) entries)
    | some _ => none
  | key :: next :: path, entries =>
    match get? key entries with
    | none => do
      let inner ← assign value (next :: path) []
      some (put key (.table .dots inner) entries)
    | some (.table .dots inner) => do
      let changed ← assign value (next :: path) inner
      some (put key (.table .dots changed) entries)
    | some (.table .passage inner) =>
      if path.isEmpty then none
      else do
        let changed ← assign value (next :: path) inner
        some (put key (.table .passage changed) entries)
    | some (.tables finished last) =>
      if path.isEmpty then none
      else do
        let changed ← assign value (next :: path) last
        some (put key (.tables finished changed) entries)
    | some (.table .header _) | some (.value _) => none

/-- The entries with several values, each under a key with dots. -/
def assignAll (pairs : List (List Text × Data)) (entries : Entries) : Option Entries :=
  pairs.foldlM (fun entries (path, value) => assign value path entries) entries

/-- The entries with a change in the table at the end of a path. A table on the
way that is missing is made; of a list of tables the last one is taken. -/
def within (change : Entries → Option Entries) : List Text → Entries → Option Entries
  | [], entries => change entries
  | key :: path, entries =>
    match get? key entries with
    | none => do
      let inner ← within change path []
      some (put key (.table .passage inner) entries)
    | some (.table origin inner) => do
      let changed ← within change path inner
      some (put key (.table origin changed) entries)
    | some (.tables finished last) => do
      let changed ← within change path last
      some (put key (.tables finished changed) entries)
    | some (.value _) => none

/-- The entries with the pairs of a table under a key, named by a header. -/
def openTable (pairs : List (List Text × Data)) (key : Text) (entries : Entries) :
    Option Entries := do
  let inner ← match get? key entries with
    | none => some []
    | some (.table .passage inner) => some inner
    | some _ => none
  let filled ← assignAll pairs inner
  some (put key (.table .header filled) entries)

/-- The entries with one more table in the list of tables under a key. -/
def appendTable (pairs : List (List Text × Data)) (key : Text) (entries : Entries) :
    Option Entries := do
  let finished ← match get? key entries with
    | none => some []
    | some (.tables finished last) => some (finished ++ [.record (entriesToData last)])
    | some _ => none
  let filled ← assignAll pairs []
  some (put key (.tables finished filled) entries)

end Entries
end PageTokens.Toml
