import PageTokens.Toml.Lexeme
import PageTokens.Toml.Scalar
import PageTokens.Toml.Table

/-!
# TOML documents

A document is a sequence of sections. A section begins with a header that names
a table, and holds pairs of a key and a value; the first section has no header.
`Toml.read?` gives the document as a record, or nothing when it is not TOML 1.0.
-/

namespace PageTokens.Toml

/-! ## Values -/

/-- The items of an array up to its closing bracket. At most `limit` items are read. -/
def items? (value? : Text → Option (Data × Text)) : Nat → Text → Option (List Data × Text)
  | 0, _ => none
  | limit + 1, text => do
    match ← skipLines? text with
    | ']' :: rest => some ([], rest)
    | start =>
      let (item, after) ← value? start
      match ← skipLines? after with
      | ']' :: rest => some ([item], rest)
      | ',' :: rest =>
        let (items, behind) ← items? value? limit rest
        some (item :: items, behind)
      | _ => none

/-- A key, an equals sign and a value. -/
def pair? (value? : Text → Option (Data × Text)) (text : Text) :
    Option ((List Text × Data) × Text) := do
  let (path, after) ← key? text
  match after with
  | '=' :: rest =>
    let (value, behind) ← value? (skipSpace rest)
    some ((path, value), behind)
  | _ => none

/-- The pairs of an inline table up to its closing brace. At most `limit` pairs are read. -/
def pairs? (value? : Text → Option (Data × Text)) :
    Nat → Text → Option (List (List Text × Data) × Text)
  | 0, _ => none
  | limit + 1, text => do
    let (pair, after) ← pair? value? text
    match skipSpace after with
    | '\x7d' :: rest => some ([pair], rest)
    | ',' :: rest =>
      let (pairs, behind) ← pairs? value? limit rest
      some (pair :: pairs, behind)
    | _ => none

/-- The pairs of an inline table as data. -/
def inlineTable? (pairs : List (List Text × Data)) : Option Data :=
  (Entries.assignAll pairs []).map fun entries => .record (entriesToData entries)

/-- A value in which brackets nest at most `depth` times. -/
def value? (depth : Nat) (text : Text) : Option (Data × Text) :=
  match depth, text with
  | depth + 1, '[' :: rest => do
    let (items, behind) ← items? (value? depth) text.length rest
    some (.list items, behind)
  | depth + 1, '\x7b' :: rest =>
    match skipSpace rest with
    | '\x7d' :: behind => some (.record [], behind)
    | start => do
      let (pairs, behind) ← pairs? (value? depth) text.length start
      let table ← inlineTable? pairs
      some (table, behind)
  | _, '\x22' :: _ | _, '\x27' :: _ =>
    (quoted? text).map fun (content, behind) => (.text content, behind)
  | _, _ => scalarValue? text
termination_by depth

/-! ## Lines -/

/-- What a line of a document says. -/
inductive Line
  | table (path : List Text)
  | element (path : List Text)
  | pair (path : List Text) (value : Data)

/-- A line that is not empty, up to its end. -/
def line? (text : Text) : Option (Line × Text) :=
  match text with
  | '[' :: '[' :: rest => do
    let (path, after) ← key? rest
    match after with
    | ']' :: ']' :: behind => some (.element path, behind)
    | _ => none
  | '[' :: rest => do
    let (path, after) ← key? rest
    match after with
    | ']' :: behind => some (.table path, behind)
    | _ => none
  | _ => do
    let ((path, value), behind) ← pair? (value? maximumDepth) text
    some (.pair path value, behind)

/-- The lines of a document. At most `limit` lines are read. -/
def lines? : Nat → Text → Option (List Line)
  | 0, _ => none
  | limit + 1, text =>
    match skipSpace text with
    | [] => some []
    | '\n' :: rest => lines? limit rest
    | '#' :: rest => do lines? limit (← endLine? ('#' :: rest))
    | start => do
      let (line, behind) ← line? start
      let lines ← lines? limit (← endLine? behind)
      some (line :: lines)

/-! ## Sections -/

/-- What the pairs of a section are added to. -/
inductive Heading
  | document
  | table (path : List Text)
  | element (path : List Text)

/-- A heading with the pairs that follow it. -/
structure Section where
  heading : Heading
  pairs : List (List Text × Data)

/-- The lines as sections, the first of them under a given heading. -/
def sections (heading : Heading) : List Line → List Section
  | [] => [⟨heading, []⟩]
  | .table path :: rest => ⟨heading, []⟩ :: sections (.table path) rest
  | .element path :: rest => ⟨heading, []⟩ :: sections (.element path) rest
  | .pair path value :: rest =>
    match sections heading rest with
    | first :: others => { first with pairs := (path, value) :: first.pairs } :: others
    | [] => [⟨heading, [(path, value)]⟩]

/-- The last part of a path, and the parts before it. -/
def cutLast? (path : List Text) : Option (List Text × Text) :=
  path.getLast?.map fun last => (path.dropLast, last)

namespace Section

/-- The entries of a document with one more section. -/
def addTo (entries : Entries) (part : Section) : Option Entries :=
  match part.heading with
  | .document => entries.assignAll part.pairs
  | .table path => do
    let (parents, key) ← cutLast? path
    Entries.within (Entries.openTable part.pairs key) parents entries
  | .element path => do
    let (parents, key) ← cutLast? path
    Entries.within (Entries.appendTable part.pairs key) parents entries

end Section

/-- A document without a byte order mark. -/
def withoutMark : Text → Text
  | char :: rest => if char.toNat = 0xfeff then rest else char :: rest
  | [] => []

/-- A document as data. -/
def read? (document : Text) : Option Data := do
  let text := withLineFeeds (withoutMark document)
  let lines ← lines? (text.length + 1) text
  let entries ← (sections .document lines).foldlM Section.addTo []
  some (.record (entriesToData entries))

end PageTokens.Toml
