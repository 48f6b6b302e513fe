import PageTokens.Text.CaseTable

/-!
# Uppercase and lowercase

The full case mappings of Unicode: a character may become several, and a
capital sigma at the end of a word becomes the final form of the letter.
-/

namespace PageTokens.Text

/-- Whether a code point lies in one of the given ranges. -/
def inRanges (ranges : List (Nat × Nat)) (code : Nat) : Bool :=
  ranges.any fun (first, last) => first ≤ code && code ≤ last

namespace CaseTable

/-- The code point a run maps a code point to. -/
def Run.apply? (run : Run) (code : Nat) : Option Nat :=
  if run.first ≤ code ∧ code ≤ run.last ∧ (code - run.first) % run.step = 0 then
    some (code + run.offset).toNat
  else none

/-- A character mapped by a table of sequences and a table of runs. -/
def apply (sequences : List (Nat × List Nat)) (runs : List Run) (char : Char) : Text :=
  match sequences.find? (fun entry => entry.1 = char.toNat) with
  | some (_, codes) => codes.map Char.ofNat
  | none =>
    match runs.findSome? (fun run => run.apply? char.toNat) with
    | some code => [Char.ofNat code]
    | none => [char]

end CaseTable

/-- The uppercase of a character. -/
def upperOf (char : Char) : Text :=
  CaseTable.apply CaseTable.upperSequences CaseTable.upperRuns char

/-- The lowercase of a character that has one form in all places. -/
def lowerOf (char : Char) : Text :=
  CaseTable.apply CaseTable.lowerSequences CaseTable.lowerRuns char

/-- Whether the first of some characters that matters for the case of its neighbours has case. -/
def nextIsCased (text : Text) : Bool :=
  match text.dropWhile (fun char => inRanges CaseTable.caseIgnorable char.toNat) with
  | [] => false
  | char :: _ => inRanges CaseTable.cased char.toNat

/-- The form of a sigma with some text before it, read backwards, and some text after it. -/
def sigmaBetween (before after : Text) : Char :=
  if nextIsCased before && !nextIsCased after then 'ς' else 'σ'

/-- The lowercase of a text that follows another text, read backwards. -/
def lowerAfter (before : Text) : Text → Text
  | [] => []
  | char :: rest =>
    (if char = 'Σ' then [sigmaBetween before rest] else lowerOf char) ++
      lowerAfter (char :: before) rest

/-- A text in uppercase. -/
def upper (text : Text) : Text :=
  text.flatMap upperOf

/-- A text in lowercase. -/
def lower (text : Text) : Text :=
  lowerAfter [] text

end PageTokens.Text
