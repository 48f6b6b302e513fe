import Mathlib.Data.List.Forall2
import PageTokens.Occurrence
import PageTokens.Proofs.Separation

/-!
# What the body of a token says

A body is a name and, behind the first parameter separator, fields. `CutAt`,
`Spells` and `Keyed` say through places of separators alone what a body, a value
and a field with a key are, and each has a lemma that ties it to the reader.
`Collects` says what parameters hold when they hold what some fields say and
nothing else.

`occurrence_collects` states this of every occurrence: no field is lost, made
up or moved, and of fields with one key the last one counts.
-/

namespace PageTokens

/-- A text is cut at the first place of a mark, and stays whole when there is none. -/
inductive Text.CutAt (mark text : Text) : Text → Option Text → Prop
  | whole (absent : ¬ mark <:+: text) : CutAt mark text text none
  | parts {front back : Text} (same : text = front ++ mark ++ back) (leads : front.LeadsTo mark) :
      CutAt mark text front (some back)

/-- What a text spells as a value: a list of the pieces that a separator keeps apart when the
separator stands in the text, and otherwise the text. Blanks at the ends do not count. -/
inductive Value.Spells (separator text : Text) : Value → Prop
  | single (absent : ¬ separator <:+: text) : Spells separator text (.single (Text.trim text))
  | multi {pieces : List Text} (stands : separator <:+: text)
      (parted : Text.Parted separator pieces) (same : Text.join separator pieces = text) :
      Spells separator text (.multi (pieces.map Text.trim))

/-- A text is a field with a key: before the first separator between key and value stands the key,
with or without blanks around it, and `raw` stands behind. -/
def Field.Keyed (marks : Marks) (key raw text : Text) : Prop :=
  ∃ front, text = front ++ marks.keyValue ++ raw ∧ front.LeadsTo marks.keyValue ∧
    Text.trim front = key

/-- Parameters hold what some fields say: by position, in their order, the values of the fields
without a key, and under a key the value of the last field with this key. -/
structure Parameters.Collects (marks : Marks) (fields : List Text) (parameters : Parameters) :
    Prop where
  positional : List.Forall₂ (Value.Spells marks.multivalue)
    (fields.filter fun text => ¬ marks.keyValue <:+: text) parameters.positional
  named : ∀ key value, parameters.get? key = some value ↔
    ∃ before text after raw, fields = before ++ text :: after ∧
      Field.Keyed marks key raw text ∧ Value.Spells marks.multivalue raw value ∧
        ∀ later ∈ after, ∀ other, ¬ Field.Keyed marks key other later
  unnamed : ∀ key, parameters.get? key = Option.none ↔
    ∀ text ∈ fields, ∀ raw, ¬ Field.Keyed marks key raw text
  counted : parameters.positional.length +
    fields.countP (fun text => marks.keyValue <:+: text) = fields.length

/-- The name of a token ends where the first separator begins. -/
theorem Token.cutAt_cutBody (marks : Marks) (body : Text) :
    Text.CutAt marks.parameter body (cutBody marks body).1 (cutBody marks body).2 := by
  unfold cutBody
  split
  · next front back found =>
    obtain ⟨same, leads⟩ := Text.cut?_eq_some_iff.mp found
    exact .parts same leads
  · next absent => exact .whole (Text.cut?_eq_none_iff.mp absent)

/-- A value is read from a text exactly when the text spells it. -/
theorem Value.spells_iff {separator text : Text} {value : Value} (solid : separator ≠ []) :
    Spells separator text value ↔ read separator text = value := by
  constructor
  · intro spells
    cases spells with
    | single absent => rw [read, if_neg (mt Text.contains_iff_infix.mp absent)]
    | multi stands parted same =>
      have again := (Text.split_join_eq_iff solid).mpr parted
      rw [same] at again
      rw [read, if_pos (Text.contains_iff_infix.mpr stands), again]
  · rintro rfl
    unfold read
    split
    · next stands =>
      exact .multi (Text.contains_iff_infix.mp stands) (Text.parted_split solid text)
        (Text.join_split solid text)
    · next absent => exact .single (mt Text.contains_iff_infix.mpr absent)

namespace Field

variable {marks : Marks} {key raw text : Text} {value : Value}

/-- The value of a field, when the field has a given key. -/
def valueUnder? (key : Text) (field : Field) : Option Value :=
  if field.key = some key then some field.value else none

/-- A field has a key when what stands in front of its first mark is the key, up to blanks. -/
theorem keyed_iff :
    Keyed marks key raw text ↔
      ∃ front, Text.cut? marks.keyValue text = some (front, raw) ∧ Text.trim front = key := by
  simp only [Keyed, Text.cut?_eq_some_iff, and_assoc]

/-- A text is read as a field with a key and a value exactly when the key stands in it and the
text behind spells the value. -/
theorem valueUnder?_read_eq_some_iff (solid : marks.multivalue ≠ []) :
    (read marks text).valueUnder? key = some value ↔
      ∃ raw, Keyed marks key raw text ∧ Value.Spells marks.multivalue raw value := by
  simp only [keyed_iff, Value.spells_iff solid, read]
  split
  · next found => simp [valueUnder?, found]
  · next found => simp [valueUnder?, found]

/-- A field without a key has no value under it. -/
theorem valueUnder?_read_eq_none_iff :
    (read marks text).valueUnder? key = none ↔ ∀ raw, ¬ Keyed marks key raw text := by
  simp only [keyed_iff, read]
  split
  · next found => simp [valueUnder?, found]
  · next found => simp [valueUnder?, found]

/-- A field is positional unless it has the mark of a key in it. -/
theorem positional?_read (marks : Marks) (text : Text) :
    (read marks text).positional? =
      if marks.keyValue <:+: text then none else some (Value.read marks.multivalue text) := by
  unfold read
  split
  · next found =>
    have stands : marks.keyValue <:+: text := by
      by_contra absent
      simp [Text.cut?_eq_none_iff.mpr absent] at found
    rw [if_pos stands]
    rfl
  · next found =>
    rw [if_neg (Text.cut?_eq_none_iff.mp found)]
    rfl

end Field

namespace Parameters

variable {marks : Marks}

/-- Under a key stands the value of the last field with this key. -/
theorem get?_ofFields (fields : List Field) (key : Text) :
    (ofFields fields).get? key = fields.reverse.findSome? (Field.valueUnder? key) := by
  -- Fields that are put into a dictionary leave what it holds under all other keys.
  have put (named : Dictionary Text Value) :
      ((fields.filterMap Field.named?).foldl
        (fun dictionary entry => dictionary.insert entry.1 entry.2) named).get? key =
          (fields.reverse.findSome? (Field.valueUnder? key)).or (named.get? key) := by
    induction fields generalizing named with
    | nil => rfl
    | cons field rest inductionHypothesis =>
      obtain ⟨own, value⟩ := field
      rw [List.reverse_cons, List.findSome?_append, Option.or_assoc]
      cases own with
      | none => exact inductionHypothesis named
      | some own =>
        have named? : Field.named? ⟨some own, value⟩ = some (own, value) := rfl
        rw [List.filterMap_cons_some named?, List.foldl_cons, inductionHypothesis,
          Dictionary.get?_insert]
        by_cases same : key = own
        · simp [Field.valueUnder?, same]
        · simp [Field.valueUnder?, same, Ne.symm same]
  have whole := put .empty
  rwa [show Dictionary.empty.get? key = Option.none from rfl, Option.or_none] at whole

/-- The positional values are those of the fields without the mark, in their order. -/
theorem positional_read (marks : Marks) (fields : List Text) :
    (ofFields (fields.map (Field.read marks))).positional =
      (fields.filter fun text => ¬ marks.keyValue <:+: text).map
        (Value.read marks.multivalue) := by
  simp only [ofFields, List.filterMap_map]
  induction fields with
  | nil => rfl
  | cons text rest inductionHypothesis =>
    have head : (Field.positional? ∘ Field.read marks) text = _ := Field.positional?_read marks text
    by_cases stands : marks.keyValue <:+: text
    · rw [if_pos stands] at head
      rw [List.filterMap_cons_none head, List.filter_cons_of_neg (by simpa using stands),
        inductionHypothesis]
    · rw [if_neg stands] at head
      rw [List.filterMap_cons_some head, List.filter_cons_of_pos (by simpa using stands),
        List.map_cons, inductionHypothesis]

/-- What is read from fields is what they say. -/
theorem collects_ofFields (solid : marks.multivalue ≠ []) (fields : List Text) :
    (ofFields (fields.map (Field.read marks))).Collects marks fields := by
  constructor
  · rw [positional_read, List.forall₂_map_right_iff, List.forall₂_same]
    exact fun text _ => (Value.spells_iff solid).mpr rfl
  · intro key value
    rw [get?_ofFields, ← List.map_reverse, List.findSome?_map, List.findSome?_eq_some_iff]
    constructor
    · rintro ⟨after, text, before, turned, under, later⟩
      obtain ⟨raw, keyed, spells⟩ := (Field.valueUnder?_read_eq_some_iff solid).mp under
      refine ⟨before.reverse, text, after.reverse, raw, ?_, keyed, spells, ?_⟩
      · simpa using List.reverse_eq_iff.mp turned
      · intro other member
        exact Field.valueUnder?_read_eq_none_iff.mp (later other (List.mem_reverse.mp member))
    · rintro ⟨before, text, after, raw, rfl, keyed, spells, later⟩
      refine ⟨after.reverse, text, before.reverse, by simp, ?_, ?_⟩
      · exact (Field.valueUnder?_read_eq_some_iff solid).mpr ⟨raw, keyed, spells⟩
      · intro other member
        exact Field.valueUnder?_read_eq_none_iff.mpr (later other (List.mem_reverse.mp member))
  · intro key
    simp [get?_ofFields, ← List.map_reverse, List.findSome?_map, List.findSome?_eq_none_iff,
      Field.valueUnder?_read_eq_none_iff]
  · rw [positional_read, List.length_map, ← List.countP_eq_length_filter,
      List.length_eq_countP_add_countP (fun text => decide (marks.keyValue <:+: text)),
      Nat.add_comm]
    simp

end Parameters

/-- An occurrence has the name in front of the first parameter separator of its body, and the
text behind this separator is what is left of the body. This text falls into fields, from left to
right, which joined together give it back and in which no parameter separator stands. The
parameters hold what the fields say and nothing else; without a parameter separator there are
none. -/
theorem Segment.occurrence_collects (delimiters : Delimiters) (offset : Nat) (segment : Segment) :
    let marks := delimiters.toMarks
    let found := segment.occurrence marks offset
    (∃ name, Text.CutAt marks.parameter segment.body name found.rawParameters ∧
        found.name = Text.trim name) ∧
      (found.rawParameters = none → found.parameters = .none) ∧
      ∀ raw, found.rawParameters = some raw →
        ∃ fields, fields ≠ [] ∧ Text.join marks.parameter fields = raw ∧
          Text.Parted marks.parameter fields ∧ (∀ text ∈ fields, ¬ marks.parameter <:+: text) ∧
            found.parameters.Collects marks fields := by
  intro marks found
  have parameters : found.parameters =
      (found.rawParameters.map (Parameters.read marks)).getD .none := rfl
  refine ⟨⟨_, Token.cutAt_cutBody marks segment.body, rfl⟩, fun absent => ?_, fun raw behind => ?_⟩
  · rw [parameters, absent]
    rfl
  · have solid : marks.parameter ≠ [] := delimiters.parameter_ne_nil
    refine ⟨Text.split marks.parameter raw, Text.split_ne_nil solid raw, Text.join_split solid raw,
      Text.parted_split solid raw,
      fun text member => (Text.infix_of_mem_split solid member).2, ?_⟩
    rw [parameters, behind]
    exact Parameters.collects_ofFields delimiters.multivalue_ne_nil _

/-- Of two fields with one key the last one counts, and an empty field is a value. -/
example :
    (Token.ofBody Marks.standard "a|x| k :1|k:2,3|".toList).parameters =
      ⟨[.single "x".toList, .single []],
        .ofList [("k".toList, .multi ["2".toList, "3".toList])]⟩ := by
  decide +kernel

end PageTokens
