import Mathlib.Data.List.Infix
import PageTokens.Text.Cut

/-!
# The first place of a mark

`LeadsTo` says that a mark written behind a text stands there for the first
time. It is stated through the parts of the text alone, and `cut?_eq_some_iff`
shows that it is exactly what cutting a text finds. `cut?_eq_none_iff` says when
cutting finds nothing. `Clear` says that a mark never begins in the first of two
texts; then the places of the mark are those of the second text.
-/

namespace PageTokens.Text

/-- In a text followed by a mark, the mark stands behind the text and nowhere before. -/
def LeadsTo (text mark : Text) : Prop :=
  ∀ before after, text ++ mark = before ++ mark ++ after → before = text

variable {mark text before after rest : Text} {char : Char}

/-- The text before a place of the mark cannot be longer than the text before the last mark. -/
theorem length_le_of_append_eq (equal : text ++ mark = before ++ mark ++ after) :
    before.length ≤ text.length := by
  have lengths := congrArg List.length equal
  simp only [List.length_append] at lengths
  omega

theorem leadsTo_nil (mark : Text) : LeadsTo [] mark := by
  intro before after equal
  exact List.eq_nil_of_length_eq_zero (Nat.le_zero.mp (length_le_of_append_eq equal))

/-- A longer text leads to a mark when the mark does not stand at its first character. -/
theorem leadsTo_cons_iff :
    LeadsTo (char :: text) mark ↔ ¬ mark <+: char :: text ++ mark ∧ LeadsTo text mark := by
  constructor
  · intro leads
    constructor
    · rintro ⟨after, equal⟩
      have empty := leads [] after (by simpa using equal.symm)
      contradiction
    · intro before after equal
      have longer := leads (char :: before) after (by simp [equal])
      exact (List.cons.inj longer).2
  · rintro ⟨absent, leads⟩ before after equal
    cases before with
    | nil => exact absurd ⟨after, by simpa using equal.symm⟩ absent
    | cons head before =>
      obtain ⟨rfl, tails⟩ := List.cons.inj equal
      rw [leads before after tails]

/-- A mark that stands early in a text stands early in every continuation of it. -/
theorem prefix_append_append_iff : mark <+: text ++ mark ++ rest ↔ mark <+: text ++ mark := by
  constructor
  · intro stands
    exact List.prefix_of_prefix_length_le stands (List.prefix_append _ _) (by simp)
  · intro stands
    exact stands.trans (List.prefix_append _ _)

theorem behind?_eq_none_iff : behind? mark text = none ↔ ¬ mark <+: text := by
  rw [Option.eq_none_iff_forall_ne_some]
  constructor
  · rintro absent ⟨after, equal⟩
    exact absent after (behind?_eq_some_iff.mpr equal.symm)
  · intro absent after found
    exact absent ⟨after, (behind?_eq_some_iff.mp found).symm⟩

/-- A cut at the first character. -/
theorem cut?_of_prefix (mark after : Text) : cut? mark (mark ++ after) = some ([], after) := by
  unfold cut?
  rw [behind?_eq_some_iff.mpr rfl]

/-- A cut behind the first character. -/
theorem cut?_cons (absent : ¬ mark <+: char :: text) :
    cut? mark (char :: text) =
      (cut? mark text).map fun (before, after) => (char :: before, after) := by
  rw [cut?, behind?_eq_none_iff.mpr absent]

/-- The text before a cut leads to the mark. -/
theorem leadsTo_of_cut? (found : cut? mark text = some (before, after)) :
    LeadsTo before mark := by
  induction text generalizing before with
  | nil =>
    have whole := eq_of_cut? found
    simp only [List.nil_eq, List.append_eq_nil_iff] at whole
    rw [whole.1.1]
    exact leadsTo_nil mark
  | cons char rest inductionHypothesis =>
    by_cases stands : mark <+: char :: rest
    · obtain ⟨behind, equal⟩ := stands
      rw [← equal, cut?_of_prefix] at found
      obtain ⟨rfl, -⟩ := Prod.mk.inj (Option.some.inj found)
      exact leadsTo_nil mark
    · rw [cut?_cons stands] at found
      obtain ⟨⟨inner, behind⟩, cutRest, equal⟩ := Option.map_eq_some_iff.mp found
      obtain ⟨rfl, rfl⟩ := Prod.mk.inj equal
      rw [eq_of_cut? cutRest, ← List.cons_append, ← List.cons_append,
        prefix_append_append_iff] at stands
      exact leadsTo_cons_iff.mpr ⟨stands, inductionHypothesis cutRest⟩

/-- A text that leads to a mark is what a cut at the mark finds before it. -/
theorem cut?_append (leads : LeadsTo before mark) (after : Text) :
    cut? mark (before ++ mark ++ after) = some (before, after) := by
  induction before with
  | nil => exact cut?_of_prefix mark after
  | cons char before inductionHypothesis =>
    obtain ⟨absent, leadsTail⟩ := leadsTo_cons_iff.mp leads
    have absentLonger : ¬ mark <+: char :: (before ++ mark ++ after) := by
      simpa using mt prefix_append_append_iff.mp absent
    rw [List.cons_append, List.cons_append, cut?_cons absentLonger,
      inductionHypothesis leadsTail]
    rfl

/-- A cut finds exactly the first place of the mark. -/
theorem cut?_eq_some_iff :
    cut? mark text = some (before, after) ↔
      text = before ++ mark ++ after ∧ LeadsTo before mark := by
  constructor
  · intro found
    exact ⟨eq_of_cut? found, leadsTo_of_cut? found⟩
  · rintro ⟨rfl, leads⟩
    exact cut?_append leads after

/-- A cut finds nothing exactly when the mark stands nowhere. -/
theorem cut?_eq_none_iff : cut? mark text = none ↔ ¬ mark <:+: text := by
  induction text with
  | nil =>
    rw [List.infix_nil, cut?]
    cases mark <;> simp [behind?]
  | cons char rest inductionHypothesis =>
    rw [List.infix_cons_iff, not_or]
    by_cases stands : mark <+: char :: rest
    · obtain ⟨after, equal⟩ := stands
      rw [← equal, cut?_of_prefix]
      simp
    · rw [cut?_cons stands, Option.map_eq_none_iff, inductionHypothesis]
      exact (and_iff_right stands).symm

instance (text mark : Text) : Decidable (LeadsTo text mark) :=
  decidable_of_iff (cut? mark (text ++ mark) = some (text, [])) (by simp [cut?_eq_some_iff])

/-- A text contains a mark when the mark stands somewhere in it. -/
theorem contains_iff_infix : contains mark text = true ↔ mark <:+: text := by
  rw [contains, Option.isSome_iff_ne_none, ne_eq, cut?_eq_none_iff, not_not]

/-- A text that shares no character with a mark does not hold the mark. -/
theorem not_infix_of_disjoint (solid : mark ≠ []) (apart : text.Disjoint mark) :
    ¬ mark <:+: text := by
  intro stands
  obtain ⟨char, rest, rfl⟩ := List.exists_cons_of_ne_nil solid
  exact apart (stands.subset List.mem_cons_self) List.mem_cons_self

/-- A text that shares no character with a mark leads to it. -/
theorem leadsTo_of_disjoint (solid : mark ≠ []) (apart : text.Disjoint mark) :
    LeadsTo text mark := by
  induction text with
  | nil => exact leadsTo_nil mark
  | cons char rest inductionHypothesis =>
    obtain ⟨charApart, restApart⟩ := List.disjoint_cons_left.mp apart
    refine leadsTo_cons_iff.mpr ⟨fun stands => ?_, inductionHypothesis restApart⟩
    obtain ⟨head, tail, rfl⟩ := List.exists_cons_of_ne_nil solid
    obtain ⟨same, -⟩ := List.cons_prefix_cons.mp stands
    exact charApart (same ▸ List.mem_cons_self)

/-- A text that leads to a mark does not hold the mark. -/
theorem not_infix_of_leadsTo (solid : mark ≠ []) (leads : LeadsTo text mark) :
    ¬ mark <:+: text := by
  rintro ⟨before, after, whole⟩
  have early := leads before (after ++ mark) (by simp [← whole])
  have positive := List.length_pos_iff.mpr solid
  have lengths := congrArg List.length whole
  simp only [List.length_append, early] at lengths
  omega

/-- The text before the first place of a mark is a beginning of the text before any place. -/
theorem LeadsTo.prefix_of_append_eq {other behind : Text} (leads : LeadsTo text mark)
    (same : text ++ mark ++ rest = other ++ mark ++ behind) : text <+: other := by
  have front : text <+: text ++ mark ++ rest := ⟨mark ++ rest, by simp⟩
  have otherFront : other <+: text ++ mark ++ rest := ⟨mark ++ behind, by simp [same]⟩
  refine List.prefix_of_prefix_length_le front otherFront ?_
  by_contra longer
  have whole : other ++ mark <+: text ++ mark ++ rest := ⟨behind, same.symm⟩
  have early : other ++ mark <+: text ++ mark := by
    refine List.prefix_of_prefix_length_le whole (List.prefix_append _ _) ?_
    simp only [List.length_append]
    omega
  obtain ⟨after, inside⟩ := early
  rw [leads other after inside.symm] at longer
  exact longer le_rfl

/-- Of a mark of one character, a text without the mark is a text without the character. -/
theorem disjoint_of_not_infix (short : mark.length = 1) (absent : ¬ mark <:+: text) :
    text.Disjoint mark := by
  obtain ⟨char, rfl⟩ := List.length_eq_one_iff.mp short
  intro shared inText inMark
  obtain rfl := List.mem_singleton.mp inMark
  obtain ⟨before, after, rfl⟩ := List.append_of_mem inText
  exact absent ⟨before, after, by simp⟩

/-- In two texts put together, a mark never begins in the first. -/
def Clear (mark front back : Text) : Prop :=
  ∀ before after, front ++ back = before ++ mark ++ after → front.length ≤ before.length

variable {front back literal : Text}

/-- The front is clear when no mark begins at any of its characters. -/
theorem clear_iff_drop : Clear mark front back ↔
    ∀ count < front.length, ¬ mark <+: (front ++ back).drop count := by
  constructor
  · rintro clear count within ⟨after, stands⟩
    have whole := List.take_append_drop count (front ++ back)
    rw [← stands, ← List.append_assoc] at whole
    have behind := clear _ after whole.symm
    rw [List.length_take] at behind
    omega
  · intro absent before after whole
    by_contra within
    refine absent before.length (not_le.mp within) ⟨after, ?_⟩
    rw [whole, List.append_assoc, List.drop_left]

instance (mark front back : Text) : Decidable (Clear mark front back) :=
  decidable_of_iff _ clear_iff_drop.symm

/-- A place of the mark is a place in the second text. -/
theorem Clear.exists_inner (clear : Clear mark front back) {before after : Text}
    (stands : front ++ back = before ++ mark ++ after) :
    ∃ inner, before = front ++ inner ∧ back = inner ++ mark ++ after := by
  have inFront : front <+: before := by
    refine List.prefix_of_prefix_length_le (List.prefix_append front back) ?_
      (clear before after stands)
    exact ⟨mark ++ after, by rw [stands, List.append_assoc]⟩
  obtain ⟨inner, rfl⟩ := inFront
  refine ⟨inner, rfl, ?_⟩
  simpa using stands

/-- A clear front may stand before a literal that leads to the mark. -/
theorem Clear.leadsTo (clear : Clear mark front (literal ++ mark ++ rest))
    (leads : LeadsTo literal mark) : LeadsTo (front ++ literal) mark := by
  intro before after stands
  have longer : front ++ (literal ++ mark ++ rest) = before ++ mark ++ (after ++ rest) := by
    simpa using congrArg (· ++ rest) stands
  obtain ⟨inner, rfl, -⟩ := clear.exists_inner longer
  have inBack : literal ++ mark = inner ++ mark ++ after := by simpa using stands
  rw [leads inner after inBack]

/-- A clear front in front of a text without the mark brings in no mark. -/
theorem Clear.not_infix (clear : Clear mark front back) (absent : ¬ mark <:+: back) :
    ¬ mark <:+: front ++ back := by
  rintro ⟨before, after, stands⟩
  obtain ⟨inner, -, inBack⟩ := clear.exists_inner stands.symm
  exact absent ⟨inner, after, inBack.symm⟩

end PageTokens.Text
