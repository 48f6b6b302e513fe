import Mathlib.Algebra.Group.Nat.Defs
import Mathlib.Data.Char
import Mathlib.Data.List.Lex
import Mathlib.Data.List.Nodup
import Mathlib.Tactic.SplitIfs
import PageTokens.Text.Basic

/-!
# The order of texts in bytes

Texts are ordered by their characters. Their UTF-8 forms, compared byte by byte,
have the same order: a greater character has a greater first byte, or the same
first byte and then greater digits. So what ascends by characters ascends by
bytes (`bytes_lt_bytes_iff`).
-/

namespace PageTokens.Text

/-- The bytes of the UTF-8 form of a text. -/
def bytes (text : Text) : List Nat :=
  text.flatMap fun char => (String.utf8EncodeChar char).map UInt8.toNat

/-- The number of bytes behind the first byte of a character with a given code. -/
def trailing (code : Nat) : Nat :=
  if code ≤ 127 then 0 else if code ≤ 2047 then 1 else if code ≤ 65535 then 2 else 3

/-- What the first byte of a character holds besides digits of the code. -/
def leadMark : Nat → Nat
  | 0 => 0
  | 1 => 192
  | 2 => 224
  | _ => 240

/-- The first byte of a character with a given code. -/
def lead (code : Nat) : Nat :=
  code / 64 ^ trailing code + leadMark (trailing code)

/-- The last bytes of a character: the lowest digits of its code to the base 64. -/
def trail : Nat → Nat → List Nat
  | 0, _ => []
  | count + 1, code => (code / 64 ^ count % 64 + 128) :: trail count code

/-- The first byte has room for all digits of a code that the last bytes do not hold. -/
theorem map_utf8EncodeChar (char : Char) :
    (String.utf8EncodeChar char).map UInt8.toNat =
      lead char.val.toNat :: trail (trailing char.val.toNat) char.val.toNat := by
  have valid := char.valid
  simp only [UInt32.isValidChar, Nat.isValidChar] at valid
  simp only [String.utf8EncodeChar, lead, trailing]
  split_ifs <;>
    simp only [leadMark, trail, List.map_cons, List.map_nil, UInt8.toNat_ofNat', List.cons.injEq,
      and_true] <;>
    omega

variable {low high : Nat} (before : low < high)

include before

/-- A greater code point has no fewer trailing octets. -/
theorem trailing_le_trailing : trailing low ≤ trailing high := by
  unfold trailing
  split_ifs <;> omega

/-- A character with more bytes has a greater first byte. -/
theorem lead_lt_lead (longer : trailing low < trailing high) : lead low < lead high := by
  revert longer
  unfold lead trailing
  split_ifs <;> simp only [leadMark] <;> omega

/-- Codes with the same digits in front are told apart by the last bytes. -/
theorem trail_lt_trail {count : Nat} (same : low / 64 ^ count = high / 64 ^ count)
    (left right : List Nat) : trail count low ++ left < trail count high ++ right := by
  induction count with
  | zero =>
    simp only [Nat.pow_zero, Nat.div_one] at same
    omega
  | succ count inductionHypothesis =>
    rw [trail, trail, List.cons_append, List.cons_append, List.cons_lt_cons_iff]
    -- The highest of the digits decides, unless it is the same in both codes.
    by_cases digit : low / 64 ^ count = high / 64 ^ count
    · exact .inr ⟨by rw [digit], inductionHypothesis digit⟩
    · have ordered := Nat.div_le_div_right (c := 64 ^ count) before.le
      rw [Nat.pow_succ, ← Nat.div_div_eq_div_mul, ← Nat.div_div_eq_div_mul] at same
      exact .inl (by omega)

/-- The bytes of the lower code come first, whatever follows them. -/
theorem octets_lt_octets (left right : List Nat) :
    lead low :: trail (trailing low) low ++ left <
      lead high :: trail (trailing high) high ++ right := by
  rw [List.cons_append, List.cons_append, List.cons_lt_cons_iff]
  rcases (trailing_le_trailing before).lt_or_eq with longer | same
  · exact .inl (lead_lt_lead before longer)
  · rw [lead, lead, ← same]
    by_cases digits : low / 64 ^ trailing low = high / 64 ^ trailing low
    · exact .inr ⟨by rw [digits], trail_lt_trail before digits left right⟩
    · have ordered := Nat.div_le_div_right (c := 64 ^ trailing low) before.le
      exact .inl (by omega)

omit before

/-- Texts with a common front are in the order of what follows it. -/
theorem append_lt_append_left_iff (front : List Nat) {left right : List Nat} :
    front ++ left < front ++ right ↔ left < right := by
  induction front with
  | nil => rfl
  | cons head front inductionHypothesis => simp [inductionHypothesis]

/-- Of two characters that differ the smaller one has the smaller octets, whatever follows them. -/
theorem bytes_cons_lt_bytes_cons {first second : Char} (before : first < second)
    (left right : Text) : bytes (first :: left) < bytes (second :: right) := by
  simp only [bytes, List.flatMap_cons, map_utf8EncodeChar]
  exact octets_lt_octets before _ _

/-- Texts have the order of the bytes of their UTF-8 forms. -/
theorem bytes_lt_bytes_iff {left right : Text} : left.bytes < right.bytes ↔ left < right := by
  induction left generalizing right with
  | nil =>
    cases right with
    | nil => simp [bytes]
    | cons char rest => simp [bytes, map_utf8EncodeChar]
  | cons first left inductionHypothesis =>
    cases right with
    | nil => simp [bytes]
    | cons second right =>
      rw [List.cons_lt_cons_iff]
      rcases lt_trichotomy first second with before | rfl | after
      · exact iff_of_true (bytes_cons_lt_bytes_cons before left right) (.inl before)
      · rw [bytes, bytes, List.flatMap_cons, List.flatMap_cons, append_lt_append_left_iff]
        simpa [bytes] using inductionHypothesis
      · refine iff_of_false (bytes_cons_lt_bytes_cons after right left).asymm ?_
        rintro (before | ⟨rfl, -⟩)
        · exact before.asymm after
        · exact lt_irrefl _ after

/-- Whether a text is not behind another one in the order of their bytes. -/
def inByteOrder (left right : Text) : Bool :=
  decide (left.bytes ≤ right.bytes)

/-- The order of octets is the order of code points. -/
theorem inByteOrder_iff {left right : Text} : inByteOrder left right = true ↔ ¬ right < left := by
  rw [inByteOrder, decide_eq_true_eq, ← not_lt, bytes_lt_bytes_iff]

/-- Sorting by bytes gives the order that texts have by their characters. -/
theorem mergeSort_inByteOrder {Item : Type} (key : Item → Text) {items sorted : List Item}
    (ascending : sorted.Pairwise fun left right => key left < key right)
    (same : items.Perm sorted) :
    (items.mergeSort fun left right => inByteOrder (key left) (key right)) = sorted := by
  have transitive : ∀ first second third : Item,
      inByteOrder (key first) (key second) = true → inByteOrder (key second) (key third) = true →
        inByteOrder (key first) (key third) = true := by
    simp only [inByteOrder, decide_eq_true_eq]
    exact fun _ _ _ => le_trans
  have total : ∀ first second : Item,
      (inByteOrder (key first) (key second) || inByteOrder (key second) (key first)) = true := by
    simp only [inByteOrder, Bool.or_eq_true, decide_eq_true_eq]
    exact fun _ _ => le_total _ _
  have distinct : (sorted.map key).Nodup :=
    List.pairwise_map.mpr (ascending.imp fun before => ne_of_lt before)
  have permuted := (List.mergeSort_perm items
    fun left right => inByteOrder (key left) (key right)).trans same
  refine List.Perm.eq_of_pairwise ?_ (List.pairwise_mergeSort transitive total items)
    (ascending.imp fun before => inByteOrder_iff.mpr before.asymm) permuted
  intro left right inItems inSorted upward downward
  rw [inByteOrder_iff] at upward downward
  exact List.inj_on_of_nodup_map distinct (permuted.mem_iff.mp inItems) inSorted
    (le_antisymm (not_lt.mp upward) (not_lt.mp downward))

end PageTokens.Text
