import PageTokens.Text.Basic

/-!
# Blanks

The characters with the Unicode property `White_Space`, and texts without such
characters at either end. `trim_eq_self_iff` says which texts trimming leaves alone.
-/

namespace PageTokens

/-- The ranges of code points with the property `White_Space`. -/
def blankRanges : List (Nat × Nat) :=
  [(0x9, 0xd), (0x20, 0x20), (0x85, 0x85), (0xa0, 0xa0), (0x1680, 0x1680), (0x2000, 0x200a),
    (0x2028, 0x2029), (0x202f, 0x202f), (0x205f, 0x205f), (0x3000, 0x3000)]

/-- Whether a character is white space. -/
def isBlank (char : Char) : Bool :=
  blankRanges.any fun (first, last) => first ≤ char.toNat && char.toNat ≤ last

namespace Text

/-- A text without the blanks at its start. -/
def trimLeft (text : Text) : Text :=
  text.dropWhile isBlank

/-- A text without the blanks at its end. -/
def trimRight (text : Text) : Text :=
  (text.reverse.dropWhile isBlank).reverse

/-- A text without the blanks at its two ends. -/
def trim (text : Text) : Text :=
  trimRight (trimLeft text)

@[simp] theorem trim_nil : trim [] = [] := rfl

/-- A text that does not begin with a blank has nothing to lose at its start. -/
theorem trimLeft_eq_self_iff {text : Text} :
    trimLeft text = text ↔ ∀ char ∈ text.head?, isBlank char = false := by
  cases text with
  | nil => simp [trimLeft]
  | cons char rest =>
    cases blank : isBlank char with
    | false => simp [trimLeft, List.dropWhile, blank]
    | true =>
      simp only [trimLeft, List.dropWhile, blank, List.head?_cons, Option.mem_def,
        Option.some.injEq, forall_eq', Bool.true_eq_false, iff_false]
      intro equal
      have lengths := congrArg List.length equal
      have bound := (List.dropWhile_suffix isBlank (l := rest)).length_le
      simp only [List.length_cons] at lengths
      omega

/-- A text that does not end with a blank has nothing to lose at its end. -/
theorem trimRight_eq_self_iff {text : Text} :
    trimRight text = text ↔ ∀ char ∈ text.getLast?, isBlank char = false := by
  have turned : trimRight text = text ↔ trimLeft text.reverse = text.reverse := by
    constructor
    · intro equal
      exact List.reverse_inj.mp (by simpa [trimRight, trimLeft] using equal)
    · intro equal
      have back := congrArg List.reverse equal
      simpa [trimRight, trimLeft] using back
  rw [turned, trimLeft_eq_self_iff, List.head?_reverse]

/-- Trimming on the left leaves the end of a text. -/
theorem trimLeft_suffix (text : Text) : trimLeft text <:+ text :=
  List.dropWhile_suffix isBlank

theorem trimRight_append (text : Text) : trimRight text <+: text := by
  have suffix := List.dropWhile_suffix isBlank (l := text.reverse)
  simpa [trimRight] using List.reverse_prefix.mpr suffix

/-- Trimming leaves a text alone exactly when neither end is blank. -/
theorem trim_eq_self_iff {text : Text} :
    trim text = text ↔ (∀ char ∈ text.head?, isBlank char = false) ∧
      (∀ char ∈ text.getLast?, isBlank char = false) := by
  rw [← trimLeft_eq_self_iff, ← trimRight_eq_self_iff]
  constructor
  · intro equal
    have short := (trimRight_append (trimLeft text)).length_le
    have length := congrArg List.length equal
    have left : trimLeft text = text :=
      (trimLeft_suffix text).eq_of_length_le (by simp only [trim] at length; omega)
    exact ⟨left, by simpa [trim, left] using equal⟩
  · rintro ⟨left, right⟩
    rw [trim, left, right]

/-- A trimmed text is a part of the text. -/
theorem trim_infix (text : Text) : trim text <:+: text :=
  (trimRight_append (trimLeft text)).isInfix.trans (trimLeft_suffix text).isInfix

/-- A text trimmed on the left does not begin with a blank. -/
theorem head?_trimLeft_not_blank (text : Text) :
    ∀ char ∈ (trimLeft text).head?, isBlank char = false := by
  intro char first
  have notBlank := List.head?_dropWhile_not isBlank text
  rw [show text.dropWhile isBlank = trimLeft text from rfl, first] at notBlank
  simpa using notBlank

theorem getLast?_trimRight_not_blank (text : Text) :
    ∀ char ∈ (trimRight text).getLast?, isBlank char = false := by
  intro char last
  rw [trimRight, List.getLast?_reverse] at last
  exact head?_trimLeft_not_blank text.reverse char last

/-- Trimming a second time changes nothing. -/
@[simp] theorem trim_trim (text : Text) : trim (trim text) = trim text := by
  refine trim_eq_self_iff.mpr ⟨fun char first => ?_, getLast?_trimRight_not_blank _⟩
  obtain ⟨cutOff, whole⟩ := trimRight_append (trimLeft text)
  refine head?_trimLeft_not_blank text char ?_
  -- What is left after trimming on the right begins with the same character.
  rw [trim, Option.mem_def] at first
  rw [← whole, List.head?_append, first]
  rfl

end Text
end PageTokens
