import Mathlib.Data.Nat.Digits.Defs
import PageTokens.CommandLine.Run
import PageTokens.Data.JsonReader
import PageTokens.Proofs.Dispatch
import PageTokens.Proofs.Grammar
import PageTokens.Proofs.Separation

/-!
# Data written as JSON

What is written as JSON can be read, on one line as well as over several lines:
the reader gets the data back, with the entries of each record in the order of
their keys (`ofJson?_json`). A text survives its escapes, whatever its characters
are, and a number its digits, as long as it fits into 64 bits. So everything that
the program prints as JSON can be read by a reader of JSON.
-/

namespace PageTokens

theorem Text.join_map_cons_cons {α : Type} (separator : Text) (write : α → Text)
    (first second : α) (rest : List α) :
    Text.join separator ((first :: second :: rest).map write) =
      write first ++ separator ++ Text.join separator ((second :: rest).map write) :=
  Text.join_cons_cons separator (write first) (write second) (rest.map write)

/-- Joined pieces begin with the first of them. -/
theorem Text.exists_join_append {α : Type} (separator : Text) (write : α → Text) (first : α)
    (more : List α) (rest : Text) :
    ∃ behind, Text.join separator ((first :: more).map write) ++ rest = write first ++ behind := by
  cases more with
  | nil => exact ⟨rest, by rw [List.map_singleton, Text.join_singleton]⟩
  | cons second others =>
    rw [join_map_cons_cons, List.append_assoc, List.append_assoc]
    exact ⟨_, rfl⟩

/-- What stands behind a value in a JSON text: nothing, or a character that no value goes on
with. -/
def JsonReader.Closed (rest : Text) : Prop :=
  ∀ char ∈ rest.head?, char ∈ [',', ']', '\x7d', '\n', ' ']

namespace Numeral

variable {rest : Text}

theorem digits?_ofNat (number : Nat) (apart : ∀ char ∈ rest.head?, char.isDigit = false) :
    digits? (Text.ofNat number ++ rest) = some (Text.ofNat number, rest) := by
  have digits : ∀ char ∈ Text.ofNat number, char.isDigit = true :=
    fun char => Nat.isDigit_of_mem_toDigits (by decide) (by decide)
  have taken : (Text.ofNat number ++ rest).takeWhile Char.isDigit = Text.ofNat number := by
    rw [List.takeWhile_append_of_pos digits]
    cases rest with
    | nil => simp
    | cons char rest => simp [apart char rfl]
  have some : Text.ofNat number ≠ [] := Nat.toDigits_ne_nil
  simp [digits?, taken, some]

/-- The digits of a number stand for the number. -/
theorem ofDigits_ofNat (number : Nat) : ofDigits (Text.ofNat number) = number := by
  have read := @Nat.ofDigitChars_toDigits 10 number (by decide) (by decide)
  rwa [Nat.ofDigitChars_eq_foldl] at read

/-- Only zero begins with a zero. -/
theorem head?_ofNat {number : Nat} (positive : 0 < number) :
    (Text.ofNat number).head? ≠ some '0' := by
  induction number using Nat.strongRecOn with
  | ind number inductionHypothesis =>
    rw [Text.ofNat, Nat.toDigits_eq_if (by decide)]
    split
    · next single =>
      have each : ∀ digit < 10, 0 < digit → digit.digitChar ≠ '0' := by decide
      simpa using each number single positive
    · next long =>
      rw [List.head?_append_of_ne_nil _ Nat.toDigits_ne_nil]
      exact inductionHypothesis (number / 10) (by omega) (by omega)

/-- Digits whose number is not too great are all kept. -/
theorem foldl_pushWhole {digits : Text} (fits : ofDigits digits ≤ maximumLeading) :
    digits.foldl Leading.pushWhole ⟨0, 0, true⟩ = ⟨ofDigits digits, 0, true⟩ := by
  -- The last digit is the last one to be kept, so the induction is from the end.
  induction digits using List.reverseRecOn with
  | nil => rfl
  | append_singleton front digit inductionHypothesis =>
    have grows : ofDigits (front ++ [digit]) = 10 * ofDigits front + digitValue digit := by
      rw [ofDigits, List.foldl_append]
      rfl
    rw [grows] at fits
    rw [List.foldl_append, inductionHypothesis (by omega), grows]
    simp [Leading.pushWhole, Leading.push?, fits]

/-- A numeral without a point and an exponent. -/
def plain (negative : Bool) (number : Nat) : Numeral :=
  ⟨negative, Text.ofNat number, none, none⟩

/-- A numeral does not go on with what stands behind a value. -/
theorem places?_of_closed (closed : JsonReader.Closed rest) : places? rest = some (none, rest) := by
  cases rest with
  | nil => rfl
  | cons char rest =>
    have other : char ≠ '.' := fun same => absurd (same ▸ closed char rfl) (by decide)
    unfold places?
    split
    · next same => exact absurd (List.cons.inj same).1 other
    · rfl

/-- Nor does it go on with an exponent. -/
theorem power?_of_closed (closed : JsonReader.Closed rest) : power? rest = some (none, rest) := by
  cases rest with
  | nil => rfl
  | cons char rest =>
    have small : char ≠ 'e' := fun same => absurd (same ▸ closed char rfl) (by decide)
    have great : char ≠ 'E' := fun same => absurd (same ▸ closed char rfl) (by decide)
    unfold power?
    split
    · next same => exact absurd (List.cons.inj same).1 small
    · next same => exact absurd (List.cons.inj same).1 great
    · rfl

theorem digits?_of_closed (number : Nat) (closed : JsonReader.Closed rest) :
    digits? (Text.ofNat number ++ rest) = some (Text.ofNat number, rest) := by
  refine digits?_ofNat number fun char first => ?_
  have each : [',', ']', '\x7d', '\n', ' '].all (fun char => !char.isDigit) = true := by decide
  simpa using List.all_eq_true.mp each char (closed char first)

/-- A single zero, and no zero in front of other digits. -/
theorem not_padded (number : Nat) :
    ¬ ((Text.ofNat number).head? = some '0' ∧ (Text.ofNat number).length ≠ 1) := by
  rintro ⟨zero, long⟩
  rcases Nat.eq_zero_or_pos number with rfl | positive
  · exact long rfl
  · exact head?_ofNat positive zero

/-- A natural number is read as the numeral of its digits. -/
theorem read?_ofNat (number : Nat) (closed : JsonReader.Closed rest) :
    read? (Text.ofNat number ++ rest) = some (plain false number, rest) := by
  obtain ⟨first, more, written⟩ := List.exists_cons_of_ne_nil (@Nat.toDigits_ne_nil number 10)
  have digit : first.isDigit = true :=
    Nat.isDigit_of_mem_toDigits (b := 10) (n := number) (by decide) (by decide)
      (written ▸ List.mem_cons_self)
  have unsigned : first ≠ '-' := by
    rintro rfl
    exact absurd digit (by decide)
  have digits := digits?_of_closed number closed
  have padded := not_padded number
  rw [Text.ofNat, written] at digits padded ⊢
  simp only [read?, List.cons_append] at digits ⊢
  split
  · next same => exact absurd (List.cons.inj same).1 unsigned
  · simp only [digits, Option.bind_eq_bind, Option.bind_some, if_neg padded,
      places?_of_closed closed, power?_of_closed closed, plain, Text.ofNat, written]

theorem read?_minus (number : Nat) (closed : JsonReader.Closed rest) :
    read? ('-' :: Text.ofNat number ++ rest) = some (plain true number, rest) := by
  simp only [read?, List.cons_append, digits?_of_closed number closed, Option.bind_eq_bind,
    Option.bind_some, if_neg (not_padded number), places?_of_closed closed,
    power?_of_closed closed]
  rfl

/-- All digits of a number that is not too great are kept. -/
theorem leadingWhole_plain {number : Nat} (fits : number ≤ maximumLeading) (negative : Bool) :
    (plain negative number).leadingWhole = ⟨number, 0, true⟩ := by
  have whole := @foldl_pushWhole (Text.ofNat number) (by rwa [ofDigits_ofNat])
  rwa [ofDigits_ofNat] at whole

/-- The numeral of a natural number is an integer. -/
theorem data?_plain {number : Nat} (fits : number ≤ maximumLeading) :
    (plain false number).data? = some (.integer number) := by
  have whole : (plain false number).integer? = some (Int.ofNat number) := by
    unfold integer?
    simp only [leadingWhole_plain fits]
    rfl
  rw [data?, whole]
  rfl

/-- So is the numeral of a negative number, as long as it fits with its sign. -/
theorem data?_plain_negative {number : Nat} (positive : 0 < number)
    (fits : number ≤ 0x8000000000000000) :
    (plain true number).data? = some (.integer (-Int.ofNat number)) := by
  have small : number ≤ maximumLeading := fits.trans (by decide)
  have whole : (plain true number).integer? = some (-Int.ofNat number) := by
    unfold integer?
    simp only [leadingWhole_plain small]
    simp [plain, positive, fits]
  rw [data?, whole]

end Numeral

namespace JsonReader

variable {rest : Text}

/-- What begins a number begins nothing else. -/
theorem not_mem_of_numeral {first : Char} {others : List Char}
    (numeral : first.isDigit = true ∨ first = '-')
    (apart : others.all (fun char => !char.isDigit && char ≠ '-') = true) : first ∉ others := by
  intro member
  have other := List.all_eq_true.mp apart first member
  rcases numeral with digit | rfl
  · simp [digit] at other
  · simp at other

/-- What begins like a number is read as a numeral. -/
theorem plain?_of_numeral {text : Text} {first : Char} (begins : text.head? = some first)
    (number : first.isDigit = true ∨ first = '-') :
    plain? text = (do
      let (numeral, rest) ← Numeral.read? text
      let value ← numeral.data?
      some (value, rest)) := by
  have apart : first ∉ ['n', 't', 'f'] := not_mem_of_numeral number (by decide)
  simp only [List.mem_cons, List.not_mem_nil, or_false, not_or] at apart
  unfold plain?
  split
  · exact absurd (Option.some.inj begins).symm apart.1
  · exact absurd (Option.some.inj begins).symm apart.2.1
  · exact absurd (Option.some.inj begins).symm apart.2.2
  · rfl

/-- The numbers that fit into 64 bits, with a sign or without one. -/
def Fits (number : Int) : Prop :=
  -0x8000000000000000 ≤ number ∧ number ≤ 0xffffffffffffffff

instance (number : Int) : Decidable (Fits number) :=
  inferInstanceAs (Decidable (_ ∧ _))

/-- The first character of a number. -/
theorem head?_ofInt (number : Int) :
    ∃ first, (Text.ofInt number ++ rest).head? = some first ∧
      (first.isDigit = true ∨ first = '-') := by
  cases number with
  | ofNat number =>
    obtain ⟨first, more, written⟩ := List.exists_cons_of_ne_nil (@Nat.toDigits_ne_nil number 10)
    refine ⟨first, by simp [Text.ofInt, Text.ofNat, written], .inl ?_⟩
    exact Nat.isDigit_of_mem_toDigits (b := 10) (n := number) (by decide) (by decide)
      (written ▸ List.mem_cons_self)
  | negSucc number => exact ⟨'-', rfl, .inr rfl⟩

/-- A number that fits into 64 bits is read as it was written. -/
theorem plain?_ofInt {number : Int} (fits : Fits number) (closed : Closed rest) :
    plain? (Text.ofInt number ++ rest) = some (.integer number, rest) := by
  obtain ⟨first, begins, numeral⟩ := @head?_ofInt rest number
  obtain ⟨least, greatest⟩ := fits
  rw [plain?_of_numeral begins numeral]
  cases number with
  | ofNat number =>
    have small : number ≤ Numeral.maximumLeading := by
      unfold Numeral.maximumLeading
      exact Int.ofNat_le.mp greatest
    simp [Text.ofInt, Numeral.read?_ofNat number closed, Numeral.data?_plain small]
  | negSucc number =>
    have small : number + 1 ≤ 0x8000000000000000 := by omega
    have read := Numeral.read?_minus (number + 1) closed
    rw [Text.ofInt, read]
    simp only [Option.bind_eq_bind, Option.bind_some,
      Numeral.data?_plain_negative (Nat.succ_pos number) small]
    rfl

/-- The character that an escape stands for. -/
def unescape? : Text → Option Char
  | ['\x5c', short] => if short = 'u' then none else unescaped? short
  | ['\x5c', 'u', a, b, c, d] => (unit? a b c d).bind fun unit =>
      if unit < 0xd800 then some (Char.ofNat unit) else none
  | _ => none

/-- An escape is read as the character that it stands for. -/
theorem quoted?_of_unescape? {written : Text} {char : Char} (escape : unescape? written = some char)
    (rest : Text) : quoted? (written ++ rest) = withFirst char (quoted? rest) := by
  unfold unescape? at escape
  split at escape
  · split at escape
    · contradiction
    · next long => simp [quoted?, long, escape]
  · obtain ⟨unit, stands, meant⟩ := Option.bind_eq_some_iff.mp escape
    split at meant
    · next low =>
      obtain rfl := Option.some.inj meant
      simp [quoted?, stands, low]
    · contradiction
  · contradiction

/-- Control characters, quotation marks and backslashes are written as escapes, and all other
characters as they are. -/
theorem unescape?_escapeChar (char : Char) :
    unescape? (Data.escapeChar char) = some char ∨
      Data.escapeChar char = [char] ∧ char ≠ '\x22' ∧ char ≠ '\x5c' ∧ ¬ char < ' ' := by
  -- There are few control characters, so each of them is tried.
  have controls : ∀ code < 0x20,
      unescape? (Data.escapeChar (Char.ofNat code)) = some (Char.ofNat code) := by decide
  by_cases control : char.toNat < 0x20
  · have escape := controls char.toNat control
    rw [Char.ofNat_toNat] at escape
    exact .inl escape
  · by_cases quote : char = '\x22'
    · exact .inl (quote ▸ by decide)
    · by_cases backslash : char = '\x5c'
      · exact .inl (backslash ▸ by decide)
      · have other {code : Nat} (apart : char ≠ Char.ofNat code) : char.toNat ≠ code := by
          rintro rfl
          exact apart (Char.ofNat_toNat char).symm
        have notQuote := @other 0x22 quote
        have notBackslash := @other 0x5c backslash
        refine .inr ⟨?_, quote, backslash, control⟩
        unfold Data.escapeChar
        split <;> first | omega | skip
        rw [if_neg (by omega), if_neg control]

/-- A character in a text is read as it was, whether it was escaped or not. -/
theorem quoted?_escapeChar (char : Char) (rest : Text) :
    quoted? (Data.escapeChar char ++ rest) = withFirst char (quoted? rest) := by
  rcases unescape?_escapeChar char with escape | ⟨plain, quote, backslash, visible⟩
  · exact quoted?_of_unescape? escape rest
  · rw [plain]
    simp [quoted?, backslash, visible]

/-- A text between quotation marks is read as it was written. -/
theorem quoted?_flatMap (text rest : Text) :
    quoted? (text.flatMap Data.escapeChar ++ '\x22' :: rest) = some (text, rest) := by
  induction text with
  | nil => rfl
  | cons char text inductionHypothesis =>
    rw [List.flatMap_cons, List.append_assoc, quoted?_escapeChar, inductionHypothesis]
    rfl

end JsonReader

namespace Data

/-- No number is a fraction, and each fits into 64 bits. -/
inductive Exact : Data → Prop
  | null : Exact .null
  | boolean (flag : Bool) : Exact (.boolean flag)
  | integer {number : Int} (fits : JsonReader.Fits number) : Exact (.integer number)
  | text (content : Text) : Exact (.text content)
  | list {items : List Data} (each : ∀ item ∈ items, Exact item) : Exact (.list items)
  | record {entries : List (Text × Data)} (each : ∀ entry ∈ entries, Exact entry.2) :
      Exact (.record entries)

mutual

/-- The data with the entries of each record in the order of their keys, of two with one key the
later one. -/
def sorted : Data → Data
  | .null => .null
  | .boolean flag => .boolean flag
  | .integer number => .integer number
  | .fraction digits => .fraction digits
  | .text content => .text content
  | .list items => .list (sortedItems items)
  | .record entries => JsonReader.ofEntries (sortedEntries entries)

/-- The items of a list, each sorted. -/
def sortedItems : List Data → List Data
  | [] => []
  | item :: rest => item.sorted :: sortedItems rest

/-- The entries of a record, the value of each sorted. -/
def sortedEntries : List (Text × Data) → List (Text × Data)
  | [] => []
  | (key, value) :: rest => (key, value.sorted) :: sortedEntries rest

end

theorem sortedItems_eq (items : List Data) : sortedItems items = items.map sorted := by
  induction items with
  | nil => rfl
  | cons item rest inductionHypothesis => rw [sortedItems, inductionHypothesis, List.map_cons]

theorem sortedEntries_eq (entries : List (Text × Data)) :
    sortedEntries entries = entries.map fun entry => (entry.1, entry.2.sorted) := by
  induction entries with
  | nil => rfl
  | cons entry rest inductionHypothesis => rw [sortedEntries, inductionHypothesis, List.map_cons]

theorem jsonItems_eq (layout : Option Nat) (items : List Data) :
    jsonItems layout items = items.map (json layout) := by
  induction items with
  | nil => rfl
  | cons item rest inductionHypothesis => rw [jsonItems, inductionHypothesis, List.map_cons]

/-- What stands between a key and its value. -/
def colon (layout : Option Nat) : Text :=
  (if layout.isSome then ": " else ":").toList

/-- An entry of a record written as JSON. -/
def jsonEntry (layout : Option Nat) (entry : Text × Data) : Text :=
  quotedText entry.1 ++ colon layout ++ entry.2.json layout

/-- Entries are written one by one. -/
theorem jsonEntries_eq (layout : Option Nat) (entries : List (Text × Data)) :
    jsonEntries layout entries = entries.map (jsonEntry layout) := by
  induction entries with
  | nil => rfl
  | cons entry rest inductionHypothesis =>
    rw [jsonEntries, inductionHypothesis, List.map_cons]
    rfl

end Data

namespace JsonReader

variable {gap tail rest text : Text} {depth : Nat} {layout : Option Nat} {data : Data}

/-- Blanks and ends of lines. -/
def Gap (gap : Text) : Prop :=
  ∀ char ∈ gap, char = ' ' ∨ char = '\n'

theorem skipBlanks_gap (blank : Gap gap) (rest : Text) :
    skipBlanks (gap ++ rest) = skipBlanks rest := by
  refine List.dropWhile_append_of_pos fun char member => ?_
  rcases blank char member with rfl | rfl <;> rfl

/-- What is written with lines or without them: the pieces with gaps in front of them. -/
theorem enclose_eq (layout : Option Nat) (first last : Text) {pieces : List Text}
    (some : pieces ≠ []) : ∃ gap tail, Gap gap ∧ Gap tail ∧
      Data.enclose layout first last pieces =
        first ++ Text.join ",".toList (pieces.map (gap ++ ·)) ++ tail ++ last := by
  cases layout with
  | none =>
    refine ⟨[], [], fun _ absent => absurd absent List.not_mem_nil,
      fun _ absent => absurd absent List.not_mem_nil, ?_⟩
    simp [Data.enclose]
  | some layers =>
    have blank : Gap ('\n' :: List.replicate (2 * layers) ' ') := by
      intro char member
      rcases List.mem_cons.mp member with rfl | inBlanks
      · exact .inr rfl
      · exact .inl (List.eq_of_mem_replicate inBlanks)
    refine ⟨'\n' :: List.replicate (2 * layers) ' ' ++ "  ".toList,
      '\n' :: List.replicate (2 * layers) ' ', ?_, blank, ?_⟩
    · intro char member
      rcases List.mem_append.mp member with inLine | inBlanks
      · exact blank char inLine
      · exact .inl (by simpa using inBlanks)
    · simp [Data.enclose, some]

/-- A value that is written as JSON can be read behind a gap, if there are steps enough. -/
def Readable (layout : Option Nat) (data : Data) : Prop :=
  ∀ {depth : Nat} {gap rest : Text}, 2 * (data.json layout).length ≤ depth → Gap gap →
    Closed rest → value? depth (gap ++ data.json layout ++ rest) = some (data.sorted, rest)

/-- No value begins with a blank or with the end of a list or record. -/
theorem head?_json (exact : data.Exact) (layout : Option Nat) (rest : Text) :
    ∃ first, (data.json layout ++ rest).head? = some first ∧
      first ∉ [' ', '\t', '\n', '\r', ']', '\x7d'] := by
  have enclosed (first last : Char) (pieces : List Text) :
      (Data.enclose layout [first] [last] pieces ++ rest).head? = some first := by
    unfold Data.enclose
    split
    · rfl
    · split <;> rfl
  cases exact with
  | null => exact ⟨'n', rfl, by decide⟩
  | boolean flag => cases flag <;> exact ⟨_, rfl, by decide⟩
  | @integer number fits =>
    obtain ⟨first, begins, numeral⟩ := @head?_ofInt rest number
    exact ⟨first, begins, not_mem_of_numeral numeral (by decide)⟩
  | text content => exact ⟨'\x22', rfl, by decide⟩
  | list each => exact ⟨'[', enclosed '[' ']' _, by decide⟩
  | record each => exact ⟨'\x7b', enclosed '\x7b' '\x7d' _, by decide⟩

/-- The gap in front of a value is passed over. -/
theorem skipBlanks_json (exact : data.Exact) (blank : Gap gap) :
    skipBlanks (gap ++ data.json layout ++ rest) = data.json layout ++ rest := by
  obtain ⟨first, begins, apart⟩ := head?_json exact layout rest
  obtain ⟨more, written⟩ := List.head?_eq_some_iff.mp begins
  rw [List.append_assoc, skipBlanks_gap blank, written, skipBlanks, List.dropWhile_cons_of_neg]
  intro member
  exact apart (by simp_all)

/-- What begins with no quotation mark and no bracket is a word or a numeral. -/
theorem value?_of_plain {inner : Text} {first : Char} (skips : skipBlanks text = inner)
    (begins : inner.head? = some first) (apart : first ∉ ['\x22', '[', '\x7b']) :
    value? (depth + 1) text = plain? inner := by
  simp only [List.mem_cons, List.not_mem_nil, or_false, not_or] at apart
  rw [value?, skips]
  split
  · exact absurd (by simpa using begins.symm) apart.1
  · exact absurd (by simpa using begins.symm) apart.2.1
  · exact absurd (by simpa using begins.symm) apart.2.2
  · rfl

section Tail

variable (idle : Gap tail) {last : Char}

include idle

/-- The gap in front of the end of a list or record is passed over. -/
theorem skipBlanks_tail (visible : last ∉ [' ', '\t', '\n', '\r']) :
    skipBlanks (tail ++ last :: rest) = last :: rest := by
  rw [skipBlanks_gap idle, skipBlanks, List.dropWhile_cons_of_neg]
  intro blank
  exact visible (by simpa [or_assoc] using blank)

/-- A gap and the end of a list or record can stand behind a value. -/
theorem closed_tail (closes : last ∈ [',', ']', '\x7d']) : Closed (tail ++ last :: rest) := by
  intro char begins
  cases tail with
  | nil =>
    obtain rfl := Option.some.inj begins
    exact List.mem_append_left ['\n', ' '] closes
  | cons first more =>
    obtain rfl := Option.some.inj begins
    rcases idle first List.mem_cons_self with rfl | rfl <;> decide

end Tail

/-- The pieces in front of a comma and behind it. -/
theorem append_comma (piece pieces last : Text) :
    piece ++ ",".toList ++ pieces ++ last = piece ++ ',' :: (pieces ++ last) := by
  simp

/-- So can a comma. -/
theorem closed_comma (rest : Text) : Closed (',' :: rest) := by
  rintro char ⟨⟩
  decide

/-- Items that can be read are read one after the other, up to the end of their list. -/
theorem items?_join {items : List Data} (each : ∀ item ∈ items, Readable layout item)
    (some : items ≠ []) (blank : Gap gap) (idle : Gap tail)
    (deep : 2 * (Text.join ",".toList
      (items.map fun item => gap ++ item.json layout)).length < depth) :
    items? depth (Text.join ",".toList (items.map fun item => gap ++ item.json layout) ++
      (tail ++ ']' :: rest)) = .some (items.map Data.sorted, rest) := by
  induction items generalizing depth with
  | nil => contradiction
  | cons item more inductionHypothesis =>
    obtain ⟨readable, others⟩ := List.forall_mem_cons.mp each
    obtain ⟨depth, rfl⟩ := Nat.exists_eq_succ_of_ne_zero (Nat.ne_zero_of_lt deep)
    cases more with
    | nil =>
      rw [List.map_singleton, Text.join_singleton] at deep ⊢
      rw [List.length_append] at deep
      have skips : skipBlanks (tail ++ ']' :: rest) = ']' :: rest :=
        skipBlanks_tail idle (by decide)
      rw [items?, readable (by omega) blank (closed_tail idle (by decide))]
      simp only [Option.bind_eq_bind, Option.bind_some, skips]
      rfl
    | cons second further =>
      rw [Text.join_map_cons_cons] at deep ⊢
      have behind := @inductionHypothesis depth others (List.cons_ne_nil second further)
      -- From here on only the length of what is behind the comma counts.
      generalize Text.join ",".toList
        ((second :: further).map fun item => gap ++ item.json layout) = written at deep behind ⊢
      have comma : ",".toList.length = 1 := rfl
      simp only [List.length_append, comma] at deep
      rw [append_comma, items?, readable (by omega) blank (closed_comma _)]
      have skips : skipBlanks (',' :: (written ++ (tail ++ ']' :: rest))) =
          ',' :: (written ++ (tail ++ ']' :: rest)) := rfl
      simp only [Option.bind_eq_bind, Option.bind_some, skips, behind (by omega)]
      rfl

/-- What the reader makes of an entry and the text behind it. -/
def withEntries (depth : Nat) (entry : Text × Data) (rest : Text) :
    Option (List (Text × Data) × Text) :=
  match skipBlanks rest with
  | ',' :: more => do
    let (entries, after) ← entries? depth more
    some (entry :: entries, after)
  | '\x7d' :: after => some ([entry], after)
  | _ => none

/-- An entry whose value can be read is read up to what stands behind it. -/
theorem entries?_entry {entry : Text × Data} (readable : Readable layout entry.2)
    (deep : 2 * (entry.2.json layout).length ≤ depth) (blank : Gap gap) (closed : Closed rest) :
    entries? (depth + 1) (gap ++ Data.jsonEntry layout entry ++ rest) =
      withEntries depth (entry.1, entry.2.sorted) rest := by
  obtain ⟨space, free, colon⟩ : ∃ space, Gap space ∧ Data.colon layout = ':' :: space := by
    cases layout with
    | none => exact ⟨[], fun _ absent => absurd absent List.not_mem_nil, rfl⟩
    | some layers => exact ⟨[' '], by simp [Gap], by simp [Data.colon]⟩
  have written : gap ++ Data.jsonEntry layout entry ++ rest =
      gap ++ '\x22' :: (entry.1.flatMap Data.escapeChar ++ '\x22' ::
        (':' :: (space ++ entry.2.json layout ++ rest))) := by
    simp [Data.jsonEntry, Data.quotedText, colon]
  have begins : skipBlanks ('\x22' :: (entry.1.flatMap Data.escapeChar ++ '\x22' ::
      (':' :: (space ++ entry.2.json layout ++ rest)))) =
      '\x22' :: (entry.1.flatMap Data.escapeChar ++ '\x22' ::
        (':' :: (space ++ entry.2.json layout ++ rest))) := rfl
  have divides : skipBlanks (':' :: (space ++ entry.2.json layout ++ rest)) =
      ':' :: (space ++ entry.2.json layout ++ rest) := rfl
  rw [entries?, written, skipBlanks_gap blank, begins]
  simp only [quoted?_flatMap, Option.bind_eq_bind, Option.bind_some, divides,
    readable deep free closed]
  rfl

/-- Entries whose values can be read are read one after the other, up to the end of their record. -/
theorem entries?_join {entries : List (Text × Data)}
    (each : ∀ entry ∈ entries, Readable layout entry.2) (some : entries ≠ []) (blank : Gap gap)
    (idle : Gap tail)
    (deep : 2 * (Text.join ",".toList
      (entries.map fun entry => gap ++ Data.jsonEntry layout entry)).length < depth) :
    entries? depth (Text.join ",".toList
        (entries.map fun entry => gap ++ Data.jsonEntry layout entry) ++
      (tail ++ '\x7d' :: rest)) =
        .some (entries.map fun entry => (entry.1, entry.2.sorted), rest) := by
  induction entries generalizing depth with
  | nil => contradiction
  | cons entry more inductionHypothesis =>
    obtain ⟨readable, others⟩ := List.forall_mem_cons.mp each
    obtain ⟨depth, rfl⟩ := Nat.exists_eq_succ_of_ne_zero (Nat.ne_zero_of_lt deep)
    have longer : (entry.2.json layout).length ≤ (Data.jsonEntry layout entry).length := by
      simp only [Data.jsonEntry, List.length_append]
      omega
    cases more with
    | nil =>
      rw [List.map_singleton, Text.join_singleton] at deep ⊢
      rw [List.length_append] at deep
      have skips : skipBlanks (tail ++ '\x7d' :: rest) = '\x7d' :: rest :=
        skipBlanks_tail idle (by decide)
      rw [entries?_entry readable (by omega) blank (closed_tail idle (by decide)), withEntries,
        skips]
      rfl
    | cons second further =>
      rw [Text.join_map_cons_cons] at deep ⊢
      have behind := @inductionHypothesis depth others (List.cons_ne_nil second further)
      generalize Text.join ",".toList
        ((second :: further).map fun entry => gap ++ Data.jsonEntry layout entry) = written
        at deep behind ⊢
      have comma : ",".toList.length = 1 := rfl
      simp only [List.length_append, comma] at deep
      have skips : skipBlanks (',' :: (written ++ (tail ++ '\x7d' :: rest))) =
          ',' :: (written ++ (tail ++ '\x7d' :: rest)) := rfl
      rw [append_comma, entries?_entry readable (by omega) blank (closed_comma _), withEntries,
        skips]
      simp only [behind (by omega)]
      rfl

/-- There is a step for each value, for none is written as the empty text. -/
theorem exists_step (exact : data.Exact) (deep : 2 * (data.json layout).length ≤ depth) :
    ∃ fewer, depth = fewer + 1 := by
  obtain ⟨first, begins, -⟩ := head?_json exact layout []
  have some : data.json layout ≠ [] := by
    rintro empty
    rw [empty] at begins
    contradiction
  have long := List.length_pos_of_ne_nil some
  exact ⟨depth - 1, by omega⟩

/-- A list that is not empty is read by its items. -/
theorem value?_list {inner : Text} (skips : skipBlanks text = '[' :: inner)
    (some : ∀ after, skipBlanks inner ≠ ']' :: after) :
    value? (depth + 1) text =
      (items? depth inner).map fun (items, after) => (.list items, after) := by
  rw [value?, skips]
  split
  · next same => exact absurd same (by simp)
  · next same =>
    obtain rfl := (List.cons.inj same).2
    split
    · next closes => exact absurd closes (some _)
    · rfl
  · next same => exact absurd same (by simp)
  · next notList _ => exact absurd rfl (notList inner)

/-- A list can be read if its items can. -/
theorem readable_list {items : List Data} (each : ∀ item ∈ items, item.Exact)
    (readable : ∀ item ∈ items, ∀ layout, Readable layout item) (layout : Option Nat) :
    Readable layout (.list items) := by
  intro depth gap rest deep blank closed
  obtain ⟨depth, rfl⟩ := exists_step (.list each) deep
  have skips := @skipBlanks_json gap rest layout _ (.list each) blank
  rw [Data.sorted, Data.sortedItems_eq]
  cases items with
  | nil =>
    rw [value?, skips]
    cases layout <;> rfl
  | cons item more =>
    obtain ⟨inner, tail, free, idle, written⟩ :=
      enclose_eq layout "[".toList "]".toList (List.cons_ne_nil
        (item.json (layout.map (· + 1))) (more.map (Data.json (layout.map (· + 1)))))
    rw [← List.map_cons, List.map_map] at written
    have whole : (Data.list (item :: more)).json layout ++ rest =
        '[' :: (Text.join ",".toList ((item :: more).map fun item =>
          inner ++ item.json (layout.map (· + 1))) ++ (tail ++ ']' :: rest)) := by
      rw [Data.json, Data.jsonItems_eq, written]
      simp [Function.comp_def]
    have short := congrArg List.length whole
    rw [whole] at skips
    rw [value?_list skips]
    · rw [items?_join (fun item member => readable item member _) (List.cons_ne_nil _ _) free idle]
      · rfl
      · simp only [List.length_append, List.length_cons] at short
        omega
    · -- The reader looks for the closing bracket first, but no item begins with it.
      intro after closes
      obtain ⟨behind, begins⟩ := Text.exists_join_append ",".toList
        (fun item : Data => inner ++ item.json (layout.map (· + 1))) item more (tail ++ ']' :: rest)
      have exact := each item List.mem_cons_self
      obtain ⟨first, head, apart⟩ := head?_json exact (layout.map (· + 1)) behind
      rw [begins, skipBlanks_json exact free] at closes
      rw [closes] at head
      obtain rfl := Option.some.inj head
      exact apart (by decide)

/-- A record that is not empty is read by its entries. -/
theorem value?_record {inner : Text} (skips : skipBlanks text = '\x7b' :: inner)
    (some : ∀ after, skipBlanks inner ≠ '\x7d' :: after) :
    value? (depth + 1) text =
      (entries? depth inner).map fun (entries, after) => (ofEntries entries, after) := by
  rw [value?, skips]
  split
  · next same => exact absurd same (by simp)
  · next same => exact absurd same (by simp)
  · next same =>
    obtain rfl := (List.cons.inj same).2
    split
    · next closes => exact absurd closes (some _)
    · rfl
  · next notRecord => exact absurd rfl (notRecord inner)

/-- A record can be read if the values of its entries can. -/
theorem readable_record {entries : List (Text × Data)} (each : ∀ entry ∈ entries, entry.2.Exact)
    (readable : ∀ entry ∈ entries, ∀ layout, Readable layout entry.2) (layout : Option Nat) :
    Readable layout (.record entries) := by
  intro depth gap rest deep blank closed
  obtain ⟨depth, rfl⟩ := exists_step (.record each) deep
  have skips := @skipBlanks_json gap rest layout _ (.record each) blank
  rw [Data.sorted, Data.sortedEntries_eq]
  cases entries with
  | nil =>
    rw [value?, skips]
    cases layout <;> rfl
  | cons entry more =>
    obtain ⟨inner, tail, free, idle, written⟩ :=
      enclose_eq layout "\x7b".toList "\x7d".toList (List.cons_ne_nil
        (Data.jsonEntry (layout.map (· + 1)) entry)
        (more.map (Data.jsonEntry (layout.map (· + 1)))))
    rw [← List.map_cons, List.map_map] at written
    have whole : (Data.record (entry :: more)).json layout ++ rest =
        '\x7b' :: (Text.join ",".toList ((entry :: more).map fun entry =>
          inner ++ Data.jsonEntry (layout.map (· + 1)) entry) ++ (tail ++ '\x7d' :: rest)) := by
      rw [Data.json, Data.jsonEntries_eq, written]
      simp [Function.comp_def]
    have short := congrArg List.length whole
    rw [whole] at skips
    rw [value?_record skips]
    · rw [entries?_join (fun entry member => readable entry member _) (List.cons_ne_nil _ _) free
        idle]
      · rfl
      · simp only [List.length_append, List.length_cons] at short
        omega
    · intro after closes
      obtain ⟨behind, begins⟩ := Text.exists_join_append ",".toList
        (fun entry : Text × Data => inner ++ Data.jsonEntry (layout.map (· + 1)) entry) entry more
        (tail ++ '\x7d' :: rest)
      rw [begins, List.append_assoc, skipBlanks_gap free] at closes
      exact absurd (List.cons.inj closes).1 (by decide)

/-- Every value without fractions and great numbers can be read behind a gap. The steps are counted
by the length of the text, for each bracket and each comma takes one. -/
theorem readable_of_exact (exact : data.Exact) (layout : Option Nat) : Readable layout data := by
  induction exact generalizing layout with
  | null =>
    intro depth gap rest deep blank closed
    obtain ⟨depth, rfl⟩ := exists_step .null deep
    exact value?_of_plain (skipBlanks_json .null blank) rfl (by decide)
  | boolean flag =>
    intro depth gap rest deep blank closed
    obtain ⟨depth, rfl⟩ := exists_step (.boolean flag) deep
    have skips := @skipBlanks_json gap rest layout _ (.boolean flag) blank
    cases flag <;> exact value?_of_plain skips rfl (by decide)
  | @integer number fits =>
    intro depth gap rest deep blank closed
    obtain ⟨depth, rfl⟩ := exists_step (.integer fits) deep
    obtain ⟨first, begins, numeral⟩ := @head?_ofInt rest number
    rw [value?_of_plain (skipBlanks_json (.integer fits) blank) begins
      (not_mem_of_numeral numeral (by decide))]
    exact plain?_ofInt fits closed
  | text content =>
    intro depth gap rest deep blank closed
    obtain ⟨depth, rfl⟩ := exists_step (.text content) deep
    have skips := @skipBlanks_json gap rest layout _ (.text content) blank
    have written : (Data.text content).json layout ++ rest =
        '\x22' :: (content.flatMap Data.escapeChar ++ '\x22' :: rest) := by
      simp [Data.json, Data.quotedText]
    rw [value?, skips, written]
    simp only [quoted?_flatMap]
    rfl
  | list each inductionHypothesis => exact readable_list each inductionHypothesis layout
  | record each inductionHypothesis => exact readable_record each inductionHypothesis layout

end JsonReader

namespace Data

/-- What is written as JSON can be read: the reader gets the data back, with the entries of each
record in the order of their keys. -/
theorem ofJson?_json {data : Data} (exact : data.Exact) (layout : Option Nat) {tail : Text}
    (idle : JsonReader.Gap tail) : ofJson? (data.json layout ++ tail) = some data.sorted := by
  have closed : JsonReader.Closed tail := by
    intro char begins
    rcases idle char (List.mem_of_mem_head? begins) with rfl | rfl <;> decide
  have deep : 2 * (data.json layout).length ≤ 2 * (data.json layout ++ tail).length + 1 := by
    rw [List.length_append]
    omega
  have read := JsonReader.readable_of_exact exact layout deep
    (fun _ absent => absurd absent List.not_mem_nil) closed
  have nothing : JsonReader.skipBlanks tail = [] := by
    have skips := JsonReader.skipBlanks_gap idle []
    rwa [List.append_nil] at skips
  rw [List.nil_append] at read
  simp only [ofJson?, read, Option.bind_eq_bind, Option.bind_some, nothing]
  rfl

/-- Lists of texts can be read from JSON, for there are no numbers in them. -/
theorem exact_texts (items : List Text) : (texts items).Exact := by
  refine .list fun item member => ?_
  obtain ⟨content, -, rfl⟩ := List.mem_map.mp member
  exact .text content

theorem exact_number {number : Nat} (fits : number ≤ 0xffffffffffffffff) :
    (Data.number number).Exact :=
  .integer ⟨by omega, by omega⟩

end Data

/-- Members that are there only if they have a text. -/
theorem Data.exact_optional (key : Text) (value : Option Text) :
    ∀ entry ∈ (value.map fun text => (key, Data.text text)).toList, entry.2.Exact := by
  intro entry member
  obtain ⟨content, -, rfl⟩ := Option.map_eq_some_iff.mp (Option.mem_toList.mp member)
  exact .text content

/-- Definitions, values and parameters have no numbers at all. -/
theorem Definition.exact_listed {H : Type} (example? : Option Text) (definition : Definition H) :
    (definition.listed example?).Exact := by
  refine .record ?_
  simp only [List.forall_mem_append, List.forall_mem_cons]
  exact ⟨⟨⟨⟨⟨.boolean _, List.forall_mem_nil _⟩, Data.exact_optional _ _⟩, Data.exact_optional _ _⟩,
    .text _, .text _, .boolean _, List.forall_mem_nil _⟩, Data.exact_optional _ _⟩

theorem Value.exact_listed (value : Value) : value.listed.Exact := by
  cases value with
  | single content => exact .text content
  | multi items => exact Data.exact_texts items

theorem Parameters.exact_listed (parameters : Parameters) : parameters.listed.Exact := by
  have positional : (Data.list (parameters.positional.map Value.listed)).Exact := by
    refine .list fun item member => ?_
    obtain ⟨value, -, rfl⟩ := List.mem_map.mp member
    exact value.exact_listed
  have named : (Data.record (parameters.named.entries.map fun entry =>
      (entry.1, entry.2.listed))).Exact := by
    refine .record fun entry member => ?_
    obtain ⟨⟨key, value⟩, -, rfl⟩ := List.mem_map.mp member
    exact value.exact_listed
  refine .record ?_
  simp only [List.forall_mem_cons]
  exact ⟨positional, named, List.forall_mem_nil _⟩

/-- A span can be read from JSON, in whatever order its ends are written, if it fits into 64
bits. -/
theorem Span.exact_ends {span : Span} (ordered : span.start ≤ span.stop)
    (fits : span.stop ≤ 0xffffffffffffffff) :
    (Data.number span.start).Exact ∧ (Data.number span.stop).Exact :=
  ⟨Data.exact_number (ordered.trans fits), Data.exact_number fits⟩

/-- The only numbers of occurrences and diagnostics are the ends of their spans. -/
theorem Occurrence.exact_listed {occurrence : Occurrence}
    (ordered : occurrence.span.start ≤ occurrence.span.stop)
    (fits : occurrence.span.stop ≤ 0xffffffffffffffff) : occurrence.listed.Exact := by
  obtain ⟨start, stop⟩ := occurrence.span.exact_ends ordered fits
  have raw : ((occurrence.rawParameters.map Data.text).getD .null).Exact := by
    cases occurrence.rawParameters with
    | none => exact .null
    | some content => exact .text content
  have span : (Data.record [("start".toList, .number occurrence.span.start),
      ("end".toList, .number occurrence.span.stop)]).Exact := by
    refine .record ?_
    simp only [List.forall_mem_cons]
    exact ⟨start, stop, List.forall_mem_nil _⟩
  refine .record ?_
  simp only [List.forall_mem_cons]
  exact ⟨.text _, span, raw, occurrence.parameters.exact_listed, List.forall_mem_nil _⟩

theorem Diagnostic.exact_listed {diagnostic : Diagnostic}
    (ordered : diagnostic.span.start ≤ diagnostic.span.stop)
    (fits : diagnostic.span.stop ≤ 0xffffffffffffffff) : diagnostic.listed.Exact := by
  obtain ⟨start, stop⟩ := diagnostic.span.exact_ends ordered fits
  have span : (Data.record [("end".toList, .number diagnostic.span.stop),
      ("start".toList, .number diagnostic.span.start)]).Exact := by
    refine .record ?_
    simp only [List.forall_mem_cons]
    exact ⟨stop, start, List.forall_mem_nil _⟩
  refine .record ?_
  simp only [List.forall_mem_append, List.forall_mem_cons]
  exact ⟨Data.exact_optional _ _, .text _, .text _, span, List.forall_mem_nil _⟩

/-- Definitions and diagnostics have their entries in the order of their keys. -/
theorem Definition.sorted_listed {H : Type} (example? : Option Text) (definition : Definition H) :
    (definition.listed example?).sorted = definition.listed example? := by
  unfold Definition.listed
  cases definition.description <;> cases example? <;> cases definition.callback.target? <;> rfl

theorem Diagnostic.sorted_listed (diagnostic : Diagnostic) :
    diagnostic.listed.sorted = diagnostic.listed := by
  unfold Diagnostic.listed
  cases diagnostic.detail? <;> rfl

/-- The list of tokens that is printed as JSON can be read from it. -/
theorem Environment.ofJson?_tokensAsJson (setup : Setup Empty Unit) :
    Data.ofJson? (tokensAsJson setup) =
      some (Data.list (setup.registry.list.map fun definition =>
        definition.listed (setup.replacer.example? ⟨definition.name, .none⟩))) := by
  have exact : (Data.list (setup.registry.list.map fun definition =>
      definition.listed (setup.replacer.example? ⟨definition.name, .none⟩))).Exact := by
    refine .list fun item member => ?_
    obtain ⟨definition, -, rfl⟩ := List.mem_map.mp member
    exact definition.exact_listed _
  have idle : JsonReader.Gap ['\n'] := by simp [JsonReader.Gap]
  have read := Data.ofJson?_json exact (some 0) idle
  rw [Data.sorted, Data.sortedItems_eq, List.map_map] at read
  simp only [Function.comp_def, Definition.sorted_listed] at read
  exact read

/-- Each occurrence in a text of which a computer can count the bytes can be read from the line of
JSON that is printed for it. -/
theorem Occurrence.ofJson?_line {delimiters : Delimiters} {text : Text}
    (countable : text.byteLength ≤ 0xffffffffffffffff) {occurrence : Occurrence}
    (member : occurrence ∈ occurrences delimiters text) :
    Data.ofJson? (Text.line (occurrence.listed.json none)) = some occurrence.listed.sorted := by
  have order := ordered_occurrences delimiters text
  refine Data.ofJson?_json (occurrence.exact_listed ?_ ?_) none (by simp [JsonReader.Gap])
  · exact (order.solid occurrence member).le
  · exact (order.within occurrence member).trans countable

/-- Each diagnostic of a pass over such a text can be read from the line of JSON that is printed for
it. -/
theorem Diagnostic.ofJson?_jsonLine {H σ : Type} (engine : Engine H σ) {request : Request}
    {text : Text} {site : Site H σ} (countable : text.byteLength ≤ 0xffffffffffffffff)
    {diagnostic : Diagnostic}
    (member : diagnostic ∈ (engine.substitute request text site).diagnostics) (source : Text) :
    Data.ofJson? (diagnostic.jsonLine source) =
      some (Data.record [("diagnostic".toList, diagnostic.listed),
        ("source".toList, .text source)]) := by
  rw [engine.substitute_diagnostics] at member
  obtain ⟨occurrence, found, moment, same⟩ := engine.exists_of_mem_diagnostics request member
  have order := ordered_occurrences engine.delimiters text
  have ordered : diagnostic.span.start ≤ diagnostic.span.stop :=
    same ▸ (order.solid occurrence found).le
  have fits : diagnostic.span.stop ≤ 0xffffffffffffffff :=
    same ▸ (order.within occurrence found).trans countable
  have exact : (Data.record [("diagnostic".toList, diagnostic.listed),
      ("source".toList, .text source)]).Exact := by
    refine .record ?_
    simp only [List.forall_mem_cons]
    exact ⟨Diagnostic.exact_listed ordered fits, .text source, List.forall_mem_nil _⟩
  have read := Data.ofJson?_json exact none (fun _ absent => absurd absent List.not_mem_nil)
  rw [List.append_nil, Data.sorted] at read
  simp only [Data.sortedEntries, Diagnostic.sorted_listed] at read
  exact read

end PageTokens
