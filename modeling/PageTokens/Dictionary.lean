/-!
# Dictionaries

A dictionary holds at most one value per key and keeps its entries in ascending
order of their keys. `get?_insert` and `get?_erase` describe its two changes
through look-up, and `ext` says that equal look-ups mean equal dictionaries.
-/

namespace PageTokens

/-- Entries in strictly ascending order of their keys. -/
structure Dictionary (κ α : Type) [LT κ] where
  entries : List (κ × α)
  ascending : entries.Pairwise (fun left right => left.1 < right.1)

namespace Dictionary

variable {κ α : Type} [LT κ]

/-- Dictionaries with the same entries are equal. -/
theorem eq_of_entries_eq {left right : Dictionary κ α} (equal : left.entries = right.entries) :
    left = right := by
  cases left
  cases right
  cases equal
  rfl

instance [DecidableEq κ] [DecidableEq α] : DecidableEq (Dictionary κ α) := fun left right =>
  decidable_of_iff (left.entries = right.entries)
    ⟨eq_of_entries_eq, congrArg Dictionary.entries⟩

/-- The dictionary without entries. -/
def empty : Dictionary κ α := ⟨[], .nil⟩

instance : Inhabited (Dictionary κ α) := ⟨empty⟩

/-- The keys in ascending order. -/
def keys (dictionary : Dictionary κ α) : List κ :=
  dictionary.entries.map Prod.fst

/-- The values in ascending order of their keys. -/
def values (dictionary : Dictionary κ α) : List α :=
  dictionary.entries.map Prod.snd

/-- The number of entries. -/
def size (dictionary : Dictionary κ α) : Nat :=
  dictionary.entries.length

section Lookup

variable [DecidableEq κ]

omit [LT κ] in
/-- The value of the first entry with a given key. -/
def find? (key : κ) : List (κ × α) → Option α
  | [] => none
  | (other, value) :: rest => if key = other then some value else find? key rest

/-- The value under a key. -/
def get? (dictionary : Dictionary κ α) (key : κ) : Option α :=
  find? key dictionary.entries

/-- Whether a key has a value. -/
def contains (dictionary : Dictionary κ α) (key : κ) : Bool :=
  (dictionary.get? key).isSome

omit [LT κ] in
/-- A key without a value is the key of no entry. -/
theorem find?_eq_none_iff {key : κ} {entries : List (κ × α)} :
    find? key entries = none ↔ key ∉ entries.map Prod.fst := by
  induction entries with
  | nil => simp [find?]
  | cons entry rest inductionHypothesis =>
    by_cases same : key = entry.1 <;> simp [find?, same, inductionHypothesis]

/-- A key has a value exactly when it is listed. -/
theorem contains_iff_mem_keys {dictionary : Dictionary κ α} {key : κ} :
    dictionary.contains key = true ↔ key ∈ dictionary.keys := by
  rw [contains, Option.isSome_iff_ne_none, ne_eq, get?, find?_eq_none_iff, Classical.not_not]
  rfl

end Lookup

section Change

variable [DecidableLT κ] [DecidableEq κ]

/-- Put an entry into its place, in the stead of an entry with the same key. -/
def insertEntry (key : κ) (value : α) : List (κ × α) → List (κ × α)
  | [] => [(key, value)]
  | (other, held) :: rest =>
    if key < other then (key, value) :: (other, held) :: rest
    else if key = other then (key, value) :: rest
    else (other, held) :: insertEntry key value rest

/-- Inserting brings in no entry but the new one. -/
theorem mem_insertEntry {key : κ} {value : α} {entries : List (κ × α)} {entry : κ × α}
    (member : entry ∈ insertEntry key value entries) : entry = (key, value) ∨ entry ∈ entries := by
  induction entries with
  | nil => simpa [insertEntry] using member
  | cons head rest inductionHypothesis =>
    unfold insertEntry at member
    split at member
    · simpa using member
    · split at member
      · rcases List.mem_cons.mp member with same | inRest
        · exact .inl same
        · exact .inr (List.mem_cons_of_mem _ inRest)
      · rcases List.mem_cons.mp member with same | inRest
        · exact .inr (by simp [same])
        · rcases inductionHypothesis inRest with same | old
          · exact .inl same
          · exact .inr (List.mem_cons_of_mem _ old)

variable [Trans (fun a b : κ => a < b) (fun a b : κ => a < b) (fun a b : κ => a < b)]
variable [Std.Trichotomous (fun a b : κ => a < b)]

/-- Inserting keeps the keys in ascending order. -/
theorem insertEntry_ascending (key : κ) (value : α) {entries : List (κ × α)}
    (ascending : entries.Pairwise (fun left right => left.1 < right.1)) :
    (insertEntry key value entries).Pairwise (fun left right => left.1 < right.1) := by
  induction entries with
  | nil => simp [insertEntry]
  | cons head rest inductionHypothesis =>
    obtain ⟨below, restAscending⟩ := List.pairwise_cons.mp ascending
    unfold insertEntry
    split
    · next before =>
      refine List.pairwise_cons.mpr ⟨fun entry member => ?_, ascending⟩
      rcases List.mem_cons.mp member with same | inRest
      · rw [same]; exact before
      · exact Trans.trans before (below entry inRest)
    · next notBefore =>
      split
      · next same =>
        refine List.pairwise_cons.mpr ⟨fun entry member => ?_, restAscending⟩
        rw [show key = head.1 from same]
        exact below entry member
      · next other =>
        refine List.pairwise_cons.mpr ⟨fun entry member => ?_, inductionHypothesis restAscending⟩
        rcases mem_insertEntry member with same | old
        · rw [same]
          exact Classical.byContradiction fun notAfter =>
            other (Std.Trichotomous.trichotomous (r := fun a b : κ => a < b) key head.1
              notBefore notAfter)
        · exact below entry old

/-- The dictionary with a value put under a key. -/
def insert (dictionary : Dictionary κ α) (key : κ) (value : α) : Dictionary κ α :=
  ⟨insertEntry key value dictionary.entries, insertEntry_ascending key value dictionary.ascending⟩

/-- The dictionary without a key. -/
def erase (dictionary : Dictionary κ α) (key : κ) : Dictionary κ α :=
  ⟨dictionary.entries.filter (fun entry => entry.1 ≠ key), dictionary.ascending.filter _⟩

/-- The dictionary of a list of entries; of two entries with one key the later one stays. -/
def ofList (entries : List (κ × α)) : Dictionary κ α :=
  entries.foldl (fun dictionary entry => dictionary.insert entry.1 entry.2) empty

/-- The dictionary of a list has no other entries than the list. -/
theorem mem_of_mem_ofList {entries : List (κ × α)} {entry : κ × α}
    (member : entry ∈ (ofList entries).entries) : entry ∈ entries := by
  have within : ∀ (rest : List (κ × α)) (dictionary : Dictionary κ α),
      entry ∈ (rest.foldl (fun dictionary entry => dictionary.insert entry.1 entry.2)
        dictionary).entries → entry ∈ dictionary.entries ∨ entry ∈ rest := by
    intro rest
    induction rest with
    | nil => exact fun dictionary found => .inl found
    | cons head rest inductionHypothesis =>
      intro dictionary found
      rcases inductionHypothesis _ found with inInserted | inRest
      · rcases mem_insertEntry inInserted with same | old
        · exact .inr (List.mem_cons.mpr (.inl same))
        · exact .inl old
      · exact .inr (List.mem_cons_of_mem _ inRest)
  rcases within entries empty member with inEmpty | inEntries
  · contradiction
  · exact inEntries

end Change

section Laws

variable [DecidableEq κ]

/-- The new value is found under its key, and under other keys what was there before. -/
theorem find?_insertEntry [DecidableLT κ] (key other : κ) (value : α) (entries : List (κ × α)) :
    find? other (insertEntry key value entries) =
      if other = key then some value else find? other entries := by
  induction entries with
  | nil => simp [insertEntry, find?]
  | cons head rest inductionHypothesis =>
    unfold insertEntry
    split
    · simp [find?]
    · split
      · next same =>
        have same : key = head.1 := same
        by_cases equal : other = key
        · simp [find?, equal]
        · simp [find?, equal, ← same]
      · next different =>
        have different : ¬ key = head.1 := different
        by_cases equal : other = head.1
        · have apart : ¬ other = key := fun same => different (same.symm.trans equal)
          simp [find?, equal, Ne.symm different]
        · simp [find?, equal, inductionHypothesis]

omit [LT κ] in
/-- What is found once the entries with one key are gone. -/
theorem find?_filter_ne (key other : κ) (entries : List (κ × α)) :
    find? other (entries.filter (fun entry => entry.1 ≠ key)) =
      if other = key then none else find? other entries := by
  induction entries with
  | nil => simp [find?]
  | cons head rest inductionHypothesis =>
    by_cases kept : head.1 = key
    · by_cases equal : other = key
      · simpa [List.filter, kept, equal] using inductionHypothesis
      · simpa [List.filter, kept, equal, find?] using inductionHypothesis
    · by_cases found : other = head.1
      · simp [List.filter, kept, find?, found]
      · simpa [List.filter, kept, find?, found] using inductionHypothesis

/-- Look-up after a removal. -/
theorem get?_erase (dictionary : Dictionary κ α) (key other : κ) :
    (dictionary.erase key).get? other = if other = key then none else dictionary.get? other :=
  find?_filter_ne key other dictionary.entries

variable [Trans (fun a b : κ => a < b) (fun a b : κ => a < b) (fun a b : κ => a < b)]
variable [Std.Trichotomous (fun a b : κ => a < b)]

/-- Look-up after an insertion. -/
theorem get?_insert [DecidableLT κ] (dictionary : Dictionary κ α) (key other : κ) (value : α) :
    (dictionary.insert key value).get? other =
      if other = key then some value else dictionary.get? other :=
  find?_insertEntry key other value dictionary.entries

variable [Std.Irrefl (fun a b : κ => a < b)]

omit [Trans (fun a b : κ => a < b) (fun a b : κ => a < b) (fun a b : κ => a < b)]
  [Std.Trichotomous (fun a b : κ => a < b)] in
/-- A key below all keys has no value. -/
theorem find?_of_below {key : κ} {entries : List (κ × α)}
    (below : ∀ entry ∈ entries, key < entry.1) : find? key entries = none := by
  rw [find?_eq_none_iff]
  intro member
  obtain ⟨entry, inEntries, same⟩ := List.mem_map.mp member
  exact Std.Irrefl.irrefl (r := fun a b : κ => a < b) key (same ▸ below entry inEntries)

/-- Entries in ascending order of their keys are determined by what is found under each key. -/
theorem eq_of_find?_eq {left right : List (κ × α)}
    (leftAscending : left.Pairwise (fun first second => first.1 < second.1))
    (rightAscending : right.Pairwise (fun first second => first.1 < second.1))
    (agree : ∀ key, find? key left = find? key right) : left = right := by
  induction left generalizing right with
  | nil =>
    cases right with
    | nil => rfl
    | cons head rest => simpa [find?] using agree head.1
  | cons first firsts inductionHypothesis =>
    cases right with
    | nil => simpa [find?] using agree first.1
    | cons second seconds =>
      obtain ⟨firstBelow, firstsAscending⟩ := List.pairwise_cons.mp leftAscending
      obtain ⟨secondBelow, secondsAscending⟩ := List.pairwise_cons.mp rightAscending
      by_cases before : first.1 < second.1
      · have absent : find? first.1 (second :: seconds) = none := by
          refine find?_of_below fun entry member => ?_
          rcases List.mem_cons.mp member with same | inRest
          · exact same ▸ before
          · exact Trans.trans before (secondBelow entry inRest)
        have present := agree first.1
        rw [absent] at present
        simp [find?] at present
      · by_cases after : second.1 < first.1
        · have absent : find? second.1 (first :: firsts) = none := by
            refine find?_of_below fun entry member => ?_
            rcases List.mem_cons.mp member with same | inRest
            · exact same ▸ after
            · exact Trans.trans after (firstBelow entry inRest)
          have present := agree second.1
          rw [absent] at present
          simp [find?] at present
        · have same : first.1 = second.1 :=
            Std.Trichotomous.trichotomous (r := fun a b : κ => a < b) _ _ before after
          have value : first.2 = second.2 := by
            simpa [find?, same] using agree first.1
          have rest : firsts = seconds := by
            refine inductionHypothesis firstsAscending secondsAscending fun key => ?_
            by_cases equal : key = first.1
            · rw [equal, find?_of_below firstBelow, same, find?_of_below secondBelow]
            · have other : ¬ key = second.1 := fun also => equal (also.trans same.symm)
              simpa [find?, equal, other] using agree key
          rw [rest, Prod.ext same value]

/-- Dictionaries with the same look-ups are equal. -/
theorem ext {left right : Dictionary κ α} (agree : ∀ key, left.get? key = right.get? key) :
    left = right :=
  eq_of_entries_eq (eq_of_find?_eq left.ascending right.ascending agree)

/-- Look-up after the insertion of entries with ascending keys. -/
theorem get?_foldl_insert [DecidableLT κ] (dictionary : Dictionary κ α) (key : κ)
    {entries : List (κ × α)}
    (ascending : entries.Pairwise (fun left right => left.1 < right.1)) :
    (entries.foldl (fun dictionary entry => dictionary.insert entry.1 entry.2)
      dictionary).get? key = (find? key entries).or (dictionary.get? key) := by
  induction entries generalizing dictionary with
  | nil => rfl
  | cons entry rest inductionHypothesis =>
    obtain ⟨below, restAscending⟩ := List.pairwise_cons.mp ascending
    rw [List.foldl_cons, inductionHypothesis _ restAscending, get?_insert]
    by_cases same : key = entry.1
    · subst same
      simp [find?, find?_of_below below]
    · simp [find?, same]

omit [Trans (fun a b : κ => a < b) (fun a b : κ => a < b) (fun a b : κ => a < b)]
  [Std.Trichotomous (fun a b : κ => a < b)] in
/-- The value of a key is that of its one entry. -/
theorem find?_eq_some_iff {key : κ} {value : α} {entries : List (κ × α)}
    (ascending : entries.Pairwise (fun left right => left.1 < right.1)) :
    find? key entries = some value ↔ (key, value) ∈ entries := by
  induction entries with
  | nil => simp [find?]
  | cons entry rest inductionHypothesis =>
    obtain ⟨below, restAscending⟩ := List.pairwise_cons.mp ascending
    rw [List.mem_cons, ← inductionHypothesis restAscending, find?]
    by_cases same : key = entry.1
    · rw [if_pos same, same, find?_of_below below]
      simp [Prod.ext_iff, eq_comm]
    · rw [if_neg same]
      simp [Prod.ext_iff, same]

omit [Trans (fun a b : κ => a < b) (fun a b : κ => a < b) (fun a b : κ => a < b)]
  [Std.Trichotomous (fun a b : κ => a < b)] in
/-- Entries of one key are the same entry. -/
theorem eq_of_mem_entries {dictionary : Dictionary κ α} {first second : κ × α}
    (inFirst : first ∈ dictionary.entries) (inSecond : second ∈ dictionary.entries)
    (sameKey : first.1 = second.1) : first = second := by
  have firstFound := (find?_eq_some_iff dictionary.ascending).mpr inFirst
  have secondFound := (find?_eq_some_iff dictionary.ascending).mpr inSecond
  rw [sameKey, secondFound] at firstFound
  exact Prod.ext sameKey (Option.some.inj firstFound).symm

omit [Trans (fun a b : κ => a < b) (fun a b : κ => a < b) (fun a b : κ => a < b)]
  [Std.Trichotomous (fun a b : κ => a < b)] in
/-- The values that are listed are those of the keys. -/
theorem mem_values_iff {dictionary : Dictionary κ α} {value : α} :
    value ∈ dictionary.values ↔ ∃ key, dictionary.get? key = some value := by
  simp only [get?, find?_eq_some_iff dictionary.ascending]
  simp [values]

section List

variable [DecidableLT κ]

omit [Std.Trichotomous (fun a b : κ => a < b)] in
/-- An entry with a key above all others goes to the end. -/
theorem insertEntry_of_above {key : κ} (value : α) {entries : List (κ × α)}
    (above : ∀ entry ∈ entries, entry.1 < key) :
    insertEntry key value entries = entries ++ [(key, value)] := by
  induction entries with
  | nil => rfl
  | cons head rest inductionHypothesis =>
    have headBelow : head.1 < key := above head List.mem_cons_self
    have irreflexive : ¬ key < key := Std.Irrefl.irrefl (r := fun a b : κ => a < b) key
    have notBefore : ¬ key < head.1 := fun before => irreflexive (Trans.trans before headBelow)
    have other : ¬ key = head.1 := fun same => irreflexive (same ▸ headBelow)
    rw [insertEntry, if_neg notBefore, if_neg other,
      inductionHypothesis fun entry member => above entry (List.mem_cons_of_mem _ member)]
    rfl

/-- Entries that ascend above those of a dictionary are added behind them. -/
theorem entries_foldl_insert (dictionary : Dictionary κ α) {entries : List (κ × α)}
    (ascending : (dictionary.entries ++ entries).Pairwise
      (fun left right => left.1 < right.1)) :
    (entries.foldl (fun dictionary entry => dictionary.insert entry.1 entry.2)
      dictionary).entries = dictionary.entries ++ entries := by
  induction entries generalizing dictionary with
  | nil => simp
  | cons entry rest inductionHypothesis =>
    have above : ∀ held ∈ dictionary.entries, held.1 < entry.1 := fun held member =>
      (List.pairwise_append.mp ascending).2.2 held member entry List.mem_cons_self
    have inserted : (dictionary.insert entry.1 entry.2).entries = dictionary.entries ++ [entry] :=
      insertEntry_of_above entry.2 above
    have regrouped : dictionary.entries ++ entry :: rest =
        (dictionary.insert entry.1 entry.2).entries ++ rest := by simp [inserted]
    rw [regrouped] at ascending ⊢
    exact inductionHypothesis _ ascending

/-- A dictionary is the dictionary of its entries. -/
theorem ofList_entries (dictionary : Dictionary κ α) :
    ofList dictionary.entries = dictionary :=
  eq_of_entries_eq (entries_foldl_insert empty dictionary.ascending)

end List

end Laws

end Dictionary
end PageTokens
