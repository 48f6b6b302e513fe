import Mathlib.Algebra.GroupWithZero.Nat
import Mathlib.Data.List.Nodup
import Mathlib.Data.List.Perm.Subperm
import PageTokens.Proofs.Fields

/-!
# Reading and writing again

A value or a field is read back from its own text exactly when the separators in it first stand
where they were written (`Value.read_join_eq_iff`, `Field.read_append_join_eq_iff`). Whatever a
field is read from, it is written with no more characters. So the fields that are read for some
parameters take at least the room of their written text, and when they take no more they are the
written fields, in the same order (`perm_of_ofFields`, `Reordered.eq_of_join_eq`).
-/

namespace PageTokens

namespace Text

variable {separator first second : Text} {pieces : List Text}

/-- Trimming only leaves characters away. -/
theorem trim_sublist (text : Text) : (trim text).Sublist text := by
  have within := trim_infix text
  exact within.sublist

/-- A part of a text that is cut off no later than the text and trimmed to it is the text. -/
theorem eq_of_prefix_of_trim_eq (within : first <+: second) (trimmed : trim first = second) :
    first = second :=
  within.eq_of_length_le (trimmed ▸ (trim_sublist first).length_le)

/-- Trimming the pieces of a joined text takes away blanks at most. -/
theorem join_map_trim_sublist (pieces : List Text) :
    (join separator (pieces.map trim)).Sublist (join separator pieces) := by
  induction pieces with
  | nil => exact List.Sublist.refl _
  | cons first rest inductionHypothesis =>
    cases rest with
    | nil => simpa only [List.map_cons, List.map_nil, join_singleton] using trim_sublist first
    | cons second rest =>
      simp only [List.map_cons, join_cons_cons] at inductionHypothesis ⊢
      exact ((trim_sublist first).append_right _).append inductionHypothesis

/-- The number of characters in pieces with a separator for each. -/
def extent (separator : Text) (pieces : List Text) : Nat :=
  (pieces.map fun piece => separator.length + piece.length).sum

theorem extent_cons (separator piece : Text) (rest : List Text) :
    extent separator (piece :: rest) =
      separator.length + piece.length + extent separator rest := by
  simp [extent]

theorem extent_append (separator : Text) (front back : List Text) :
    extent separator (front ++ back) = extent separator front + extent separator back := by
  simp [extent]

/-- The order of the pieces makes no difference to the room that they take. -/
theorem extent_perm (separator : Text) {front back : List Text} (permuted : front.Perm back) :
    extent separator front = extent separator back :=
  (permuted.map _).sum_nat

/-- Joined pieces take the room of all but one of the separators. -/
theorem length_join (separator : Text) (some : pieces ≠ []) :
    separator.length + (join separator pieces).length = extent separator pieces := by
  obtain ⟨first, rest, rfl⟩ := List.exists_cons_of_ne_nil some
  rw [← List.length_append, ← flatMap_append_eq_join, List.length_flatMap, extent]
  simp only [List.length_append]

/-- Shorter pieces take no more room. -/
theorem extent_map_le (separator : Text) {shorten : Text → Text}
    (shorter : ∀ text, (shorten text).Sublist text) (pieces : List Text) :
    extent separator (pieces.map shorten) ≤ extent separator pieces := by
  induction pieces with
  | nil => exact le_rfl
  | cons piece rest inductionHypothesis =>
    have short := (shorter piece).length_le
    rw [List.map_cons, extent_cons, extent_cons]
    omega

/-- Pieces that are shortened one by one and stay as long together have not changed. -/
theorem map_eq_self_of_extent_le {shorten : Text → Text}
    (shorter : ∀ text, (shorten text).Sublist text)
    (long : extent separator pieces ≤ extent separator (pieces.map shorten)) :
    pieces.map shorten = pieces := by
  induction pieces with
  | nil => rfl
  | cons piece rest inductionHypothesis =>
    have short := (shorter piece).length_le
    have restShort := extent_map_le separator shorter rest
    rw [List.map_cons, extent_cons, extent_cons] at long
    rw [List.map_cons, (shorter piece).eq_of_length (by omega), inductionHypothesis (by omega)]

end Text

namespace Value

variable {separator : Text} {value : Value}

/-- A written value is read back exactly when its items are trimmed and kept apart by the
separator, two or more if it is a list. -/
theorem read_join_eq_iff (solid : separator ≠ []) :
    read separator (value.join separator) = value ↔
      (∀ item ∈ value.items, Text.trim item = item) ∧
        (value.isMulti = true → 2 ≤ value.items.length) ∧
        Text.Parted separator value.items := by
  constructor
  · intro same
    have free : value.Free Text.Lacks [separator] :=
      same ▸ free_read solid fun other listed different =>
        absurd (List.mem_singleton.mp listed) different
    refine ⟨fun item member => (free.items item member).trimmed, free.several, ?_⟩
    cases value with
    | single text =>
      exact .last ((free.items text (List.mem_singleton_self text)).separated _
        (List.mem_singleton_self _))
    | multi items =>
      have several : 2 ≤ items.length := free.several rfl
      have stands : Text.contains separator (Text.join separator items) = true :=
        Text.contains_iff_infix.mpr (Text.infix_join several)
      rw [join, read, if_pos stands, multi.injEq] at same
      -- the pieces are not changed by trimming, for together they are as long as the items
      have long := Text.length_join separator
        (Text.split_ne_nil solid (Text.join separator items))
      rw [Text.join_split solid,
        Text.length_join separator (List.ne_nil_of_length_pos (by omega))] at long
      have unchanged : (Text.split separator (Text.join separator items)).map Text.trim =
          Text.split separator (Text.join separator items) :=
        Text.map_eq_self_of_extent_le Text.trim_sublist (by rw [same, long])
      exact (Text.split_join_eq_iff solid).mp (unchanged.symm.trans same)
  · rintro ⟨trimmed, several, parted⟩
    cases value with
    | single text =>
      have absent : ¬ Text.contains separator text = true := by
        rw [Text.contains_iff_infix]
        exact Text.parted_singleton_iff.mp parted
      rw [join, read, if_neg absent, trimmed text (List.mem_singleton_self text)]
    | multi items =>
      have stands : Text.contains separator (Text.join separator items) = true :=
        Text.contains_iff_infix.mpr (Text.infix_join (several rfl))
      have same : items.map Text.trim = items := (List.map_congr_left trimmed).trans
        (List.map_id items)
      have apart : Text.split separator (Text.join separator items) = items :=
        (Text.split_join_eq_iff solid).mpr parted
      rw [join, read, if_pos stands, apart, same]

/-- A value that is read and written again has lost blanks at most. -/
theorem join_read_sublist (solid : separator ≠ []) (field : Text) :
    ((read separator field).join separator).Sublist field := by
  unfold read
  split
  · have pieces := Text.join_split solid field
    nth_rewrite 2 [← pieces]
    exact Text.join_map_trim_sublist _
  · exact Text.trim_sublist field

end Value

namespace Field

variable {marks : Marks} {value : Value} {key : Text}

/-- The text that a field is written as. -/
def text (marks : Marks) (field : Field) : Text :=
  match field.key with
  | some key => key ++ marks.keyValue ++ field.value.join marks.multivalue
  | none => field.value.join marks.multivalue

/-- A field that is read and written again has lost blanks at most. -/
theorem text_read_sublist {marks : Marks} (solidItem : marks.multivalue ≠ []) (text : Text) :
    ((read marks text).text marks).Sublist text := by
  unfold read
  split
  · next key value found =>
    rw [Text.eq_of_cut? found]
    exact ((Text.trim_sublist key).append_right _).append (Value.join_read_sublist solidItem value)
  · exact Value.join_read_sublist solidItem text

/-- A written value is read as a positional one exactly when no key ends in it and it is read
back. -/
theorem read_join_eq_iff :
    read marks (value.join marks.multivalue) = ofValue value ↔
      (value.join marks.multivalue).Lacks marks.keyValue ∧
        Value.read marks.multivalue (value.join marks.multivalue) = value := by
  rw [Text.Lacks, ← Text.cut?_eq_none_iff, read, ofValue]
  cases Text.cut? marks.keyValue (value.join marks.multivalue) <;> simp

/-- A written key and value are read back exactly when the key is trimmed and the separator
behind it is the first one, and the value is read back. -/
theorem read_append_join_eq_iff :
    read marks (key ++ marks.keyValue ++ value.join marks.multivalue) = ofEntry (key, value) ↔
      (Text.trim key = key ∧ key.LeadsTo marks.keyValue) ∧
        Value.read marks.multivalue (value.join marks.multivalue) = value := by
  constructor
  · intro same
    unfold read at same
    split at same
    · next found =>
      obtain ⟨whole, leads⟩ := Text.cut?_eq_some_iff.mp found
      injection same with sameKey sameValue
      -- the key that was cut off cannot be shorter than what it is trimmed to
      obtain rfl := Text.eq_of_prefix_of_trim_eq (leads.prefix_of_append_eq whole.symm)
        (Option.some.inj sameKey)
      rw [List.append_cancel_left whole]
      exact ⟨⟨Option.some.inj sameKey, leads⟩, sameValue⟩
    · injection same
      contradiction
  · rintro ⟨⟨trimmed, leads⟩, again⟩
    rw [read, Text.cut?_append leads]
    simp only [trimmed, again, ofEntry]

/-- A key that is read from a text is read from every continuation of it. -/
theorem key_read_of_prefix {front whole : Text} (keyed : (read marks front).key = some key)
    (begins : front <+: whole) : (read marks whole).key = some key := by
  obtain ⟨rest, rfl⟩ := begins
  unfold read at keyed
  split at keyed
  · next found =>
    obtain ⟨rfl, leads⟩ := Text.cut?_eq_some_iff.mp found
    rw [List.append_assoc, read, Text.cut?_append leads]
    exact keyed
  · contradiction

end Field

namespace Parameters

/-- The fields that parameters are written as: the positional values, and the named ones in the
order of their keys. -/
def fields (parameters : Parameters) : List Field :=
  parameters.positional.map Field.ofValue ++ parameters.named.entries.map Field.ofEntry

/-- The values of parameters, the positional ones first. -/
def values (parameters : Parameters) : List Value :=
  parameters.positional ++ parameters.named.values

variable {marks : Marks} {found : List Field} {parameters : Parameters} {pieces : List Text}

/-- The positional values of fields are the values of the fields without keys. -/
theorem map_ofValue_filterMap (found : List Field) :
    (found.filterMap Field.positional?).map Field.ofValue =
      found.filter fun field => field.key.isNone := by
  induction found with
  | nil => rfl
  | cons field rest inductionHypothesis =>
    obtain ⟨key, value⟩ := field
    cases key with
    | none =>
      have keyless : Field.positional? ⟨.none, value⟩ = some value := rfl
      rw [List.filterMap_cons_some keyless, List.map_cons, inductionHypothesis]
      rfl
    | some key =>
      have keyed : Field.positional? ⟨some key, value⟩ = Option.none := rfl
      rw [List.filterMap_cons_none keyed, inductionHypothesis]
      rfl

/-- No key stands twice among the named values. -/
theorem keys_nodup (parameters : Parameters) :
    (parameters.named.entries.map Prod.fst).Nodup := by
  refine List.nodup_iff_pairwise_ne.mpr (List.pairwise_map.mpr ?_)
  refine parameters.named.ascending.imp fun {left right} before (same : left.1 = right.1) => ?_
  exact Std.Irrefl.irrefl (r := fun a b : Text => a < b) left.1 (same ▸ before)

/-- The fields of parameters are among the fields that make them. -/
theorem exists_perm_of_ofFields (made : ofFields found = parameters) :
    ∃ more, found.Perm (parameters.fields ++ more) := by
  have positional : parameters.positional.map Field.ofValue =
      found.filter fun field => field.key.isNone := by
    rw [← made, ← map_ofValue_filterMap]
    rfl
  have named : (parameters.named.entries.map Field.ofEntry).Subperm
      (found.filter fun field => !field.key.isNone) := by
    have injective : Function.Injective Field.ofEntry := by
      rintro ⟨key, value⟩ ⟨otherKey, otherValue⟩ same
      simpa [Field.ofEntry] using same
    refine List.Nodup.subperm
      ((List.Nodup.of_map _ parameters.keys_nodup).map injective) fun field member => ?_
    obtain ⟨entry, inEntries, rfl⟩ := List.mem_map.mp member
    subst made
    obtain ⟨field, inFound, keyed, same⟩ := mem_entries_ofFields inEntries
    obtain ⟨key, value⟩ := field
    obtain rfl : key = some entry.1 := keyed
    obtain rfl : value = entry.2 := same
    exact List.mem_filter.mpr ⟨inFound, rfl⟩
  obtain ⟨inner, permuted, within⟩ := named
  obtain ⟨more, rest⟩ := within.exists_perm_append
  refine ⟨more, (List.filter_append_perm (fun field => field.key.isNone) found).symm.trans ?_⟩
  rw [fields, positional, List.append_assoc]
  exact (rest.trans (permuted.append_right more)).append_left _

variable (solidItem : marks.multivalue ≠ [])

include solidItem

/-- The fields that pieces of a text are read as take no more room than the pieces, and no less
than what is written of them and what is not. -/
theorem extent_add_le {more : List Field}
    (all : (pieces.map (Field.read marks)).Perm (parameters.fields ++ more)) :
    Text.extent marks.parameter (parameters.fields.map (Field.text marks)) +
        Text.extent marks.parameter (more.map (Field.text marks)) ≤
      Text.extent marks.parameter pieces := by
  rw [← Text.extent_append, ← List.map_append,
    ← Text.extent_perm marks.parameter (all.map (Field.text marks)),
    List.map_map]
  exact Text.extent_map_le marks.parameter (Field.text_read_sublist solidItem) pieces

/-- Fields that make parameters and take no more room than these are the fields of the parameters,
and no piece was shortened when it was read. -/
theorem perm_of_ofFields (solid : marks.parameter ≠ [])
    (made : ofFields (pieces.map (Field.read marks)) = parameters)
    (short : Text.extent marks.parameter pieces ≤
      Text.extent marks.parameter (parameters.fields.map (Field.text marks))) :
    (pieces.map (Field.read marks)).Perm parameters.fields ∧
      (pieces.map (Field.read marks)).map (Field.text marks) = pieces := by
  obtain ⟨more, all⟩ := exists_perm_of_ofFields made
  have bound := extent_add_le solidItem all
  cases more with
  | nil =>
    rw [List.append_nil] at all
    rw [← Text.extent_perm marks.parameter (all.map (Field.text marks)), List.map_map] at short
    rw [List.map_map]
    exact ⟨all, Text.map_eq_self_of_extent_le (Field.text_read_sublist solidItem) short⟩
  | cons field rest =>
    have positive := List.length_pos_iff.mpr solid
    rw [List.map_cons, Text.extent_cons] at bound
    omega

omit solidItem

/-- Fields in the order in which they are written: a named one is followed by named ones with
other keys only. -/
def Arranged (fields : List Field) : Prop :=
  fields.Pairwise fun earlier later =>
    earlier.key ≠ Option.none → later.key ≠ Option.none ∧ later.key ≠ earlier.key

/-- Parameters are written in the arranged order. -/
theorem arranged_fields (parameters : Parameters) : Arranged parameters.fields := by
  refine List.pairwise_append.mpr ⟨?_, ?_, ?_⟩
  · exact List.pairwise_map.mpr (List.pairwise_of_forall fun _ _ keyed => absurd rfl keyed)
  · have distinct := List.pairwise_map.mp (List.nodup_iff_pairwise_ne.mp parameters.keys_nodup)
    refine List.pairwise_map.mpr (distinct.imp fun different _ => ⟨nofun, fun same => ?_⟩)
    exact different (Option.some.inj same).symm
  · intro earlier inPositional later _ keyed
    obtain ⟨value, -, rfl⟩ := List.mem_map.mp inPositional
    exact absurd rfl keyed

/-- Fields are read in another order than the one in which they are written, the positional ones
in their order. -/
structure Reordered (marks : Marks) (found written : List Field) : Prop where
  permuted : found.Perm written
  positional : (found.filter fun field => field.key.isNone) =
    written.filter fun field => field.key.isNone
  arranged : Arranged written
  again : ∀ field ∈ found, Field.read marks (field.text marks) = field

/-- Fields that make parameters and take no more room than these are their fields, at most in
another order. -/
theorem reordered_of_ofFields (solidItem : marks.multivalue ≠ []) (solid : marks.parameter ≠ [])
    (made : ofFields (pieces.map (Field.read marks)) = parameters)
    (short : Text.extent marks.parameter pieces ≤
      Text.extent marks.parameter (parameters.fields.map (Field.text marks))) :
    Reordered marks (pieces.map (Field.read marks)) parameters.fields := by
  obtain ⟨permuted, unchanged⟩ := perm_of_ofFields solidItem solid made short
  refine ⟨permuted, ?_, arranged_fields parameters, fun field member => ?_⟩
  · rw [← map_ofValue_filterMap, ← map_ofValue_filterMap]
    have own := congrArg positional (ofFields_eq parameters)
    exact congrArg (List.map Field.ofValue) ((congrArg positional made).trans own.symm)
  · obtain ⟨piece, inPieces, rfl⟩ := List.mem_map.mp member
    rw [List.map_map] at unchanged
    have kept := List.map_inj_left.mp (unchanged.trans (List.map_id pieces).symm) piece inPieces
    exact congrArg (Field.read marks) kept

section Order

variable {field first : Field} {others rest : List Field}

/-- The field that is read first is the one that is written first when its text stands there. -/
theorem Reordered.head_eq (reordered : Reordered marks (field :: others) (first :: rest))
    (begins : field.text marks <+: first.text marks) : field = first := by
  by_contra different
  have inRest : field ∈ rest :=
    (List.mem_cons.mp (reordered.permuted.subset List.mem_cons_self)).resolve_left different
  have inFound : first ∈ field :: others := reordered.permuted.symm.subset List.mem_cons_self
  have follow := (List.pairwise_cons.mp reordered.arranged).1 field inRest
  cases keyed : field.key with
  | none =>
    have keyless : first.key = Option.none := by
      by_contra named
      exact (follow named).1 keyed
    have positional := reordered.positional
    rw [List.filter_cons_of_pos (l := others) (by simp [keyed]),
      List.filter_cons_of_pos (l := rest) (by simp [keyless])] at positional
    exact different (List.cons.inj positional).1
  | some key =>
    -- a key that is read from the shorter text is read from the longer one
    have sameKey : first.key = some key := by
      have own : (Field.read marks (field.text marks)).key = some key := by
        rw [reordered.again field List.mem_cons_self, keyed]
      have read := Field.key_read_of_prefix own begins
      rwa [reordered.again first inFound] at read
    exact (follow (by simp [sameKey])).2 (keyed.trans sameKey.symm)

theorem Reordered.tail (reordered : Reordered marks (field :: others) (field :: rest)) :
    Reordered marks others rest where
  permuted := reordered.permuted.cons_inv
  positional := by
    have positional := reordered.positional
    simp only [List.filter_cons] at positional
    split at positional
    · exact (List.cons.inj positional).2
    · exact positional
  arranged := (List.pairwise_cons.mp reordered.arranged).2
  again := (List.forall_mem_cons.mp reordered.again).2

end Order

/-- What is read in another order than it was written has another text. -/
theorem Reordered.eq_of_join_eq {written : List Field} (reordered : Reordered marks found written)
    (parted : Text.Parted marks.parameter (found.map (Field.text marks)))
    (same : Text.join marks.parameter (found.map (Field.text marks)) =
      Text.join marks.parameter (written.map (Field.text marks))) : found = written := by
  induction found generalizing written with
  | nil => exact (List.nil_perm.mp reordered.permuted).symm
  | cons field others inductionHypothesis =>
    cases written with
    | nil => exact absurd (List.perm_nil.mp reordered.permuted) (List.cons_ne_nil _ _)
    | cons first rest =>
      cases others with
      | nil => exact List.singleton_perm.mp reordered.permuted
      | cons second others =>
        obtain ⟨third, rest, rfl⟩ : ∃ third behind, rest = third :: behind :=
          List.exists_cons_of_ne_nil fun none => by
            simpa [none] using reordered.permuted.length_eq
        simp only [List.map_cons, Text.join_cons_cons] at same
        cases parted with
        | more leads behind =>
          obtain rfl := reordered.head_eq (leads.prefix_of_append_eq same)
          rw [inductionHypothesis reordered.tail behind (List.append_cancel_left same)]

end Parameters

end PageTokens
