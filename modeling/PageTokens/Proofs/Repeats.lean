import Mathlib.Data.List.Lex
import PageTokens.CommandLine.Replace
import PageTokens.Proofs.Ascending

/-!
# Paths without repetitions

Paths are sorted by what they name, and of neighbours that name the same only
the first stays. What is left is one path for each thing that is named, in
strictly ascending order (`mem_of_mem_distinct`, `exists_mem_distinct`,
`distinct_ascending`).
-/

namespace PageTokens

/-- Components that differ have different places in the order. -/
theorem Component.orderKey_injective : Function.Injective Component.orderKey := by
  intro first second same
  cases first <;> cases second <;> try simp [orderKey] at same
  · rfl
  · rfl
  · rfl
  · next first second =>
    have injective : Function.Injective Char.toNat := fun _ _ equal => Char.toNat_inj.mp equal
    rw [injective.list_map same]

namespace Path

/-- Paths are equal in the order when they have the same components. -/
theorem orderKey_eq_iff {first second : Path} :
    first.orderKey = second.orderKey ↔ first.components = second.components :=
  Component.orderKey_injective.list_map.eq_iff

/-- The order of paths is the order of their keys. -/
theorem isAtMost_iff {first second : Path} :
    first.isAtMost second = true ↔ first.orderKey ≤ second.orderKey := by
  rw [isAtMost, Bool.not_eq_true', decide_eq_false_iff_not, not_lt]

variable {name : Path → Path} {paths : List Path} {path : Path}

/-- Nothing is brought in by dropping repeats. -/
theorem mem_of_mem_dropRepeats (member : path ∈ dropRepeats name paths) : path ∈ paths := by
  fun_induction dropRepeats name paths with
  | case1 => exact member
  | case2 only => exact member
  | case3 first second rest same inductionHypothesis =>
    rcases List.mem_cons.mp (inductionHypothesis member) with rfl | inRest
    · exact List.mem_cons_self
    · exact List.mem_cons_of_mem _ (List.mem_cons_of_mem _ inRest)
  | case4 first second rest other inductionHypothesis =>
    rcases List.mem_cons.mp member with rfl | inRest
    · exact List.mem_cons_self
    · exact List.mem_cons_of_mem _ (inductionHypothesis inRest)

/-- A path that is dropped names what one that stays names. -/
theorem exists_mem_dropRepeats (member : path ∈ paths) :
    ∃ kept ∈ dropRepeats name paths, (name kept).components = (name path).components := by
  revert path
  fun_induction dropRepeats name paths with
  | case1 => exact fun member => absurd member List.not_mem_nil
  | case2 only => exact fun {path} member => ⟨path, member, rfl⟩
  | case3 first second rest same inductionHypothesis =>
    intro path member
    rcases List.mem_cons.mp member with rfl | inRest
    · exact inductionHypothesis List.mem_cons_self
    · rcases List.mem_cons.mp inRest with rfl | inTail
      · obtain ⟨kept, inKept, names⟩ := inductionHypothesis List.mem_cons_self
        exact ⟨kept, inKept, names.trans same⟩
      · exact inductionHypothesis (List.mem_cons_of_mem _ inTail)
  | case4 first second rest other inductionHypothesis =>
    intro path member
    rcases List.mem_cons.mp member with rfl | inRest
    · exact ⟨path, List.mem_cons_self, rfl⟩
    · obtain ⟨kept, inKept, names⟩ := inductionHypothesis inRest
      exact ⟨kept, List.mem_cons_of_mem _ inKept, names⟩

/-- Of sorted paths those that stay ascend strictly: equal neighbours are gone, and paths that
name the same are neighbours. -/
theorem dropRepeats_ascending
    (sorted : paths.Pairwise fun left right => (name left).orderKey ≤ (name right).orderKey) :
    (dropRepeats name paths).Pairwise
      fun left right => (name left).orderKey < (name right).orderKey := by
  fun_induction dropRepeats name paths with
  | case1 => exact .nil
  | case2 only => exact List.pairwise_singleton _ _
  | case3 first second rest same inductionHypothesis =>
    obtain ⟨firstLeast, restSorted⟩ := List.pairwise_cons.mp sorted
    refine inductionHypothesis (List.pairwise_cons.mpr ⟨fun later inRest => ?_, ?_⟩)
    · exact firstLeast later (List.mem_cons_of_mem _ inRest)
    · exact (List.pairwise_cons.mp restSorted).2
  | case4 first second rest other inductionHypothesis =>
    obtain ⟨firstLeast, restSorted⟩ := List.pairwise_cons.mp sorted
    refine List.pairwise_cons.mpr ⟨fun later inKept => ?_, inductionHypothesis restSorted⟩
    have below : (name first).orderKey < (name second).orderKey := by
      refine lt_of_le_of_ne (firstLeast second List.mem_cons_self) fun same => ?_
      exact other (orderKey_eq_iff.mp same)
    refine lt_of_lt_of_le below ?_
    rcases List.mem_cons.mp (mem_of_mem_dropRepeats inKept) with rfl | inRest
    · exact le_rfl
    · exact (List.pairwise_cons.mp restSorted).1 later inRest

/-- Nothing is brought in by sorting either. -/
theorem mem_of_mem_distinct (member : path ∈ distinct name paths) : path ∈ paths :=
  List.mem_mergeSort.mp (mem_of_mem_dropRepeats member)

/-- Of the paths with one name at least one is kept. -/
theorem exists_mem_distinct (member : path ∈ paths) :
    ∃ kept ∈ distinct name paths, (name kept).components = (name path).components :=
  exists_mem_dropRepeats (List.mem_mergeSort.mpr member)

/-- Sorting paths by what they name puts them into their order. -/
theorem pairwise_mergeSort_isAtMost (name : Path → Path) (paths : List Path) :
    (paths.mergeSort fun left right => (name left).isAtMost (name right)).Pairwise
      fun left right => (name left).isAtMost (name right) = true := by
  refine List.pairwise_mergeSort ?_ ?_ paths
  · intro first second third before after
    rw [isAtMost_iff] at before after ⊢
    exact le_trans before after
  · intro first second
    rw [Bool.or_eq_true, isAtMost_iff, isAtMost_iff]
    exact le_total _ _

/-- The kept paths are in strictly ascending order of their names. -/
theorem distinct_ascending (name : Path → Path) (paths : List Path) :
    (distinct name paths).Pairwise
      fun left right => (name left).orderKey < (name right).orderKey :=
  dropRepeats_ascending ((pairwise_mergeSort_isAtMost name paths).imp isAtMost_iff.mp)

/-- Some path is kept as soon as there is one. -/
theorem distinct_eq_nil_iff : distinct name paths = [] ↔ paths = [] := by
  simp only [List.eq_nil_iff_forall_not_mem]
  constructor
  · intro none path member
    obtain ⟨kept, inKept, -⟩ := @exists_mem_distinct name paths path member
    exact none kept inKept
  · intro none path member
    exact none path (mem_of_mem_distinct member)

end Path

end PageTokens
