import Mathlib.Data.List.Nodup
import Mathlib.Order.Basic

/-!
# Lists in strictly ascending order

Two lists in strictly ascending order that have the same members are the same
list.
-/

namespace PageTokens

variable {Item Key : Type} [Preorder Key] {key : Item → Key}

/-- Nothing comes twice in an ascending list. -/
theorem nodup_of_ascending {items : List Item}
    (ascending : items.Pairwise fun left right => key left < key right) : items.Nodup := by
  refine List.nodup_iff_pairwise_ne.mpr (ascending.imp ?_)
  rintro left right before rfl
  exact lt_irrefl _ before

/-- What stands in strictly ascending order is determined by which members it has. -/
theorem eq_of_ascending {first second : List Item}
    (firstAscending : first.Pairwise fun left right => key left < key right)
    (secondAscending : second.Pairwise fun left right => key left < key right)
    (same : ∀ item, item ∈ first ↔ item ∈ second) : first = second := by
  have permuted : first.Perm second := (List.perm_ext_iff_of_nodup
    (nodup_of_ascending firstAscending) (nodup_of_ascending secondAscending)).mpr same
  refine permuted.eq_of_pairwise (fun _ _ _ _ before after => ?_) firstAscending secondAscending
  exact absurd before (lt_asymm after)

end PageTokens
