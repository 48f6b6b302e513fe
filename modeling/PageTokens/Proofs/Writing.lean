import Mathlib.Data.List.Pairwise
import PageTokens.Proofs.Places

/-!
# Writing several files

`rewrite` puts new contents into the files of some sources. Files and directories
stay where they are (`Holds.alike_rewrite`), what is read elsewhere stays as well
(`Holds.readText_rewrite`), and as long as the sources are at different places
their order makes no difference (`rewrite_perm`).
-/

namespace PageTokens

namespace FileTree

variable {tree : FileTree} {place other : Place}

/-- At different places something can be put in either order. -/
theorem put_comm (apart : place ≠ other) (node otherNode : Node) :
    (tree.put place node).put other otherNode = (tree.put other otherNode).put place node := by
  have nodes : (tree.nodes.insert place node).insert other otherNode =
      (tree.nodes.insert other otherNode).insert place node := by
    refine Dictionary.ext fun asked => ?_
    simp only [Dictionary.get?_insert]
    by_cases here : asked = place
    · rw [if_pos here, if_neg (here ▸ apart), if_pos here]
    · rw [if_neg here, if_neg here]
  rw [put, put, put, put, nodes]

/-- The tree with new contents at the places of some sources. -/
def rewrite (content : Place × Text → Content) (files : FileTree)
    (sources : List (Place × Text)) : FileTree :=
  sources.foldl (fun tree source => tree.put source.1 (.file (content source))) files

variable {content : Place × Text → Content} {files : FileTree} {sources : List (Place × Text)}

@[simp] theorem rewrite_nil : files.rewrite content [] = files := rfl

@[simp] theorem rewrite_cons (source : Place × Text) :
    files.rewrite content (source :: sources) =
      (files.put source.1 (.file (content source))).rewrite content sources := rfl

theorem rewrite_concat (source : Place × Text) :
    files.rewrite content (sources ++ [source]) =
      (files.rewrite content sources).put source.1 (.file (content source)) := by
  rw [rewrite, List.foldl_append]
  rfl

/-- What the system refuses does not depend on what is in the files. -/
theorem refusals_rewrite : (files.rewrite content sources).refusals = files.refusals := by
  induction sources generalizing files with
  | nil => rfl
  | cons source rest inductionHypothesis => exact inductionHypothesis

/-- Sources at different places can be rewritten in any order. -/
theorem rewrite_perm {others : List (Place × Text)}
    (apart : sources.Pairwise fun one other => one.1 ≠ other.1) (perm : sources.Perm others) :
    files.rewrite content sources = files.rewrite content others := by
  have : Std.Symm fun one other : Place × Text => one.1 ≠ other.1 := ⟨fun _ _ => Ne.symm⟩
  refine perm.foldl_eq' (fun one inOne other inOther tree => ?_) files
  by_cases same : one = other
  · rw [same]
  · exact put_comm (apart.forall inOne inOther same) _ _

/-- What is at a place that no source is at stays. -/
theorem node?_rewrite_of_forall_ne {place : Place} (below : ∀ source ∈ sources, source.1 ≠ [])
    (elsewhere : ∀ source ∈ sources, source.1 ≠ place) :
    (files.rewrite content sources).node? place = files.node? place := by
  induction sources generalizing files with
  | nil => rfl
  | cons source rest inductionHypothesis =>
    obtain ⟨sourceBelow, restBelow⟩ := List.forall_mem_cons.mp below
    obtain ⟨apart, restElsewhere⟩ := List.forall_mem_cons.mp elsewhere
    rw [rewrite_cons, inductionHypothesis restBelow restElsewhere, node?_put sourceBelow,
      if_neg apart.symm]

/-- At the place of a source is the new content, if all sources there have one text. -/
theorem node?_rewrite_of_mem {place : Place} {text : Text}
    (below : ∀ source ∈ sources, source.1 ≠ []) (member : (place, text) ∈ sources)
    (same : ∀ other, (place, other) ∈ sources → other = text) :
    (files.rewrite content sources).node? place = some (.file (content (place, text))) := by
  induction sources generalizing files with
  | nil => contradiction
  | cons source rest inductionHypothesis =>
    obtain ⟨sourceBelow, restBelow⟩ := List.forall_mem_cons.mp below
    rw [rewrite_cons]
    by_cases again : (place, text) ∈ rest
    · exact inductionHypothesis restBelow again fun other inRest =>
        same other (List.mem_cons_of_mem _ inRest)
    · obtain rfl : (place, text) = source :=
        (List.mem_cons.mp member).resolve_right again
      have elsewhere : ∀ later ∈ rest, later.1 ≠ place := by
        rintro ⟨laterPlace, laterText⟩ inRest rfl
        exact again (same laterText (List.mem_cons_of_mem _ inRest) ▸ inRest)
      rw [node?_rewrite_of_forall_ne restBelow elsewhere, node?_put sourceBelow, if_pos rfl]

/-- Each source is the place of a file with its text, and the file can be read. -/
def Holds (files : FileTree) (sources : List (Place × Text)) : Prop :=
  ∀ source ∈ sources, files.readPlace source.1 = .ok source.2

section Holds

variable (holds : files.Holds sources)

include holds

/-- At the place of a source is a file with its text. -/
theorem Holds.node? {source : Place × Text} (member : source ∈ sources) :
    files.node? source.1 = some (.file (.text source.2)) :=
  (readPlace_eq_ok_iff.mp (holds source member)).1

theorem Holds.below : ∀ source ∈ sources, source.1 ≠ [] :=
  fun _ member => ne_nil_of_file (holds.node? member)

/-- At the place of a source stands its new content. -/
theorem Holds.node?_rewrite {source : Place × Text} (member : source ∈ sources) :
    (files.rewrite content sources).node? source.1 = some (.file (content source)) := by
  refine node?_rewrite_of_mem holds.below member fun other otherMember => ?_
  have one := holds.node? otherMember
  rw [holds.node? member] at one
  simpa using one.symm

/-- Files and directories stand where they stood. -/
theorem Holds.alike_rewrite : files.Alike (files.rewrite content sources) := by
  have either (place : Place) :
      (∃ source ∈ sources, source.1 = place) ∨ ∀ source ∈ sources, source.1 ≠ place := by
    by_cases written : ∃ source ∈ sources, source.1 = place
    · exact .inl written
    · exact .inr fun source member same => written ⟨source, member, same⟩
  refine ⟨fun place => ?_, fun place => ?_, congrArg Refusals.entering refusals_rewrite.symm⟩
  all_goals
    rcases either place with ⟨source, member, rfl⟩ | elsewhere
    · rw [holds.node? member, holds.node?_rewrite member]
      simp
    · rw [node?_rewrite_of_forall_ne holds.below elsewhere]

/-- What is read of a path that leads to none of the sources stays. -/
theorem Holds.readText_rewrite {current : Place} {path : Path}
    (elsewhere : ∀ source ∈ sources, files.source? current path ≠ some source) :
    (files.rewrite content sources).readText current path = files.readText current path := by
  rw [readText, readText, ← holds.alike_rewrite.resolve_eq]
  cases resolved : files.resolve current path with
  | error error => rfl
  | ok place =>
    have apart : ∀ source ∈ sources, source.1 ≠ place := by
      rintro source member rfl
      exact elsewhere source member (source?_eq_some_iff.mpr ⟨resolved, holds source member⟩)
    show (files.rewrite content sources).readPlace place = files.readPlace place
    rw [readPlace, readPlace, node?_rewrite_of_forall_ne holds.below apart, refusals_rewrite]

/-- Writing into the file of a path does what it does when nothing else has been written. -/
theorem Holds.writeText_rewrite {current : Place} {path : Path} {source : Place × Text}
    (found : files.source? current path = some source)
    (elsewhere : ∀ other ∈ sources, other.1 ≠ source.1) (text : Text) :
    (files.rewrite content sources).writeText current path text =
      ⟨(files.rewrite content sources).put source.1
          (.file (files.leaves source.1 source.2 text)),
        (files.refusals.writing source.1 text).map WriteFailure.error⟩ := by
  have resolved := (source?_eq_some_iff.mp found).1
  have file : (files.rewrite content sources).node? source.1 = some (.file (.text source.2)) := by
    rw [node?_rewrite_of_forall_ne holds.below elsewhere, node?_of_source? found]
  have leaves : (files.rewrite content sources).leaves source.1 source.2 text =
      files.leaves source.1 source.2 text := by
    rw [FileTree.leaves, FileTree.leaves, refusals_rewrite]
  rw [writeText, ← holds.alike_rewrite.resolve_eq, resolved, ← leaves]
  show (files.rewrite content sources).writePlace source.1 text = _
  rw [writePlace_of_text file, refusals_rewrite]

end Holds

end FileTree
end PageTokens
