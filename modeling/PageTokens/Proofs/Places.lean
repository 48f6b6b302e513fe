import Mathlib.Data.List.Basic
import PageTokens.Files.Tree
import PageTokens.Proofs.Separation

/-!
# Places, paths and writing

A place whose names can be names of files is told apart from every other one by
its path, and resolving a path from such a place leads to such a place. Writing
a file changes what is at its place and nothing else: every path leads where it
led before. `source?` is what a path gives to somebody who reads and writes: the
place of a file with its text, and `leaves` what is in the file afterwards.
-/

namespace PageTokens

namespace Path

/-- The pieces on both sides of a slash are the pieces of the whole. -/
theorem pieces_append (front back : Path) :
    Path.pieces (front ++ "/".toList ++ back) = front.pieces ++ back.pieces := by
  have solid : "/".toList ≠ [] := by decide
  have parted := Text.parted_split solid front
  have joined := Text.join_split solid front
  rw [pieces, pieces, pieces]
  generalize Text.split "/".toList front = pieces at parted joined
  subst joined
  induction parted with
  | @last piece absent =>
    have apart := Text.disjoint_of_not_infix rfl absent
    rw [Text.join_singleton, Text.split_append solid (Text.leadsTo_of_disjoint solid apart)]
    rfl
  | @more piece rest leads behind inductionHypothesis =>
    obtain ⟨second, others, rfl⟩ := List.exists_cons_of_ne_nil behind.ne_nil
    rw [Text.join_cons_cons, List.append_assoc _ _ "/".toList, List.append_assoc,
      List.append_assoc, ← List.append_assoc, Text.split_append solid leads,
      inductionHypothesis]
    rfl

/-- What has no slash in it is one piece. -/
theorem pieces_of_not_mem {path : Path} (whole : '/' ∉ path) : path.pieces = [path] := by
  refine Text.split_of_not_infix (by decide) fun stands => whole ?_
  exact stands.subset List.mem_cons_self

theorem pieces_cons_slash (rest : Path) : Path.pieces ('/' :: rest) = [] :: rest.pieces := by
  have split := pieces_append [] rest
  rwa [pieces_of_not_mem List.not_mem_nil] at split

/-- No piece of a path has a slash in it. -/
theorem not_mem_of_mem_pieces {path : Path} {piece : Text} (member : piece ∈ path.pieces) :
    '/' ∉ piece := by
  intro inPiece
  obtain ⟨before, after, rfl⟩ := List.append_of_mem inPiece
  exact (Text.infix_of_mem_split (by decide) member).2 ⟨before, after, by simp⟩

/-- The characters of a piece are characters of the path. -/
theorem subset_of_mem_pieces {path : Path} {piece : Text} (member : piece ∈ path.pieces) :
    piece ⊆ path :=
  (Text.infix_of_mem_split (by decide) member).1.subset

/-- Only the beginning of a path says whether it begins at the root. -/
theorem isAbsolute_append {front back : Path} (some : front ≠ []) :
    isAbsolute (front ++ back) = front.isAbsolute := by
  rw [isAbsolute, isAbsolute, List.head?_append_of_ne_nil _ some]

theorem isAbsolute_of_not_mem {path : Path} (whole : '/' ∉ path) : path.isAbsolute = false := by
  cases path with
  | nil => rfl
  | cons char rest =>
    have other : char ≠ '/' := fun same => whole (same ▸ List.mem_cons_self)
    simp [isAbsolute, other]

end Path

/-- A piece is a name unless it is empty or one of the two special names. -/
theorem Component.ofPiece?_eq_some_name_iff {piece : Text} :
    ofPiece? piece = some (.name piece) ↔
      piece ≠ [] ∧ piece ≠ ".".toList ∧ piece ≠ "..".toList := by
  unfold ofPiece?
  split
  · next idle => exact iff_of_false (by simp) fun apart => idle.elim apart.1 apart.2.1
  · next solid =>
    obtain ⟨some, dotless⟩ := not_or.mp solid
    split
    · next up => exact iff_of_false (by simp) fun apart => apart.2.2 up
    · next down => exact iff_of_true rfl ⟨some, dotless, down⟩

namespace Place

/-- Each name on the way can be the name of a file: it is a piece of a path that counts, and there
is no slash in it. -/
def Proper (place : Place) : Prop :=
  ∀ name ∈ place, '/' ∉ name ∧ Component.ofPiece? name = some (.name name)

instance (place : Place) : Decidable place.Proper :=
  inferInstanceAs (Decidable
    (∀ name ∈ place, '/' ∉ name ∧ Component.ofPiece? name = some (.name name)))

/-- A proper place with one more name is proper. -/
theorem Proper.append {place : Place} {name : Text} (proper : place.Proper) (whole : '/' ∉ name)
    (counts : Component.ofPiece? name = some (.name name)) : Place.Proper (place ++ [name]) := by
  intro other member
  rcases List.mem_append.mp member with inPlace | inName
  · exact proper other inPlace
  · rw [List.mem_singleton.mp inName]
    exact ⟨whole, counts⟩

theorem Proper.dropLast {place : Place} (proper : place.Proper) : Place.Proper place.dropLast :=
  fun name member => proper name (List.dropLast_subset place member)

/-- The pieces of the path of names are the names. -/
theorem pieces_join {names : List Text} (some : names ≠ []) (proper : Place.Proper names) :
    Path.pieces (Text.join "/".toList names) = names := by
  refine Text.split_join (by decide) some fun name member char inName inSlash => ?_
  rw [List.mem_singleton.mp inSlash] at inName
  exact (proper name member).1 inName

/-- The path of names that can be names of files does not begin at the root. -/
theorem isAbsolute_join {names : List Text} (some : names ≠ []) (proper : Place.Proper names) :
    Path.isAbsolute (Text.join "/".toList names) = false := by
  obtain ⟨first, more, rfl⟩ := List.exists_cons_of_ne_nil some
  obtain ⟨whole, counts⟩ := proper first List.mem_cons_self
  have begins : ∃ back, Text.join "/".toList (first :: more) = first ++ back := by
    cases more with
    | nil => exact ⟨[], by rw [Text.join_singleton, List.append_nil]⟩
    | cons second more => exact ⟨_, by rw [Text.join_cons_cons, List.append_assoc]⟩
  obtain ⟨back, begins⟩ := begins
  cases first with
  | nil => contradiction
  | cons char rest =>
    have other : char ≠ '/' := fun same => whole (same ▸ List.mem_cons_self)
    rw [Path.isAbsolute, begins]
    simp [other]

/-- The pieces of the path of a place are its names, behind an empty piece. -/
theorem pieces_toPath {place : Place} (proper : place.Proper) :
    place.toPath.pieces = [] :: if place = [] then [[]] else place := by
  rw [toPath, Path.pieces_cons_slash]
  split
  · next root =>
    rw [root]
    exact congrArg _ (Path.pieces_of_not_mem (by decide))
  · next some => rw [pieces_join some proper]

/-- The path of a place has the names of the place behind the root. -/
theorem components_toPath {place : Place} (proper : place.Proper) :
    place.toPath.components = .root :: place.map .name := by
  have absolute : place.toPath.isAbsolute = true := rfl
  rw [Path.components, pieces_toPath proper, absolute]
  by_cases root : place = []
  · rw [if_pos root, root]
    rfl
  · have names : place.filterMap Component.ofPiece? = place.map .name := by
      refine List.filterMap_eq_map_iff_forall_eq_some.mpr fun name member => ?_
      exact (proper name member).2
    rw [if_neg root, ← names]
    rfl

/-- Different places have different paths. -/
theorem eq_of_components_toPath_eq {first second : Place} (firstProper : first.Proper)
    (secondProper : second.Proper) (same : first.toPath.components = second.toPath.components) :
    first = second := by
  rw [components_toPath firstProper, components_toPath secondProper] at same
  have injective : Function.Injective Component.name := fun _ _ equal => Component.name.inj equal
  exact injective.list_map (List.cons.inj same).2

end Place

namespace FileTree

variable {tree other : FileTree} {current place : Place} {path : Path}

/-- Where a piece of a path leads from a directory. All but an empty piece is looked up, and so the
directory has to be entered. -/
inductive Leads (tree : FileTree) (place : Place) (piece : Text) (next : Place) : Prop
  | empty (idle : piece = []) (stays : next = place)
  | dot (entered : tree.refusals.entering place = none) (idle : piece = ".".toList)
      (stays : next = place)
  | up (entered : tree.refusals.entering place = none) (up : piece = "..".toList)
      (goes : next = place.dropLast)
  | name (entered : tree.refusals.entering place = none)
      (counts : Component.ofPiece? piece = some (.name piece))
      (short : piece.byteLength ≤ maximumName)
      (present : (tree.node? (place ++ [piece])).isSome = true) (goes : next = place ++ [piece])

/-- There is no other way to go on. -/
theorem leads_of_step {next : Place} {piece : Text} (led : tree.step place piece = .ok next) :
    tree.node? place = some .directory ∧ tree.Leads place piece next := by
  unfold step at led
  split at led
  · contradiction
  · contradiction
  · next directory =>
    refine ⟨directory, ?_⟩
    split at led
    · next idle => exact .empty idle (Except.ok.inj led).symm
    · next solid =>
      split at led
      · contradiction
      · next entered =>
        split at led
        · next idle => exact .dot entered idle (Except.ok.inj led).symm
        · next dotless =>
          split at led
          · next up => exact .up entered up (Except.ok.inj led).symm
          · next down =>
            split at led
            · contradiction
            · next short =>
              split at led
              · next present =>
                have counts := Component.ofPiece?_eq_some_name_iff.mpr ⟨solid, dotless, down⟩
                exact .name entered counts (Nat.not_lt.mp short) present (Except.ok.inj led).symm
              · contradiction

/-- Each of these ways can be gone. -/
theorem step_of_leads {next : Place} {piece : Text} (directory : tree.node? place = some .directory)
    (leads : tree.Leads place piece next) : tree.step place piece = .ok next := by
  unfold step
  rw [directory]
  cases leads with
  | empty idle stays => simp only [idle, stays, if_true]
  | dot entered idle stays =>
    rw [idle, stays, entered]
    rfl
  | up entered up goes =>
    rw [up, goes, entered]
    rfl
  | name entered counts short present goes =>
    obtain ⟨solid, dotless, down⟩ := Component.ofPiece?_eq_some_name_iff.mp counts
    simp only [if_neg solid, entered, if_neg dotless, if_neg down, if_neg (Nat.not_lt.mpr short),
      present, if_true, goes]

/-- A piece of a path leads from a proper place to a proper place. -/
theorem proper_of_step {next : Place} {piece : Text} (proper : place.Proper) (whole : '/' ∉ piece)
    (led : tree.step place piece = .ok next) : next.Proper := by
  cases (leads_of_step led).2 with
  | empty idle stays => exact stays ▸ proper
  | dot entered idle stays => exact stays ▸ proper
  | up entered up goes => exact goes ▸ proper.dropLast
  | name entered counts short present goes => exact goes ▸ proper.append whole counts

/-- Steps from a proper place lead to proper places. -/
theorem proper_of_foldlM_step {pieces : List Text} {last : Place} (proper : place.Proper)
    (whole : ∀ piece ∈ pieces, '/' ∉ piece) (led : pieces.foldlM tree.step place = .ok last) :
    last.Proper := by
  induction pieces generalizing place with
  | nil => exact Except.ok.inj led ▸ proper
  | cons piece rest inductionHypothesis =>
    obtain ⟨pieceWhole, restWhole⟩ := List.forall_mem_cons.mp whole
    rw [List.foldlM_cons] at led
    cases first : tree.step place piece with
    | error error => rw [first] at led; contradiction
    | ok next =>
      rw [first] at led
      exact inductionHypothesis (proper_of_step proper pieceWhole first) restWhole led

/-- A path leads from a proper place to a proper place. -/
theorem proper_of_resolve (proper : current.Proper)
    (resolved : tree.resolve current path = .ok place) : place.Proper := by
  unfold resolve at resolved
  split at resolved
  · contradiction
  · split at resolved
    · contradiction
    · split at resolved
      · contradiction
      · refine proper_of_foldlM_step ?_ (fun piece => Path.not_mem_of_mem_pieces) resolved
        split
        · exact fun name member => absurd member List.not_mem_nil
        · exact proper

/-- The canonical path of a path that leads somewhere is the one of the place. -/
theorem canonical_of_resolve (resolved : tree.resolve current path = .ok place) :
    tree.canonical current path = place.toPath := by
  rw [canonical, resolved]

/-- Directories and files stand at the same places in both trees, and the same directories can be
entered. -/
structure Alike (tree other : FileTree) : Prop where
  present : ∀ place, tree.node? place = none ↔ other.node? place = none
  directory : ∀ place, tree.node? place = some .directory ↔ other.node? place = some .directory
  entering : tree.refusals.entering = other.refusals.entering

/-- Every step leads to the same place in both trees. -/
theorem Alike.step_eq (alike : tree.Alike other) : tree.step = other.step := by
  funext place piece
  have kept (next : Place) : (tree.node? next).isSome = (other.node? next).isSome := by
    rw [Bool.eq_iff_iff, Option.isSome_iff_ne_none, Option.isSome_iff_ne_none, ne_eq, ne_eq,
      alike.present]
  have present := alike.present place
  have directory := alike.directory place
  unfold step
  rw [kept, alike.entering]
  cases here : tree.node? place with
  | none => rw [present.mp here]
  | some node =>
    cases node with
    | directory => rw [directory.mp here]
    | file content =>
      cases there : other.node? place with
      | none => simp [present.mpr there] at here
      | some otherNode =>
        cases otherNode with
        | directory => simp [directory.mpr there] at here
        | file otherContent => rfl

/-- Every path leads to the same place in both trees. -/
theorem Alike.resolve_eq (alike : tree.Alike other) : tree.resolve = other.resolve := by
  funext current path
  rw [resolve, resolve, alike.step_eq]

/-- What is at a place below the root after something was put at one. -/
theorem node?_put (below : place ≠ []) (node : Node) (asked : Place) :
    (tree.put place node).node? asked = if asked = place then some node else tree.node? asked := by
  cases asked with
  | nil => rw [if_neg (Ne.symm below)]; rfl
  | cons name rest => exact Dictionary.get?_insert tree.nodes place (name :: rest) node

/-- The root is no file. -/
theorem ne_nil_of_file {content : Content} (file : tree.node? place = some (.file content)) :
    place ≠ [] := by
  rintro rfl
  simp [node?] at file

/-- The place of the file that a path names, with its text, if it can be read. -/
def source? (tree : FileTree) (current : Place) (path : Path) : Option (Place × Text) :=
  match tree.resolve current path with
  | .ok place => (tree.readPlace place).toOption.map fun text => (place, text)
  | .error _ => none

/-- The text of a file is read unless the system refuses it. -/
theorem readPlace_eq_ok_iff {text : Text} :
    tree.readPlace place = .ok text ↔
      tree.node? place = some (.file (.text text)) ∧ tree.refusals.reading place = none := by
  unfold readPlace
  cases tree.node? place with
  | none => simp
  | some node =>
    cases tree.refusals.reading place with
    | some error => simp
    | none =>
      cases node with
      | directory => simp [Node.readText]
      | file content => cases content <;> simp [Node.readText, Content.readText]

/-- A path has a source when it leads to a place that can be read. -/
theorem source?_eq_some_iff {source : Place × Text} :
    tree.source? current path = some source ↔
      tree.resolve current path = .ok source.1 ∧ tree.readPlace source.1 = .ok source.2 := by
  unfold source?
  cases tree.resolve current path with
  | error error => simp
  | ok place =>
    rw [Option.map_eq_some_iff, Except.ok.injEq]
    constructor
    · rintro ⟨text, read, rfl⟩
      refine ⟨rfl, ?_⟩
      cases answer : tree.readPlace place <;> simp_all [Except.toOption]
    · rintro ⟨rfl, read⟩
      exact ⟨source.2, by rw [read]; rfl, rfl⟩

/-- A source is the place of a file with its text. -/
theorem node?_of_source? {source : Place × Text} (found : tree.source? current path = some source) :
    tree.node? source.1 = some (.file (.text source.2)) :=
  (readPlace_eq_ok_iff.mp (source?_eq_some_iff.mp found).2).1

/-- A path has a source exactly when its text can be read. -/
theorem readText_eq_ok_iff {text : Text} :
    tree.readText current path = .ok text ↔
      ∃ place, tree.source? current path = some (place, text) := by
  simp only [source?_eq_some_iff, readText]
  cases tree.resolve current path with
  | error error => simp [bind, Except.bind]
  | ok place => simp [bind, Except.bind]

/-- A path has no source exactly when reading it fails. -/
theorem source?_eq_none_iff :
    tree.source? current path = none ↔ ∃ error, tree.readText current path = .error error := by
  cases read : tree.readText current path with
  | ok text =>
    obtain ⟨place, found⟩ := readText_eq_ok_iff.mp read
    simp [found]
  | error error =>
    refine iff_of_true (Option.eq_none_iff_forall_ne_some.mpr fun source found => ?_) ⟨error, rfl⟩
    rw [readText_eq_ok_iff.mpr ⟨source.1, found⟩] at read
    contradiction

/-- What a file holds when a text has been written over another one, as far as the system lets
it. -/
def leaves (tree : FileTree) (place : Place) (old new : Text) : Content :=
  match tree.refusals.writing place new with
  | none => .text new
  | some failure => failure.left (.text old)

/-- A write that is not refused leaves the new text. -/
theorem leaves_of_not_refused {old new : Text}
    (admitted : tree.refusals.writing place new = none) :
    tree.leaves place old new = .text new := by
  rw [leaves, admitted]

/-- Writing over the text of a file changes what is at its place. -/
theorem writePlace_of_text {old new : Text} (file : tree.node? place = some (.file (.text old))) :
    tree.writePlace place new = ⟨tree.put place (.file (tree.leaves place old new)),
      (tree.refusals.writing place new).map WriteFailure.error⟩ := by
  unfold writePlace leaves
  rw [file]
  cases tree.refusals.writing place new <;> rfl

end FileTree

end PageTokens
