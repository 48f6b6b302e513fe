import PageTokens.Files.Glob
import PageTokens.Proofs.Places

/-!
# Walks

A path is walked piece by piece, each piece from the place that the one before it
led to. A path that begins with the path of a directory leads where the rest of
it leads from there (`walk_child`). Trees grow from the root: what stands in them
stands in a directory, under a name that a path can hold. So everything below a
directory is reached by its names (`walk_of_below`).
-/

namespace PageTokens

namespace FileTree

variable {tree : FileTree} {current place : Place} {path : Path}

/-- The place that a path leads to, however long the path is. -/
def walk (tree : FileTree) (current : Place) (path : Path) : Except FileError Place :=
  path.pieces.foldlM tree.step (if path.isAbsolute then [] else current)

/-- A path leads to a place when walking along it does and its text is one that the system takes. -/
theorem resolve_eq_ok_iff :
    tree.resolve current path = .ok place ↔
      tree.walk current path = .ok place ∧ '\x00' ∉ path ∧ path ≠ [] ∧
        path.byteLength ≤ maximumPath := by
  have zero : (path.any (· = '\x00')) = true ↔ '\x00' ∈ path := by simp
  unfold resolve walk
  by_cases inPath : '\x00' ∈ path
  · rw [if_pos (zero.mpr inPath)]
    simp [inPath]
  · rw [if_neg (mt zero.mp inPath)]
    by_cases empty : path = []
    · simp [empty]
    · rw [if_neg (by simpa using empty)]
      by_cases long : maximumPath < path.byteLength
      · rw [if_pos long]
        simp [Nat.not_le.mpr long]
      · rw [if_neg long]
        simp [inPath, empty, Nat.not_lt.mp long]

/-- An empty piece stays in a directory. -/
theorem step_nil (directory : tree.node? place = some .directory) :
    tree.step place [] = .ok place :=
  step_of_leads directory (.empty rfl rfl)

theorem step_dot (directory : tree.node? place = some .directory)
    (entered : tree.refusals.entering place = none) : tree.step place ".".toList = .ok place :=
  step_of_leads directory (.dot entered rfl rfl)

/-- A piece that is not empty leads on only if the directory can be entered. -/
theorem entering_of_step {next : Place} {piece : Text} (solid : piece ≠ [])
    (led : tree.step place piece = .ok next) : tree.refusals.entering place = none := by
  cases (leads_of_step led).2 with
  | empty idle => exact absurd idle solid
  | dot entered => exact entered
  | up entered => exact entered
  | name entered => exact entered

/-- Pieces that do not count lead from a directory to itself. -/
theorem eq_of_step_nil {next : Place} (led : tree.step place [] = .ok next) : next = place := by
  rw [step_nil (leads_of_step led).1] at led
  exact (Except.ok.inj led).symm

theorem eq_of_step_dot {next : Place} (led : tree.step place ".".toList = .ok next) :
    next = place := by
  rw [step_dot (leads_of_step led).1 (entering_of_step (by decide) led)] at led
  exact (Except.ok.inj led).symm

/-- A name is a path of one step. -/
theorem foldlM_step_pieces {piece : Path} (whole : '/' ∉ piece) :
    piece.pieces.foldlM tree.step place = tree.step place piece := by
  rw [Path.pieces_of_not_mem whole, List.foldlM_cons]
  exact bind_pure _

theorem walk_dot : tree.walk current ".".toList = tree.step current ".".toList :=
  foldlM_step_pieces (by decide)

/-- Behind a slash a path goes on from where it led in front of it. -/
theorem walk_append {front back : Path} (some : front ++ "/".toList ≠ []) :
    tree.walk current (front ++ "/".toList ++ back) =
      (front.pieces.foldlM tree.step
        (if Path.isAbsolute (front ++ "/".toList) then [] else current)).bind fun place =>
          back.pieces.foldlM tree.step place := by
  rw [walk, Path.pieces_append, Path.isAbsolute_append some, List.foldlM_append]
  rfl

/-- A relative path behind another path leads where it leads from there. -/
theorem walk_join {base text : Path} (leads : tree.walk current base = .ok place)
    (relative : text.isAbsolute = false) :
    tree.walk current (base.join text) = text.pieces.foldlM tree.step place := by
  have solid (front : Path) : front ++ "/".toList ≠ [] := by simp
  unfold Path.join
  by_cases empty : base = []
  · subst empty
    have here : place = current := by
      rw [walk, foldlM_step_pieces List.not_mem_nil] at leads
      exact eq_of_step_nil leads
    rw [if_pos (by simp), here, walk, relative]
    rfl
  · rw [if_neg (by simp [relative, empty])]
    by_cases slashed : base.getLast? = some '/'
    · rw [if_pos slashed]
      obtain ⟨front, rfl⟩ := List.getLast?_eq_some_iff.mp slashed
      have slash : front ++ ['/'] = front ++ "/".toList := rfl
      rw [slash] at leads ⊢
      rw [← List.append_nil (front ++ "/".toList), walk_append (solid front)] at leads
      rw [walk_append (solid front)]
      -- the slash at the end of the path leads from the directory to itself
      generalize (Path.pieces front).foldlM tree.step _ = reached at leads ⊢
      cases reached with
      | error error => contradiction
      | ok middle =>
        simp only [Except.bind, foldlM_step_pieces List.not_mem_nil] at leads
        rw [eq_of_step_nil leads]
        rfl
    · rw [if_neg slashed]
      have whole : base ++ '/' :: text = base ++ "/".toList ++ text := by simp
      rw [whole, walk_append (solid base), Path.isAbsolute_append empty, ← walk, leads]
      rfl

/-- What is found in a directory has a path that leads where its name leads from there. -/
theorem walk_child {base : Glob.Found} {text : Path}
    (leads : tree.walk current base.path = .ok place) (relative : text.isAbsolute = false) :
    tree.walk current (base.child text) = text.pieces.foldlM tree.step place := by
  unfold Glob.Found.child
  split
  · next dot =>
    rw [dot, walk_dot] at leads
    rw [eq_of_step_dot leads, walk, relative]
    rfl
  · exact walk_join leads relative

/-- Everything stands in a directory, under a name that a path can hold. -/
def Grown (tree : FileTree) : Prop :=
  ∀ entry ∈ tree.nodes.entries, Place.Proper entry.1 ∧
    (∀ name ∈ entry.1, name.byteLength ≤ maximumName) ∧
      tree.node? entry.1.dropLast = some .directory

instance (tree : FileTree) : Decidable tree.Grown :=
  inferInstanceAs (Decidable (∀ entry ∈ tree.nodes.entries, Place.Proper entry.1 ∧
    (∀ name ∈ entry.1, name.byteLength ≤ maximumName) ∧
      tree.node? entry.1.dropLast = some .directory))

/-- Below the root the entries say what is where. -/
theorem mem_entries_iff {node : Node} (below : place ≠ []) :
    (place, node) ∈ tree.nodes.entries ↔ tree.node? place = some node := by
  rw [← Dictionary.find?_eq_some_iff tree.nodes.ascending, node?, if_neg (by simpa using below)]
  rfl

/-- What is below a place stands at a place that goes on from it. -/
theorem mem_below_iff {other : Place} {node : Node} :
    (other, node) ∈ tree.below place ↔
      tree.node? other = some node ∧ place <+: other ∧ place ≠ other := by
  simp only [below, List.mem_filter, Bool.and_eq_true, List.isPrefixOf_iff_prefix,
    decide_eq_true_eq]
  refine and_congr_left fun ⟨within, apart⟩ => mem_entries_iff ?_
  rintro rfl
  exact apart (List.prefix_nil.mp within)

/-- The system lets everyone enter and list a directory and all directories below it. -/
def Accessible (tree : FileTree) (place : Place) : Prop :=
  ∀ other, place <+: other →
    tree.refusals.entering other = none ∧ tree.refusals.listing other = none

/-- A system that refuses nothing leaves every directory accessible. -/
theorem accessible_of_none (none : tree.refusals = .none) (place : Place) :
    tree.Accessible place := by
  intro other within
  rw [none]
  exact ⟨rfl, rfl⟩

/-- In an accessible directory everything is shown. -/
theorem Accessible.shows {other : Place} (accessible : tree.Accessible place)
    (below : place <+: other) : tree.shows place other = true := by
  have within : ∀ directory ∈ place.downTo other, place <+: directory := by
    intro directory member
    obtain ⟨count, inRange, rfl⟩ := List.mem_map.mp member
    obtain ⟨index, inDrop, rfl⟩ := List.getElem_of_mem inRange
    rw [List.getElem_drop, List.getElem_range]
    exact List.prefix_take_iff.mpr ⟨below, Nat.le_add_right _ _⟩
  unfold FileTree.shows
  simp only [Bool.and_eq_true, List.all_eq_true]
  constructor
  · intro directory member
    rw [(accessible directory (within directory member)).2]
    rfl
  · intro directory member
    rw [(accessible directory (within directory (List.mem_of_mem_dropLast member))).1]
    rfl

/-- From an accessible directory names lead to what stands below it under these names. -/
theorem foldlM_step_of_grown (grown : tree.Grown) (accessible : tree.Accessible place)
    {rest : List Text} {node : Node} (found : tree.node? (place ++ rest) = some node) :
    rest.foldlM tree.step place = .ok (place ++ rest) := by
  induction rest using List.reverseRecOn generalizing node with
  | nil => rw [List.append_nil]; rfl
  | append_singleton front name inductionHypothesis =>
    rw [← List.append_assoc] at found ⊢
    obtain ⟨proper, short, directory⟩ :=
      grown (_, node) ((mem_entries_iff (List.concat_ne_nil name _)).mpr found)
    rw [List.dropLast_concat] at directory
    have last : name ∈ place ++ front ++ [name] :=
      List.mem_append_right _ (List.mem_singleton_self _)
    rw [List.foldlM_append, inductionHypothesis directory]
    show [name].foldlM tree.step (place ++ front) = _
    have entered := (accessible _ (List.prefix_append place front)).1
    have leads : tree.Leads (place ++ front) name (place ++ front ++ [name]) :=
      .name entered (proper name last).2 (short name last) (by rw [found]; rfl) rfl
    rw [List.foldlM_cons, step_of_leads directory leads]
    rfl

/-- A name leads to what stands under it or nowhere. -/
theorem eq_of_step_name {next : Place} {name : Text}
    (counts : Component.ofPiece? name = some (.name name)) (led : tree.step place name = .ok next) :
    next = place ++ [name] := by
  obtain ⟨solid, dotless, down⟩ := Component.ofPiece?_eq_some_name_iff.mp counts
  cases (leads_of_step led).2 with
  | empty idle => exact absurd idle solid
  | dot entered idle => exact absurd idle dotless
  | up entered up => exact absurd up down
  | name entered counts short present goes => exact goes

/-- So do several names. -/
theorem eq_of_foldlM_step {rest : List Text} {next : Place} (proper : Place.Proper rest)
    (led : rest.foldlM tree.step place = .ok next) : next = place ++ rest := by
  induction rest generalizing place with
  | nil => exact (Except.ok.inj led).symm.trans (List.append_nil place).symm
  | cons name rest inductionHypothesis =>
    obtain ⟨counts, properRest⟩ := List.forall_mem_cons.mp proper
    rw [List.foldlM_cons] at led
    cases first : tree.step place name with
    | error error => rw [first] at led; contradiction
    | ok middle =>
      rw [first] at led
      rw [inductionHypothesis properRest led, eq_of_step_name counts.2 first, List.append_assoc]
      rfl

/-- What stands below a directory that is found is looked for under its names. -/
theorem walk_child_of_below (grown : tree.Grown) {base : Glob.Found} {other : Place} {node : Node}
    (leads : tree.walk current base.path = .ok base.place)
    (below : (other, node) ∈ tree.below base.place) :
    ∃ rest : List Text, other = base.place ++ rest ∧ Place.Proper rest ∧
      tree.walk current (base.child (Text.join "/".toList (other.drop base.place.length))) =
        rest.foldlM tree.step base.place := by
  obtain ⟨found, ⟨rest, rfl⟩, apart⟩ := mem_below_iff.mp below
  have some : rest ≠ [] := fun empty => apart (by rw [empty, List.append_nil])
  have proper : Place.Proper rest := fun name inRest =>
    (grown _ ((mem_entries_iff (by simp [some])).mpr found)).1 name (List.mem_append_right _ inRest)
  refine ⟨rest, rfl, proper, ?_⟩
  rw [List.drop_left, walk_child leads (Place.isAbsolute_join some proper),
    Place.pieces_join some proper]

/-- Everything below an accessible directory that is found has a path that leads to it. -/
theorem walk_of_below (grown : tree.Grown) {base : Glob.Found} {other : Place} {node : Node}
    (accessible : tree.Accessible base.place)
    (leads : tree.walk current base.path = .ok base.place)
    (below : (other, node) ∈ tree.below base.place) :
    tree.walk current
      (base.child (Text.join "/".toList (other.drop base.place.length))) = .ok other := by
  obtain ⟨rest, rfl, -, walks⟩ := walk_child_of_below grown leads below
  rw [walks, foldlM_step_of_grown grown accessible (mem_below_iff.mp below).1]

/-- A path that was put together for something below a directory leads nowhere else. -/
theorem eq_of_walk_of_below (grown : tree.Grown) {base : Glob.Found} {other target : Place}
    {node : Node} (leads : tree.walk current base.path = .ok base.place)
    (below : (other, node) ∈ tree.below base.place)
    (reaches : tree.walk current
      (base.child (Text.join "/".toList (other.drop base.place.length))) = .ok target) :
    target = other := by
  obtain ⟨rest, rfl, proper, walks⟩ := walk_child_of_below grown leads below
  rw [walks] at reaches
  exact eq_of_foldlM_step proper reaches

end FileTree
end PageTokens
