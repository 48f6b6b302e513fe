import PageTokens.Proofs.Patterns

/-!
# The names on the way of a search

A search for what is below a directory first goes along the names in the path of
the directory, one at a time, and looks up each path that it has put together.
It arrives where the path of the directory leads (`stands_of_arrival`), and it
does arrive unless the path goes on with an empty piece from the directory where
the search begins (`exists_arrival`, `arrival_of_not_straight`).
-/

namespace PageTokens

namespace Glob

variable {tree : FileTree} {current place : Place}

namespace Found

/-- What is found is at the place where its path leads, and known as a directory if it is one. -/
structure Stands (tree : FileTree) (current : Place) (found : Found) : Prop where
  leads : tree.walk current found.path = .ok found.place
  isDirectory_iff : found.isDirectory = true ↔ tree.node? found.place = some .directory

/-- A path that leads somewhere is found there. -/
theorem of?_of_resolve {path : Path} (resolved : tree.resolve current path = .ok place) :
    of? tree current path = some ⟨path, place, tree.node? place = some .directory⟩ := by
  rw [of?, resolved]

/-- What is found under a path is where the path leads, and keeps its path. -/
theorem stands_of? {path : Path} {found : Found} (some : of? tree current path = some found) :
    found.Stands tree current ∧ found.path = path := by
  unfold of? at some
  split at some
  · next place resolved =>
    obtain rfl := Option.some.inj some
    exact ⟨⟨(FileTree.resolve_eq_ok_iff.mp resolved).1, decide_eq_true_iff⟩, rfl⟩
  · contradiction

end Found

/-- What names lead to one after the other, from something that was found. -/
def descend (tree : FileTree) (current : Place) : List Text → Found → Option Found
  | [], base => some base
  | name :: rest, base =>
    if base.isDirectory then
      (Found.of? tree current (base.child name)).bind (descend tree current rest)
    else none

namespace Search

variable {search : Search} {base : Found}

/-- A search along names goes on from where they lead. -/
theorem run_names (names : List Text) (rest : List Piece) (base : Found) :
    search.run (names.map .name ++ rest) base =
      (descend search.tree search.current names base).toList.flatMap (search.run rest) := by
  induction names generalizing base with
  | nil => simp [descend]
  | cons name names inductionHypothesis =>
    rw [List.map_cons, List.cons_append, run, descend]
    split
    · cases Found.of? search.tree search.current (base.child name) with
      | none => rfl
      | some found => simpa using inductionHypothesis found
    · rfl

/-- A search at any depth finds everything below that agrees with a pattern of names. -/
theorem run_directories (every : search.directoriesOnly = false) (parts : List Part) :
    search.run [.directories, .pattern parts] base =
      (base.descendants search.tree).filter fun found => accepts parts found.name := by
  have last (found : Found) : search.run [] found = [found] := by
    rw [run, wanted, every]
    rfl
  have kept : [Piece.pattern parts].dropWhile (· = .directories) = [.pattern parts] := by simp
  rw [run]
  split
  · next gone =>
    rw [kept] at gone
    contradiction
  · next next after there =>
    rw [kept] at there
    obtain ⟨rfl, rfl⟩ := List.cons.inj there
    simp only [last, Piece.acceptsName]
    induction base.descendants search.tree with
    | nil => rfl
    | cons found rest inductionHypothesis =>
      rw [List.flatMap_cons, List.filter_cons, inductionHypothesis]
      split <;> rfl

end Search

/-- From where something is found a name leads where its path with the name leads. -/
theorem walk_child_name {base : Found} {name : Text} (stands : base.Stands tree current)
    (whole : '/' ∉ name) :
    tree.walk current (base.child name) = tree.step base.place name := by
  rw [FileTree.walk_child stands.leads (Path.isAbsolute_of_not_mem whole),
    FileTree.foldlM_step_pieces whole]

/-- Names lead where walking along them leads. -/
theorem foldlM_step_of_descend {names : List Text} {base found : Found}
    (stands : base.Stands tree current) (whole : ∀ name ∈ names, '/' ∉ name)
    (descends : descend tree current names base = some found) :
    found.Stands tree current ∧ names.foldlM tree.step base.place = .ok found.place := by
  induction names generalizing base with
  | nil =>
    obtain rfl := Option.some.inj descends
    exact ⟨stands, rfl⟩
  | cons name rest inductionHypothesis =>
    obtain ⟨nameWhole, restWhole⟩ := List.forall_mem_cons.mp whole
    rw [descend] at descends
    split at descends
    · obtain ⟨next, offers, behind⟩ := Option.bind_eq_some_iff.mp descends
      obtain ⟨nextStands, path⟩ := Found.stands_of? offers
      have leads := nextStands.leads
      rw [path, walk_child_name stands nameWhole] at leads
      obtain ⟨foundStands, led⟩ := inductionHypothesis nextStands restWhole behind
      refine ⟨foundStands, ?_⟩
      rw [List.foldlM_cons, leads]
      exact led
    · contradiction

/-- The number of bytes in front of a name behind a path. -/
def room (path : Path) : Nat :=
  if path = ".".toList then 0
  else if path.getLast? = some '/' then path.byteLength
  else path.byteLength + 1

/-- Names can follow the path of something that was found: the whole path is not too long, and its
spelling names something all the way. -/
structure Opens (base : Found) (names : List Text) : Prop where
  solid : base.path ≠ []
  visible : '\x00' ∉ base.path
  whole : ∀ name ∈ names, '/' ∉ name
  names_visible : ∀ name ∈ names, '\x00' ∉ name
  short : names ≠ [] →
    room base.path + (Text.join "/".toList names).byteLength ≤ FileTree.maximumPath
  straight : base.path = ".".toList → (names.dropWhile (· = ".".toList)).head? ≠ some []

section Child

variable {base : Found} {name : Text}

/-- The path of a name below a path: in the directory where the search begins the name alone,
elsewhere with a slash in front of it unless there is one already. -/
theorem child_eq (solid : base.path ≠ []) (whole : '/' ∉ name) :
    base.child name = if base.path = ".".toList then name
      else if base.path.getLast? = some '/' then base.path ++ name
      else base.path ++ '/' :: name := by
  have relative : ¬ (Path.isAbsolute name || base.path.isEmpty) = true := by
    simp [Path.isAbsolute_of_not_mem whole, solid]
  rw [Found.child, Path.join, if_neg relative]

/-- A name needs the room in front of it and its own bytes. -/
theorem byteLength_child (solid : base.path ≠ []) (whole : '/' ∉ name) :
    (base.child name).byteLength = room base.path + name.byteLength := by
  rw [child_eq solid whole, room]
  split
  · simp
  · split
    · simp
    · have slash : Char.utf8Size '/' = 1 := by decide
      simp [slash, Nat.add_assoc]

/-- The characters of a path with a name are those of the path and of the name, and slashes. -/
theorem mem_child {char : Char} (solid : base.path ≠ []) (whole : '/' ∉ name)
    (member : char ∈ base.child name) : char ∈ base.path ∨ char = '/' ∨ char ∈ name := by
  rw [child_eq solid whole] at member
  split at member
  · exact .inr (.inr member)
  · split at member
    · rcases List.mem_append.mp member with inPath | inName
      · exact .inl inPath
      · exact .inr (.inr inName)
    · rcases List.mem_append.mp member with inPath | behind
      · exact .inl inPath
      · exact .inr (List.mem_cons.mp behind)

/-- Only in the directory where the search begins a path has no slash in it. -/
theorem slash_mem_child (solid : base.path ≠ []) (whole : '/' ∉ name)
    (away : base.path ≠ ".".toList) : '/' ∈ base.child name := by
  rw [child_eq solid whole, if_neg away]
  split
  · next slashed => exact List.mem_append_left _ (List.mem_of_getLast? slashed)
  · exact List.mem_append_right _ List.mem_cons_self

variable {rest : List Text}

/-- The path with one more name is not empty. -/
theorem Opens.child_ne_nil (opens : Opens base (name :: rest)) : base.child name ≠ [] := by
  have whole := opens.whole name List.mem_cons_self
  by_cases here : base.path = ".".toList
  · rw [child_eq opens.solid whole, if_pos here]
    rintro rfl
    exact opens.straight here rfl
  · exact List.ne_nil_of_mem (slash_mem_child opens.solid whole here)

/-- The path with one more name has no null character. -/
theorem Opens.visible_child (opens : Opens base (name :: rest)) :
    '\x00' ∉ base.child name := by
  intro member
  have whole := opens.whole name List.mem_cons_self
  rcases mem_child opens.solid whole member with inPath | slash | inName
  · exact opens.visible inPath
  · exact absurd slash (by decide)
  · exact opens.names_visible name List.mem_cons_self inName

/-- The path with one more name is short enough, and behind it there is room for the others. -/
theorem Opens.short_child (opens : Opens base (name :: rest)) :
    (base.child name).byteLength ≤ FileTree.maximumPath ∧ (rest ≠ [] →
      room (base.child name) + (Text.join "/".toList rest).byteLength ≤ FileTree.maximumPath) := by
  have short := opens.short (List.cons_ne_nil _ _)
  have grows := byteLength_child opens.solid (opens.whole name List.mem_cons_self)
  have narrow : room (base.child name) ≤ (base.child name).byteLength + 1 := by
    unfold room
    split <;> [omega; split <;> omega]
  cases rest with
  | nil =>
    rw [Text.join_singleton] at short
    exact ⟨by omega, fun some => absurd rfl some⟩
  | cons second others =>
    have slash : Text.byteLength "/".toList = 1 := by decide
    rw [Text.join_cons_cons, Text.byteLength_append, Text.byteLength_append, slash] at short
    exact ⟨by omega, fun _ => by omega⟩

/-- What is still to come does not begin with an empty piece in the directory where the search
begins. -/
theorem Opens.straight_child (opens : Opens base (name :: rest))
    (here : base.child name = ".".toList) :
    (rest.dropWhile (· = ".".toList)).head? ≠ some [] := by
  have whole := opens.whole name List.mem_cons_self
  by_cases begins : base.path = ".".toList
  · rw [child_eq opens.solid whole, if_pos begins] at here
    have straight := opens.straight begins
    rwa [here, List.dropWhile_cons_of_pos (by simp)] at straight
  · have slash := slash_mem_child opens.solid whole begins
    rw [here] at slash
    exact absurd slash (by decide)

/-- Behind one more name the others can follow. -/
theorem Opens.next (opens : Opens base (name :: rest)) {found : Found}
    (path : found.path = base.child name) : Opens found rest where
  solid := path ▸ opens.child_ne_nil
  visible := path ▸ opens.visible_child
  whole other inRest := opens.whole other (List.mem_cons_of_mem _ inRest)
  names_visible other inRest := opens.names_visible other (List.mem_cons_of_mem _ inRest)
  short := path ▸ opens.short_child.2
  straight here := opens.straight_child (path ▸ here)

end Child

/-- Where names lead, the search along them finds something. -/
theorem exists_descend {names : List Text} {base : Found} (stands : base.Stands tree current)
    (opens : Opens base names) (led : names.foldlM tree.step base.place = .ok place) :
    ∃ found, descend tree current names base = some found := by
  induction names generalizing base with
  | nil => exact ⟨base, rfl⟩
  | cons name rest inductionHypothesis =>
    have whole := opens.whole name List.mem_cons_self
    rw [List.foldlM_cons] at led
    cases first : tree.step base.place name with
    | error error =>
      rw [first] at led
      contradiction
    | ok next =>
      rw [first] at led
      have resolved : tree.resolve current (base.child name) = .ok next :=
        FileTree.resolve_eq_ok_iff.mpr ⟨(walk_child_name stands whole).trans first,
          opens.visible_child, opens.child_ne_nil, opens.short_child.1⟩
      have offers := Found.of?_of_resolve resolved
      obtain ⟨nextStands, path⟩ := Found.stands_of? offers
      obtain ⟨found, descends⟩ := inductionHypothesis nextStands (opens.next path) led
      refine ⟨found, ?_⟩
      rw [descend, if_pos (stands.isDirectory_iff.mpr (FileTree.leads_of_step first).1), offers]
      exact descends

section Along

variable {directory : Path}

/-- The directory where a search along a path begins. -/
def home (current : Place) (path : Path) : Place :=
  if path.isAbsolute then [] else current

/-- A path leads where its way leads from where the search begins. -/
theorem walk_eq_way :
    tree.walk current directory =
      (way directory).pieces.foldlM tree.step (home current directory) := by
  unfold way
  split
  · next rest =>
    have root : tree.step [] [] = .ok [] := FileTree.step_nil rfl
    rw [FileTree.walk, Path.pieces_cons_slash, List.foldlM_cons]
    show tree.step [] [] >>= _ = _
    rw [root]
    rfl
  · rfl

/-- A path that does not begin at the root begins with a name. -/
theorem head?_pieces_of_relative (solid : directory ≠ [])
    (relative : ¬ directory.isAbsolute = true) : directory.pieces.head? ≠ some [] := by
  intro empty
  obtain ⟨rest, pieces⟩ := List.head?_eq_some_iff.mp empty
  have joined : Text.join "/".toList directory.pieces = directory :=
    Text.join_split (by decide) directory
  rw [pieces] at joined
  cases rest with
  | nil => exact solid (joined.symm.trans (Text.join_singleton _ _))
  | cons second others =>
    rw [Text.join_cons_cons] at joined
    exact relative (joined ▸ rfl)

/-- A search along a path that leads somewhere can begin. -/
theorem resolve_origin (solid : directory ≠ []) (led : tree.walk current directory = .ok place) :
    tree.resolve current (origin directory) = .ok (home current directory) := by
  rw [FileTree.resolve_eq_ok_iff, origin, home]
  split
  · refine ⟨?_, by decide, by decide, by decide⟩
    rw [walk_eq_way]
    show (Path.pieces []).foldlM tree.step [] = _
    rw [FileTree.foldlM_step_pieces List.not_mem_nil, FileTree.step_nil rfl]
  · next relative =>
    refine ⟨?_, by decide, by decide, by decide⟩
    have some : directory.pieces ≠ [] := Text.split_ne_nil (by decide) directory
    obtain ⟨name, rest, pieces⟩ := List.exists_cons_of_ne_nil some
    have named : name ≠ [] := by
      rintro rfl
      exact head?_pieces_of_relative solid relative (by rw [pieces]; rfl)
    rw [FileTree.walk, if_neg relative, pieces, List.foldlM_cons] at led
    cases first : tree.step current name with
    | error error => rw [first] at led; contradiction
    | ok next =>
      rw [FileTree.walk_dot, FileTree.step_dot (FileTree.leads_of_step first).1
        (FileTree.entering_of_step named first)]

/-- A path is spelled so that a search along it does not begin with an empty piece. -/
def Straight (path : Path) : Prop :=
  path.isAbsolute = false → (path.pieces.dropWhile (· = ".".toList)).head? ≠ some []

instance (path : Path) : Decidable (Straight path) :=
  inferInstanceAs (Decidable (path.isAbsolute = false →
    (path.pieces.dropWhile (· = ".".toList)).head? ≠ some []))

theorem mem_way {char : Char} (member : char ∈ way directory) : char ∈ directory := by
  unfold way at member
  split at member
  · exact List.mem_cons_of_mem _ member
  · exact member

/-- A path that does not begin at the root is all way. -/
theorem way_of_relative (relative : directory.isAbsolute = false) : way directory = directory := by
  unfold way
  split
  · simp [Path.isAbsolute] at relative
  · rfl

/-- With its beginning the way takes no more bytes than the path. -/
theorem room_origin_add : room (origin directory) + Text.byteLength (way directory) ≤
    directory.byteLength := by
  cases absolute : directory.isAbsolute with
  | true =>
    obtain ⟨rest, rfl⟩ := List.head?_eq_some_iff.mp (of_decide_eq_true absolute)
    have slash : room "/".toList = Text.byteLength ['/'] := by decide
    rw [origin, if_pos absolute, slash, ← Text.byteLength_append]
    rfl
  | false =>
    have dot : room ".".toList = 0 := by decide
    rw [origin, if_neg (by simp [absolute]), dot, way_of_relative absolute, Nat.zero_add]

theorem origin_eq_dot_iff : origin directory = ".".toList ↔ directory.isAbsolute = false := by
  unfold origin
  cases directory.isAbsolute <;> decide

/-- The names of a directory can follow the path where the search begins. -/
theorem opens_of_straight {base : Found} (path : base.path = origin directory)
    (visible : '\x00' ∉ directory) (short : directory.byteLength ≤ FileTree.maximumPath)
    (straight : Straight directory) : Opens base (way directory).pieces where
  solid := by
    rw [path, origin]
    split <;> decide
  visible := by
    rw [path, origin]
    split <;> decide
  whole name member := Path.not_mem_of_mem_pieces member
  names_visible name member inName :=
    visible (mem_way (Path.subset_of_mem_pieces member inName))
  short _ := by
    rw [path, Path.pieces, Text.join_split (by decide)]
    exact room_origin_add.trans short
  straight here := by
    rw [path, origin_eq_dot_iff] at here
    rw [way_of_relative here]
    exact straight here

/-- An empty piece in the directory where the search begins leads nowhere. -/
theorem descend_of_blocked {names : List Text} {base : Found} (here : base.path = ".".toList)
    (blocked : (names.dropWhile (· = ".".toList)).head? = some []) :
    descend tree current names base = none := by
  have child (name : Text) : base.child name = name := by rw [Found.child, if_pos here]
  induction names generalizing base with
  | nil => contradiction
  | cons name rest inductionHypothesis =>
    rw [descend, child]
    split
    · by_cases dot : name = ".".toList
      · rw [List.dropWhile_cons_of_pos (by simpa using dot)] at blocked
        cases offers : Found.of? tree current name with
        | none => rfl
        | some found =>
          have path := (Found.stands_of? offers).2.trans dot
          exact inductionHypothesis path blocked fun other => by rw [Found.child, if_pos path]
      · rw [List.dropWhile_cons_of_neg (by simpa using dot)] at blocked
        obtain rfl : name = [] := Option.some.inj blocked
        rfl
    · rfl

/-- What the names of a directory lead to in a search. -/
def arrival (tree : FileTree) (current : Place) (directory : Path) : Option Found :=
  (Found.of? tree current (origin directory)).bind (descend tree current (way directory).pieces)

/-- A search arrives where the path of the directory leads. -/
theorem stands_of_arrival {found : Found} (solid : directory ≠ [])
    (led : tree.walk current directory = .ok place)
    (arrives : arrival tree current directory = some found) :
    found.Stands tree current ∧ found.place = place := by
  obtain ⟨base, begins, descends⟩ := Option.bind_eq_some_iff.mp arrives
  obtain rfl :=
    Option.some.inj ((Found.of?_of_resolve (resolve_origin solid led)).symm.trans begins)
  obtain ⟨stands, along⟩ := foldlM_step_of_descend (Found.stands_of? begins).1
    (fun name => Path.not_mem_of_mem_pieces) descends
  rw [walk_eq_way, along] at led
  exact ⟨stands, Except.ok.inj led⟩

/-- Along a straight path that leads somewhere the search arrives. -/
theorem exists_arrival (resolved : tree.resolve current directory = .ok place)
    (straight : Straight directory) : ∃ found, arrival tree current directory = some found := by
  obtain ⟨led, visible, solid, short⟩ := FileTree.resolve_eq_ok_iff.mp resolved
  have begins := Found.of?_of_resolve (resolve_origin solid led)
  obtain ⟨stands, path⟩ := Found.stands_of? begins
  rw [walk_eq_way] at led
  obtain ⟨found, descends⟩ :=
    exists_descend stands (opens_of_straight path visible short straight) led
  exact ⟨found, by rw [arrival, begins]; exact descends⟩

/-- Along another path it never does, wherever the path leads. -/
theorem arrival_of_not_straight (crooked : ¬ Straight directory) :
    arrival tree current directory = none := by
  simp only [Straight, Classical.not_imp, ne_eq, not_not] at crooked
  obtain ⟨relative, blocked⟩ := crooked
  rw [arrival, way_of_relative relative]
  cases begins : Found.of? tree current (origin directory) with
  | none => rfl
  | some base =>
    have path := (Found.stands_of? begins).2.trans (origin_eq_dot_iff.mpr relative)
    exact descend_of_blocked path blocked

end Along

end Glob
end PageTokens
