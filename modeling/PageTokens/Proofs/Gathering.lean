import PageTokens.Proofs.Descent
import PageTokens.Proofs.Frame

/-!
# The files below a directory

What a search with an ending gathers is everything below the place where it
arrives that has the ending (`finds_gathered`): each file once, in the order of
paths, and directories with such a name as well. So a run over a directory alone
leaves everything outside of it (`replace_directory`), as long as the path of the
directory holds no character with a meaning in patterns. With such a character
the search goes elsewhere (`not_finds_bracketed`).
-/

namespace PageTokens

namespace Glob

variable {tree : FileTree} {current place : Place}

/-- A place is below another one, and its name ends with a dot and an ending. -/
structure Named (place : Place) (ending : Text) (target : Place) : Prop where
  below : place <+: target
  apart : place ≠ target
  ending : '.' :: ending <:+ target.getLast?.getD []

/-- Some paths lead to exactly the places that are wanted, to each of them once, in the order of
paths. -/
structure Finds (tree : FileTree) (current : Place) (wanted : Place → Prop) (paths : List Path) :
    Prop where
  leads : ∀ path ∈ paths, ∃ target, wanted target ∧ tree.walk current path = .ok target
  complete : ∀ target, wanted target → ∃ path ∈ paths, tree.walk current path = .ok target
  once : paths.Pairwise fun one other => tree.walk current one ≠ tree.walk current other
  ascending : paths.Pairwise fun one other => one.isAtMost other = true

/-- What is wanted may be said in another way. -/
theorem Finds.congr {wanted other : Place → Prop} {paths : List Path}
    (finds : Finds tree current wanted paths) (same : ∀ target, wanted target ↔ other target) :
    Finds tree current other paths := by
  obtain rfl : wanted = other := funext fun target => propext (same target)
  exact finds

section Below

variable {base : Found} {ending : Text}

/-- The paths of what is below something that was found and has an ending. -/
def gathered (tree : FileTree) (base : Found) (ending : Text) : List Path :=
  ((base.descendants tree).filter fun found => accepts (endingParts ending) found.name).map
    Found.path

/-- What is gathered below a directory is there and has the ending, and its path is put together of
the names that lead to it. -/
theorem named_of_mem_gathered {path : Path} (member : path ∈ gathered tree base ending) :
    ∃ target, (tree.node? target).isSome = true ∧ Named base.place ending target ∧
      path = base.child (Text.join "/".toList (target.drop base.place.length)) := by
  unfold gathered Found.descendants at member
  split at member
  · simp only [List.mem_map, List.mem_filter, accepts_endingParts_iff, Found.name] at member
    obtain ⟨-, ⟨⟨⟨target, node⟩, ⟨below, -⟩, rfl⟩, named⟩, rfl⟩ := member
    obtain ⟨found, within, apart⟩ := FileTree.mem_below_iff.mp below
    exact ⟨target, by rw [found]; rfl, ⟨within, apart, named⟩, rfl⟩
  · contradiction

/-- In an accessible directory everything with the ending is gathered. -/
theorem mem_gathered (accessible : tree.Accessible base.place) (directory : base.isDirectory = true)
    {target : Place} (present : (tree.node? target).isSome = true)
    (named : Named base.place ending target) :
    base.child (Text.join "/".toList (target.drop base.place.length)) ∈
      gathered tree base ending := by
  obtain ⟨node, found⟩ := Option.isSome_iff_exists.mp present
  have below := FileTree.mem_below_iff.mpr ⟨found, named.below, named.apart⟩
  rw [gathered, Found.descendants, if_pos directory]
  simp only [List.mem_map, List.mem_filter, accepts_endingParts_iff, Found.name]
  exact ⟨_, ⟨⟨(target, node), ⟨below, accessible.shows named.below⟩, rfl⟩, named.ending⟩, rfl⟩

/-- A gathered path leads to what it was gathered for. -/
theorem walk_gathered (grown : tree.Grown) (accessible : tree.Accessible base.place)
    (stands : base.Stands tree current) {target : Place}
    (present : (tree.node? target).isSome = true) (named : Named base.place ending target) :
    tree.walk current (base.child (Text.join "/".toList (target.drop base.place.length))) =
      .ok target := by
  obtain ⟨node, found⟩ := Option.isSome_iff_exists.mp present
  exact FileTree.walk_of_below grown accessible stands.leads
    (FileTree.mem_below_iff.mpr ⟨found, named.below, named.apart⟩)

/-- No two gathered paths lead to the same place. -/
theorem gathered_apart (grown : tree.Grown) (accessible : tree.Accessible base.place)
    (stands : base.Stands tree current) :
    (gathered tree base ending).Pairwise
      fun one other => tree.walk current one ≠ tree.walk current other := by
  unfold gathered Found.descendants
  split
  · rw [List.pairwise_map]
    refine List.Pairwise.filter _ (List.pairwise_map.mpr ?_)
    have keys : ((tree.below base.place).filter fun entry =>
        tree.shows base.place entry.1).Pairwise fun one other => one.1 ≠ other.1 := by
      refine List.Pairwise.filter _ (List.Pairwise.filter _
        (tree.nodes.ascending.imp fun before same => ?_))
      rw [same] at before
      exact Std.Irrefl.irrefl (r := fun one other : Place => one < other) _ before
    refine List.Pairwise.imp_of_mem ?_ keys
    rintro ⟨one, oneNode⟩ ⟨other, otherNode⟩ oneShown otherShown apart same
    have oneBelow := (List.mem_filter.mp oneShown).1
    have otherBelow := (List.mem_filter.mp otherShown).1
    rw [FileTree.walk_of_below grown accessible stands.leads oneBelow,
      FileTree.walk_of_below grown accessible stands.leads otherBelow] at same
    exact apart (Except.ok.inj same)
  · exact .nil

/-- What is below a directory and has an ending is found. -/
theorem finds_gathered (grown : tree.Grown) (accessible : tree.Accessible base.place)
    (stands : base.Stands tree current) (directory : base.isDirectory = true) :
    Finds tree current
      (fun target => (tree.node? target).isSome = true ∧ Named base.place ending target)
      ((gathered tree base ending).mergeSort Path.isAtMost) where
  leads path member := by
    obtain ⟨target, present, named, rfl⟩ :=
      named_of_mem_gathered (List.mem_mergeSort.mp member)
    exact ⟨target, ⟨present, named⟩, walk_gathered grown accessible stands present named⟩
  complete target wanted := by
    obtain ⟨present, named⟩ := wanted
    exact ⟨_, List.mem_mergeSort.mpr (mem_gathered accessible directory present named),
      walk_gathered grown accessible stands present named⟩
  once := ((List.mergeSort_perm _ _).pairwise_iff Ne.symm).mpr
    (gathered_apart grown accessible stands)
  ascending := Path.pairwise_mergeSort_isAtMost id _

end Below

section Arrival

variable {directory : Path} {ending : Text}

/-- The files with an ending are gathered where the search arrives. -/
theorem filesWithEnding_eq (some : directory ≠ []) (plain : Plain directory) (simple : Plain ending)
    (whole : '/' ∉ ending) :
    filesWithEnding tree current directory ending =
      ((arrival tree current directory).elim [] fun found =>
        gathered tree found (ending.dropWhile (· = '.'))).mergeSort Path.isAtMost := by
  have dropped := (List.dropWhile_suffix (l := ending) (· = '.')).subset
  have searched := @search_endingPattern tree current directory _ some plain
    (fun char member => simple char (dropped member)) fun member => whole (dropped member)
  show (search tree current (endingPattern directory _)).mergeSort Path.isAtMost = _
  rw [searched, arrival]
  congr 1
  cases Found.of? tree current (origin directory) with
  | none => rfl
  | some base =>
    rw [Option.toList_some, List.flatMap_singleton, Search.run_names]
    cases descends : descend tree current (way directory).pieces base with
    | none => simp [descends]
    | some found => simp [descends, Search.run_directories, gathered]

end Arrival

/-- A path that can be searched for an ending: it leads to a directory of a tree that has grown, and
no character of it or of the ending has a meaning of its own in a pattern. -/
structure Searchable (tree : FileTree) (current : Place) (directory : Path) (ending : Text)
    (place : Place) : Prop where
  grown : tree.Grown
  resolved : tree.resolve current directory = .ok place
  isDirectory : tree.node? place = some .directory
  plain : Plain directory
  simple : Plain ending
  whole : '/' ∉ ending

section Searchable

variable {directory : Path} {ending : Text}
  (searchable : Searchable tree current directory ending place)

include searchable

/-- A search that arrives finds everything below an accessible directory that has the ending. -/
theorem Searchable.finds (accessible : tree.Accessible place) {found : Found}
    (arrives : arrival tree current directory = some found) :
    Finds tree current (fun target => (tree.node? target).isSome = true ∧
        Named place (ending.dropWhile (· = '.')) target)
      (filesWithEnding tree current directory ending) := by
  obtain ⟨led, -, some, -⟩ := FileTree.resolve_eq_ok_iff.mp searchable.resolved
  obtain ⟨stands, rfl⟩ := stands_of_arrival some led arrives
  rw [filesWithEnding_eq some searchable.plain searchable.simple searchable.whole, arrives]
  exact finds_gathered searchable.grown accessible stands
    (stands.isDirectory_iff.mpr searchable.isDirectory)

/-- A search that does not arrive at its directory finds nothing. -/
theorem Searchable.filesWithEnding_eq_nil (lost : arrival tree current directory = none) :
    filesWithEnding tree current directory ending = [] := by
  obtain ⟨-, -, some, -⟩ := FileTree.resolve_eq_ok_iff.mp searchable.resolved
  rw [filesWithEnding_eq some searchable.plain searchable.simple searchable.whole, lost]
  exact List.mergeSort_nil

/-- Whatever is found is below the directory, as far as it can be reached. -/
theorem Searchable.below {path : Path} {target : Place}
    (member : path ∈ filesWithEnding tree current directory ending)
    (leads : tree.walk current path = .ok target) : place <+: target := by
  obtain ⟨led, -, some, -⟩ := FileTree.resolve_eq_ok_iff.mp searchable.resolved
  cases arrives : arrival tree current directory with
  | none =>
    rw [searchable.filesWithEnding_eq_nil arrives] at member
    contradiction
  | some found =>
    obtain ⟨stands, rfl⟩ := stands_of_arrival some led arrives
    rw [filesWithEnding_eq some searchable.plain searchable.simple searchable.whole,
      arrives] at member
    obtain ⟨other, present, named, rfl⟩ := named_of_mem_gathered (List.mem_mergeSort.mp member)
    obtain ⟨node, stored⟩ := Option.isSome_iff_exists.mp present
    have below := FileTree.mem_below_iff.mpr ⟨stored, named.below, named.apart⟩
    rw [FileTree.eq_of_walk_of_below searchable.grown stands.leads below leads]
    exact named.below

end Searchable

end Glob

namespace Environment

variable {environment : Environment} {directory : Path} {ending : Text} {place : Place}

/-- A run over a directory alone reads only files below it. -/
theorem prefix_of_mem_sources {options : ReplaceOptions} {source : Place × Text}
    (searchable : Glob.Searchable environment.files environment.current directory
      options.ending place)
    (given : options.directory = some directory) (only : options.files = [])
    (member : source ∈ environment.sources options) : place <+: source.1 := by
  obtain ⟨path, isKept, found⟩ := List.mem_filterMap.mp member
  have isNamed := Path.mem_of_mem_distinct isKept
  rw [ReplaceOptions.named, given, only] at isNamed
  have resolved := (FileTree.source?_eq_some_iff.mp found).1
  exact searchable.below isNamed (FileTree.resolve_eq_ok_iff.mp resolved).1

/-- A run over a directory alone changes nothing outside of it. -/
theorem files_replace_of_directory {options : ReplaceOptions}
    (searchable : Glob.Searchable environment.files environment.current directory
      options.ending place)
    (given : options.directory = some directory) (only : options.files = []) {other : Place}
    (outside : ¬ place <+: other) :
    (environment.replace options).files.node? other = environment.files.node? other := by
  by_cases refused : options.Refused environment
  · rw [(replace_of_refused refused).2.files]
  · cases loaded : (environment.load options.configuration).result with
    | error error => rw [(replace_of_unloaded refused loaded).2.files]
    | ok configuration =>
      have inputs : options.kept environment ≠ [] := fun nothing => refused <|
        .nothingFound (by simp [given]) (ReplaceOptions.kept_eq_nil_iff.mp nothing)
      rw [replace_of_loaded refused loaded, (runsOver_replaceInputs inputs _).files]
      split
      · refine FileTree.node?_rewrite_of_forall_ne (holds_sources environment options).below ?_
        rintro source member rfl
        exact outside (prefix_of_mem_sources searchable given only member)
      · rfl

/-- In an accessible directory a search finds exactly what is below it, at any depth, under a name
that ends with a dot and the ending, each of them once and in the order of paths. As long as no
directory has such a name these are the files with the ending. A run over a directory alone changes
nothing outside of it, whatever the system refuses. All this needs a path without characters that
have a meaning in patterns, see `bracketed`; and a path that goes on with an empty piece from the
directory where the search begins leads to nothing. -/
theorem replace_directory
    (searchable : Glob.Searchable environment.files environment.current directory ending place) :
    let files := environment.files
    let found := Glob.filesWithEnding files environment.current directory ending
    let Named := Glob.Named place (ending.dropWhile (· = '.'))
    (Glob.Straight directory → files.Accessible place →
      Glob.Finds files environment.current
          (fun target => (files.node? target).isSome = true ∧ Named target) found ∧
        ((∀ target, Named target → files.node? target ≠ some .directory) →
          Glob.Finds files environment.current
            (fun target => Named target ∧ ∃ content, files.node? target = some (.file content))
            found)) ∧
      (¬ Glob.Straight directory → found = []) ∧
      ∀ options : ReplaceOptions, options.directory = some directory → options.files = [] →
        options.ending = ending → ∀ other, ¬ place <+: other →
          (environment.replace options).files.node? other = files.node? other := by
  intro files found Named
  refine ⟨fun straight accessible => ?_, fun crooked => ?_, ?_⟩
  · obtain ⟨arrived, arrives⟩ := Glob.exists_arrival searchable.resolved straight
    have finds := searchable.finds accessible arrives
    refine ⟨finds, fun noDirectory => finds.congr fun target => ?_⟩
    constructor
    · rintro ⟨present, named⟩
      obtain ⟨node, found⟩ := Option.isSome_iff_exists.mp present
      cases node with
      | directory => exact absurd found (noDirectory target named)
      | file content => exact ⟨named, content, found⟩
    · rintro ⟨named, content, found⟩
      exact ⟨by rw [found]; rfl, named⟩
  · exact searchable.filesWithEnding_eq_nil (Glob.arrival_of_not_straight crooked)
  · rintro options given only rfl other outside
    exact files_replace_of_directory searchable given only outside

/-- The place of a page in a directory with brackets in its name. -/
def bracketedPlace : Place := ["site".toList, "a[b]".toList, "page.html".toList]

/-- The place of a page in another directory. -/
def plainPlace : Place := ["site".toList, "ab".toList, "page.html".toList]

/-- A site with both pages. -/
def bracketed : Environment where
  files := (sample.files.plant bracketedPlace (.file (.text samplePage))).plant plainPlace
    (.file (.text samplePage))
  current := ["site".toList]
  configurationHome := .unset
  home := .unset
  input := .text []
  logSetting := none

/-- The options that replace the tokens of the files below a directory in place. -/
def sweeping (directory : Path) : ReplaceOptions :=
  { rewriting [] with directory := some directory }

/-- The page in the directory without brackets is found, and the other one stays as it is. -/
theorem replace_directory_bracketed :
    Glob.Finds bracketed.files bracketed.current
        (fun target => Glob.Named plainPlace.dropLast "html".toList target ∧
          ∃ content, bracketed.files.node? target = some (.file content))
        (Glob.filesWithEnding bracketed.files bracketed.current "ab".toList "html".toList) ∧
      (bracketed.replace (sweeping "ab".toList)).files.node? bracketedPlace =
        bracketed.files.node? bracketedPlace := by
  have searchable : Glob.Searchable bracketed.files bracketed.current "ab".toList "html".toList
      plainPlace.dropLast := by
    constructor <;> decide +kernel
  have noDirectory : ∀ entry ∈ bracketed.files.nodes.entries, entry.2 = .directory →
      ¬ ".html".toList <:+ entry.1.getLast?.getD [] := by
    decide +kernel
  obtain ⟨finds, -, confined⟩ := replace_directory searchable
  have accessible : bracketed.files.Accessible plainPlace.dropLast :=
    FileTree.accessible_of_none rfl _
  refine ⟨(finds (by decide +kernel) accessible).2 fun target named directory => ?_,
    confined (sweeping "ab".toList) rfl rfl rfl bracketedPlace (by decide +kernel)⟩
  have below : target ≠ [] := by
    rintro rfl
    exact absurd named.below (by decide +kernel)
  exact noDirectory (target, .directory) ((FileTree.mem_entries_iff below).mpr directory) rfl
    named.ending

/-- In the directory with brackets in its name the page in the other directory is found, and a run
over the first one rewrites it. -/
theorem not_finds_bracketed :
    bracketed.files.Grown ∧ bracketed.files.Accessible bracketedPlace.dropLast ∧
      bracketed.files.resolve bracketed.current "a[b]".toList = .ok bracketedPlace.dropLast ∧
      bracketed.files.node? bracketedPlace.dropLast = some .directory ∧
      ¬ Glob.Finds bracketed.files bracketed.current
        (fun target => Glob.Named bracketedPlace.dropLast "html".toList target ∧
          ∃ content, bracketed.files.node? target = some (.file content))
        (Glob.filesWithEnding bracketed.files bracketed.current "a[b]".toList "html".toList) ∧
      ¬ bracketedPlace.dropLast <+: plainPlace ∧
      (bracketed.replace (sweeping "a[b]".toList)).files.node? plainPlace ≠
        bracketed.files.node? plainPlace := by
  have outside : ¬ bracketedPlace.dropLast <+: plainPlace := by decide +kernel
  refine ⟨by decide +kernel, FileTree.accessible_of_none rfl _, by decide +kernel,
    by decide +kernel, fun finds => ?_, outside,
    by decide +kernel⟩
  obtain ⟨target, ⟨named, -⟩, leads⟩ :=
    finds.leads "ab/page.html".toList (by decide +kernel)
  have elsewhere : bracketed.files.walk bracketed.current "ab/page.html".toList =
      .ok plainPlace := by
    decide +kernel
  obtain rfl := Except.ok.inj (elsewhere.symm.trans leads)
  exact outside named.below

end Environment
end PageTokens
