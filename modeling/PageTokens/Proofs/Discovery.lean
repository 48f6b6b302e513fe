import PageTokens.Proofs.Ancestry
import PageTokens.Proofs.Problems

/-!
# Finding and loading a configuration

`Searches` is the search for a configuration file as it goes on, one directory
after the other. It comes to an end at every path (`searches_nearest?`), and what
it finds stands in the nearest directory that has a configuration file
(`Searches.answers`). A step of the search goes to the parent, and everything
above a path is its parent or stands above its parent.

`load_discovered` puts together which file is used and what comes of it: once a
file is found, nothing else is tried in its stead.
-/

namespace PageTokens

namespace Configuration

variable {configuration : Configuration}

/-- A configuration has no error when each of its tables sets one callback. -/
theorem problemsOf_error_eq_nil_iff : configuration.problemsOf .error = [] ↔
    ∀ entry ∈ configuration.tokens.entries, entry.2.SetsOne := by
  rw [configuration.problemsOf_error, List.map_eq_nil_iff, configuration.offending_eq_nil_iff]

/-- A configuration with errors is refused with all of them. -/
theorem accept_eq_error_iff {error : LoadError} : configuration.accept = .error error ↔
    configuration.problemsOf .error ≠ [] ∧ .refused (configuration.problemsOf .error) = error := by
  by_cases sound : configuration.problemsOf .error = []
  · rw [accept_eq_ok_iff.mpr ⟨rfl, sound⟩]
    exact iff_of_false (by simp) fun refused => refused.1 sound
  · rw [accept_of_problemsOf_ne_nil sound, Except.error.injEq, and_iff_right sound]

end Configuration

namespace Setting

variable {setting : Setting}

/-- Only a setting that is a path gives a directory. -/
theorem path?_eq_some_iff {directory : Path} :
    setting.path? = some directory ↔ setting = .path directory := by
  cases setting <;> simp [path?]

/-- A setting that is not there and one that is no text give none. -/
theorem path?_eq_none_iff :
    setting.path? = none ↔ ∀ directory, setting ≠ .path directory := by
  cases setting <;> simp [path?]

end Setting

namespace Surroundings

variable (surroundings : Surroundings)

/-- Whether there is a configuration file in a directory. -/
def configures (directory : Path) : Bool :=
  surroundings.isPresent (directory.join Configuration.fileName)

/-- The search for a configuration file from a directory upwards, and what it finds. -/
inductive Searches : Path → Option Path → Prop
  | here {directory : Path} (present : surroundings.configures directory = true) :
      Searches directory (some (directory.join Configuration.fileName))
  | up {directory parent : Path} {found : Option Path}
      (absent : surroundings.configures directory = false)
      (under : directory.parent? = some parent) (behind : Searches parent found) :
      Searches directory found
  | spent {directory : Path} (absent : surroundings.configures directory = false)
      (top : directory.parent? = none) : Searches directory none

/-- The nearest directory with a configuration file, of a path and the directories above it: all
others with one stand above it. -/
structure Nearest (start directory : Path) : Prop where
  within : directory.AtOrAbove start
  present : surroundings.configures directory = true
  least : ∀ other : Path, other.AtOrAbove start → surroundings.configures other = true →
    other.AtOrAbove directory

/-- What is to be found from a path upwards. -/
def Answers (start : Path) : Option Path → Prop
  | some found => ∃ directory : Path, surroundings.Nearest start directory ∧
      found = directory.join Configuration.fileName
  | none => ∀ directory : Path, directory.AtOrAbove start →
      surroundings.configures directory = false

/-- The directory for the configurations of a user: the one that is set, and the one in the home
directory only if none is set to a path. -/
inductive UserBase : Path → Prop
  | configured {base : Path} (set : surroundings.configurationHome = .path base) : UserBase base
  | atHome {home : Path} (unset : ∀ base, surroundings.configurationHome ≠ .path base)
      (set : surroundings.home = .path home) : UserBase (home.join ".config".toList)

/-- What a path gives to a reader. -/
def read (path : Path) : Except FileError Text :=
  surroundings.files.readText surroundings.current path

/-- What comes of loading the file of a path: its configuration if the file can be read, has the
shape of a configuration, and each of its tables sets one callback; otherwise the error of the
first of these that fails. -/
structure Loads (path : Path) (loading : Loading) : Prop where
  unreadable : ∀ error, loading.result = .error (.unreadable error) ↔
    surroundings.read path = .error error
  malformed : loading.result = .error .malformed ↔
    ∃ document, surroundings.read path = .ok document ∧ Configuration.ofDocument? document = none
  refused : ∀ problems, loading.result = .error (.refused problems) ↔
    ∃ document configuration, surroundings.read path = .ok document ∧
      Configuration.ofDocument? document = some configuration ∧
      (∃ entry ∈ configuration.tokens.entries, ¬ entry.2.SetsOne) ∧
      configuration.problemsOf .error = problems
  accepted : ∀ configuration, loading.result = .ok configuration ↔
    ∃ document, surroundings.read path = .ok document ∧
      Configuration.ofDocument? document = some configuration ∧
      ∀ entry ∈ configuration.tokens.entries, entry.2.SetsOne

section Search

variable {surroundings} {start directory : Path} {found : Option Path}

/-- The first step of the search. -/
theorem nearest?_eq (start : Path) :
    surroundings.nearest? start =
      if surroundings.configures start then some (start.join Configuration.fileName)
      else start.parent?.bind surroundings.nearest? := by
  rw [nearest?, Configuration.pathsFrom, Path.ancestors_eq, List.map_cons, List.find?_cons,
    configures]
  cases surroundings.isPresent (start.join Configuration.fileName) with
  | true => rfl
  | false => cases start.parent? <;> rfl

/-- The search comes to an end: each parent has fewer components. -/
theorem searches_nearest? (start : Path) :
    surroundings.Searches start (surroundings.nearest? start) := by
  rw [nearest?_eq]
  cases present : surroundings.configures start with
  | true => exact .here present
  | false =>
    cases under : start.parent? with
    | none => exact .spent present under
    | some parent => exact .up present under (searches_nearest? parent)
termination_by start.components.length
decreasing_by exact (Path.above_of_parent? under).1.fewer

/-- The search finds one thing. -/
theorem Searches.eq_nearest? (searches : surroundings.Searches start found) :
    found = surroundings.nearest? start := by
  induction searches with
  | here present => rw [nearest?_eq, present, if_pos rfl]
  | up absent under behind inductionHypothesis =>
    rw [nearest?_eq, absent, if_neg Bool.false_ne_true, under]
    exact inductionHypothesis
  | spent absent top => rw [nearest?_eq, absent, if_neg Bool.false_ne_true, top]; rfl

/-- A search does not pass a directory with a configuration file, and passes all without one. -/
theorem Searches.answers (searches : surroundings.Searches start found) :
    surroundings.Answers start found := by
  induction searches with
  | @here directory present =>
    exact ⟨directory, ⟨.inl rfl, present, fun other within _ => within⟩, rfl⟩
  | @up directory parent found absent under behind inductionHypothesis =>
    have above := (Path.above_of_parent? under).1
    -- a directory with a file is not the path that has none, so it is not below the parent
    have beyond (other : Path) (within : other.AtOrAbove directory)
        (present : surroundings.configures other = true) : other.AtOrAbove parent := by
      rcases within with rfl | higher
      · rw [absent] at present
        contradiction
      · exact higher.atOrAbove_parent under
    cases found with
    | none =>
      intro other within
      by_contra present
      rw [Bool.not_eq_false] at present
      have absent := inductionHypothesis other (beyond other within present)
      rw [present] at absent
      contradiction
    | some file =>
      obtain ⟨nearest, answer, rfl⟩ := inductionHypothesis
      refine ⟨nearest, ⟨.inr (answer.within.above above), answer.present, ?_⟩, rfl⟩
      intro other within present
      exact answer.least other (beyond other within present) present
  | spent absent top =>
    intro other within
    rcases within with rfl | higher
    · exact absent
    · exact absurd higher (Path.not_above_of_parent?_eq_none top other)

/-- The search from a path upwards gives what is to be found. -/
theorem answers_nearest? (start : Path) :
    surroundings.Answers start (surroundings.nearest? start) :=
  (searches_nearest? start).answers

/-- There is only one nearest directory. -/
theorem Nearest.unique {other : Path} (first : surroundings.Nearest start directory)
    (second : surroundings.Nearest start other) : directory = other :=
  (second.least directory first.within first.present).antisymm
    (first.least other second.within second.present)

/-- A file is found exactly when it stands in the nearest directory with one. -/
theorem nearest?_eq_some_iff {file : Path} :
    surroundings.nearest? start = some file ↔
      ∃ directory, surroundings.Nearest start directory ∧
        file = directory.join Configuration.fileName := by
  have answers : surroundings.Answers start (surroundings.nearest? start) := answers_nearest? start
  constructor
  · intro finds
    rwa [finds] at answers
  · rintro ⟨directory, nearest, rfl⟩
    cases finds : surroundings.nearest? start with
    | none =>
      rw [finds] at answers
      have absent := answers directory nearest.within
      rw [nearest.present] at absent
      contradiction
    | some other =>
      rw [finds] at answers
      obtain ⟨found, answer, rfl⟩ := answers
      rw [nearest.unique answer]

/-- Nothing is found exactly when no directory from the path upwards has a file. -/
theorem nearest?_eq_none_iff :
    surroundings.nearest? start = none ↔
      ∀ directory : Path, directory.AtOrAbove start →
        surroundings.configures directory = false := by
  have answers : surroundings.Answers start (surroundings.nearest? start) := answers_nearest? start
  constructor
  · intro nothing
    rwa [nothing] at answers
  · intro absent
    refine Option.eq_none_iff_forall_ne_some.mpr fun file finds => ?_
    obtain ⟨directory, nearest, -⟩ := nearest?_eq_some_iff.mp finds
    have present := nearest.present
    rw [absent directory nearest.within] at present
    contradiction

end Search

section UserWide

variable {surroundings}

/-- The directory that is set wins over the home directory. -/
theorem userBase_iff {base : Path} :
    surroundings.configurationHome.path?.or
        (surroundings.home.path?.map fun home => home.join ".config".toList) = some base ↔
      surroundings.UserBase base := by
  simp only [Option.or_eq_some_iff, Option.map_eq_some_iff, Setting.path?_eq_some_iff,
    Setting.path?_eq_none_iff]
  constructor
  · rintro (set | ⟨unset, home, set, rfl⟩)
    · exact .configured set
    · exact .atHome unset set
  · intro base
    cases base with
    | configured set => exact .inl set
    | atHome unset set => exact .inr ⟨unset, _, set, rfl⟩

/-- The file of a user is the one below the directory for configurations, if it is there. -/
theorem userWide?_eq_some_iff {file : Path} :
    surroundings.userWide? = some file ↔
      surroundings.isPresent file = true ∧ ∃ base, surroundings.UserBase base ∧
        file = (base.join Configuration.directoryName).join Configuration.fileName := by
  rw [userWide?, Option.filter_eq_some_iff, and_comm, userWidePath?, Option.map_eq_some_iff]
  exact and_congr_right fun _ => exists_congr fun base => and_congr userBase_iff eq_comm

end UserWide

/-- A file is loaded by reading it, giving it its shape and accepting it, with an error of its own
for each of the three. -/
theorem loadFile_read (path : Path) :
    surroundings.loadFile path =
      match surroundings.read path with
      | .ok document =>
        ⟨(Configuration.parse document).result,
          .configurationLoading path :: (Configuration.parse document).events⟩
      | .error error => ⟨.error (.unreadable error), [.configurationLoading path]⟩ := by
  rw [loadFile, read]
  cases surroundings.files.readText surroundings.current path <;> rfl

variable {surroundings} in
/-- A file that can be read and has the shape of a configuration is refused for its tables alone. -/
theorem loads_of_shape {path : Path} {document : Text} {configuration : Configuration}
    {events : List Event} (contents : surroundings.read path = .ok document)
    (shape : Configuration.ofDocument? document = some configuration) :
    surroundings.Loads path ⟨configuration.accept, events⟩ := by
  constructor
  · simp [Configuration.accept_eq_error_iff, contents]
  · simp [Configuration.accept_eq_error_iff, contents, shape]
  · intro problems
    simp only [Configuration.accept_eq_error_iff, Configuration.problemsOf_error_eq_nil_iff,
      contents, shape, ne_eq, not_forall, exists_prop, LoadError.refused.injEq, Except.ok.injEq,
      exists_and_left, exists_eq_left', Option.some.injEq]
  · intro other
    simp only [Configuration.accept_eq_ok_iff, contents, shape, Except.ok.injEq, exists_eq_left',
      Option.some.injEq]
    refine and_congr_right ?_
    rintro rfl
    exact Configuration.problemsOf_error_eq_nil_iff

/-- What comes of loading a file follows from what can be read there. -/
theorem loads_loadFile (path : Path) : surroundings.Loads path (surroundings.loadFile path) := by
  rw [loadFile_read]
  cases contents : surroundings.read path with
  | error error => constructor <;> simp [contents, eq_comm]
  | ok document =>
    cases shape : Configuration.ofDocument? document with
    | none => constructor <;> simp [contents, Configuration.parse, shape]
    | some configuration =>
      simp only [Configuration.parse, shape]
      exact loads_of_shape contents shape

/-- Which configuration file is used, and what comes of it. The search upwards from a path comes to
an end and finds the file of the nearest directory that has one, and nothing exactly if none has.
What is found from the working directory is used, and only otherwise the file for all sites of the
user, which is looked for in the home directory only if no other directory is set to a path. A file
that is found is loaded as if it had been named, and loading a file depends on nothing but what can
be read there: what cannot be read, has another shape or does not set one callback for a token is an
error. The standard configuration is used exactly if nothing is found. Bytes that are no path do not
count as a directory that is set, and a configuration can be used although something is wrong with
it: see `rawHome` and `warned`. -/
theorem load_discovered :
    (∀ start, (∀ found, surroundings.Searches start found ↔ found = surroundings.nearest? start) ∧
      (∀ file, surroundings.nearest? start = some file ↔ ∃ directory,
        surroundings.Nearest start directory ∧
          file = directory.join Configuration.fileName) ∧
      (surroundings.nearest? start = none ↔ ∀ directory : Path, directory.AtOrAbove start →
        surroundings.configures directory = false)) ∧
      (∀ file, surroundings.discover? = some file ↔
        surroundings.currentPath?.bind surroundings.nearest? = some file ∨
          surroundings.currentPath?.bind surroundings.nearest? = none ∧
            surroundings.userWide? = some file) ∧
      (∀ file, surroundings.userWide? = some file ↔
        surroundings.isPresent file = true ∧ ∃ base, surroundings.UserBase base ∧
          file = (base.join Configuration.directoryName).join Configuration.fileName) ∧
      (∀ path, surroundings.Loads path (surroundings.load (some path)) ∧
        ∀ other : Surroundings, other.read path = surroundings.read path →
          other.load (some path) = surroundings.load (some path)) ∧
      (∀ file, surroundings.discover? = some file →
        surroundings.load none = surroundings.load (some file)) ∧
      (surroundings.load none = ⟨.ok .standard, [.configurationAbsent]⟩ ↔
        surroundings.discover? = none) := by
  have named (path : Path) : surroundings.load (some path) = surroundings.loadFile path := rfl
  have found (file : Path) (finds : surroundings.discover? = some file) :
      surroundings.load none = surroundings.loadFile file := by
    rw [load, Option.none_or, finds]
  refine ⟨fun start => ⟨fun found => ⟨Searches.eq_nearest?, ?_⟩, fun file => nearest?_eq_some_iff,
    nearest?_eq_none_iff⟩, fun file => Option.or_eq_some_iff, fun file => userWide?_eq_some_iff,
    fun path => ⟨surroundings.loads_loadFile path, fun other same => ?_⟩, found, ?_, ?_⟩
  · rintro rfl
    exact searches_nearest? start
  · show other.loadFile path = surroundings.loadFile path
    rw [loadFile_read, loadFile_read, same]
  · intro standard
    cases finds : surroundings.discover? with
    | none => rfl
    | some file =>
      -- the events tell that a file was loaded
      have events := congrArg Loading.events ((found file finds).symm.trans standard)
      rw [loadFile] at events
      have first := (List.cons.inj events).1
      contradiction
  · intro nothing
    rw [load, Option.none_or, nothing]

/-- A user with a configuration in the home directory, for whom another directory is set, to bytes
that are no text. -/
def rawHome : Surroundings where
  files := FileTree.empty.plant
    ["home".toList, ".config".toList, Configuration.directoryName, Configuration.fileName]
    (.file (.text []))
  current := []
  configurationHome := .bytes [0xff]
  home := .path "/home".toList

/-- A directory with a configuration whose start delimiter is empty. -/
def warned : Surroundings where
  files := FileTree.empty.plant [Configuration.fileName]
    (.file (.text "[delimiters]\nstart = \"\"\n".toList))
  current := []
  configurationHome := .unset
  home := .unset

/-- A directory can be set and the one in the home directory be used all the same, and a
configuration that is found can be loaded although something is wrong with it. -/
theorem discovers_rawHome_and_loads_warned :
    (rawHome.configurationHome ≠ .unset ∧
        rawHome.discover? = some "/home/.config/cacheable-tokens/ctr.toml".toList) ∧
      warned.discover? = some "/ctr.toml".toList ∧
        (warned.load none).result.toOption.map Configuration.isValid = some false := by
  decide +kernel

end Surroundings
end PageTokens
