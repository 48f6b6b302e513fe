import PageTokens.Proofs.Places
import PageTokens.Proofs.Repeats

/-!
# The inputs of a run

The options name files and a directory to search. A run is refused for its
arguments, or it goes over what is named, each path in its place and without
repetitions (`inputs_eq_ok_iff`). Paths are told apart by their paths without
detours; a path that leads nowhere has none and stands for itself. As long as no
such path is spelled like a file that can be read, what is read is exactly what
is named.
-/

namespace PageTokens

namespace ReplaceOptions

/-- The paths that the options name, those that are found in a directory behind the others. -/
def named (options : ReplaceOptions) (environment : Environment) : List Path :=
  match options.directory with
  | none => options.files
  | some directory => options.files ++
      Glob.filesWithEnding environment.files environment.current directory options.ending

/-- The reasons for which a run is refused for its arguments. -/
@[mk_iff]
inductive Refused (options : ReplaceOptions) (environment : Environment) : Prop
  | reported (underPolicy : options.hook = true) (asked : options.diagnostics ≠ none)
  | noDirectory (directory : Path) (given : options.directory = some directory)
      (absent : environment.files.isDirectory environment.current directory = false)
  | nothingFound (given : options.directory ≠ none) (none : options.named environment = [])
  | nothingNamed (inPlace : options.inPlace = true) (none : options.named environment = [])

variable {options : ReplaceOptions} {environment : Environment}

/-- The inputs in the order of what they name, each once. -/
def kept (options : ReplaceOptions) (environment : Environment) : List Path :=
  Path.distinct (environment.files.canonical environment.current) (options.named environment)

/-- What is behind a check is reached when the check does not refuse. -/
theorem check_eq_ok_iff {α : Type} {refuses : Bool} {reason : Text}
    {next : PUnit → Except Text α} {result : α} :
    (if refuses = true then (throw reason : Except Text PUnit) >>= next else next ()) = .ok result ↔
      refuses = false ∧ next () = .ok result := by
  cases refuses with
  | false => simp
  | true => simp [throw, throwThe, MonadExceptOf.throw, bind, Except.bind]

/-- A run that is not refused has what is named as its inputs. -/
theorem inputs_eq_ok_iff {paths : List Path} :
    options.inputs environment = .ok paths ↔
      ¬ options.Refused environment ∧ options.kept environment = paths := by
  simp only [refused_iff, kept, inputs, check_eq_ok_iff]
  cases given : options.directory with
  | none =>
    have isNamed : options.named environment = options.files := by rw [named, given]
    simp only [pure_bind, check_eq_ok_iff, isNamed]
    simp [pure, Except.pure, and_assoc]
  | some directory =>
    have isNamed : options.named environment = options.files ++ Glob.filesWithEnding
        environment.files environment.current directory options.ending := by rw [named, given]
    simp only [← isNamed, pure_bind, check_eq_ok_iff]
    simp [pure, Except.pure, and_assoc]

/-- A refused run is told why. -/
theorem inputs_of_refused (refused : options.Refused environment) :
    ∃ reason, options.inputs environment = .error reason := by
  cases answer : options.inputs environment with
  | error reason => exact ⟨reason, rfl⟩
  | ok paths => exact absurd refused (inputs_eq_ok_iff.mp answer).1

/-- Files that are named without the policy and without a directory are not refused. -/
theorem not_refused_of_files (manual : options.hook = false) (given : options.directory = none)
    (some : options.files ≠ []) : ¬ options.Refused environment := by
  have isNamed : options.named environment = options.files := by rw [named, given]
  rw [refused_iff, isNamed, manual, given]
  simp [some]

end ReplaceOptions

namespace Environment

/-- The place and the text of the file that a path names, if it can be read. -/
def source? (environment : Environment) (path : Path) : Option (Place × Text) :=
  environment.files.source? environment.current path

/-- The files that a run reads, in the order in which it reads them. -/
def sources (environment : Environment) (options : ReplaceOptions) : List (Place × Text) :=
  (options.kept environment).filterMap environment.source?

end Environment

namespace ReplaceOptions

/-- No path that leads nowhere is spelled like a file that is named and can be read. -/
def Unconfused (options : ReplaceOptions) (environment : Environment) : Prop :=
  ∀ lost ∈ options.named environment,
    (environment.files.resolve environment.current lost).toOption = none →
      ∀ path ∈ options.named environment, ∀ source ∈ environment.source? path,
        lost.components ≠ source.1.toPath.components

instance (options : ReplaceOptions) (environment : Environment) :
    Decidable (options.Unconfused environment) :=
  inferInstanceAs (Decidable (∀ lost ∈ options.named environment,
    (environment.files.resolve environment.current lost).toOption = none →
      ∀ path ∈ options.named environment, ∀ source ∈ environment.source? path,
        lost.components ≠ source.1.toPath.components))

variable {options : ReplaceOptions} {environment : Environment}

/-- The files that a run reads are in the order of their paths, and each is read once. -/
theorem sources_ascending (options : ReplaceOptions) (environment : Environment) :
    (environment.sources options).Pairwise
      fun one other => one.1.toPath.orderKey < other.1.toPath.orderKey := by
  refine List.pairwise_filterMap.mpr
    ((Path.distinct_ascending _ _).imp fun before one first other second => ?_)
  rw [FileTree.canonical_of_resolve (FileTree.source?_eq_some_iff.mp first).1,
    FileTree.canonical_of_resolve (FileTree.source?_eq_some_iff.mp second).1] at before
  exact before

/-- No two sources stand at one place. -/
theorem sources_apart (options : ReplaceOptions) (environment : Environment) :
    (environment.sources options).Pairwise fun one other => one.1 ≠ other.1 := by
  refine (sources_ascending options environment).imp fun {one other} before same => ?_
  rw [same] at before
  exact lt_irrefl _ before

/-- Nothing is read from a path that leads nowhere. -/
theorem source?_of_lost {path : Path} {error : FileError}
    (lost : environment.files.resolve environment.current path = .error error) :
    environment.source? path = none := by
  rw [Environment.source?, FileTree.source?, lost]

/-- What is spelled like a path that leads nowhere cannot be read. -/
theorem source?_of_spelled_lost (unconfused : options.Unconfused environment)
    {path other : Path} {place : Place} {error : FileError}
    (pathNamed : path ∈ options.named environment) (otherNamed : other ∈ options.named environment)
    (lost : environment.files.resolve environment.current path = .error error)
    (resolved : environment.files.resolve environment.current other = .ok place)
    (same : path.components = place.toPath.components) : environment.source? other = none := by
  refine Option.eq_none_iff_forall_ne_some.mpr fun source found => ?_
  have leads := (FileTree.source?_eq_some_iff.mp found).1
  obtain rfl : place = source.1 := Except.ok.inj (resolved.symm.trans leads)
  exact unconfused path pathNamed (by rw [lost]; rfl) other otherNamed source found same

/-- Paths that lead to one place give the same. -/
theorem source?_eq_of_resolved (proper : environment.current.Proper) {left right : Path}
    {leftPlace rightPlace : Place}
    (leftResolved : environment.files.resolve environment.current left = .ok leftPlace)
    (rightResolved : environment.files.resolve environment.current right = .ok rightPlace)
    (same : leftPlace.toPath.components = rightPlace.toPath.components) :
    environment.source? left = environment.source? right := by
  have equal := Place.eq_of_components_toPath_eq (FileTree.proper_of_resolve proper leftResolved)
    (FileTree.proper_of_resolve proper rightResolved) same
  rw [Environment.source?, Environment.source?, FileTree.source?, FileTree.source?,
    leftResolved, rightResolved, equal]

/-- Inputs that are not told apart give the same. -/
theorem source?_eq_of_canonical (proper : environment.current.Proper)
    (unconfused : options.Unconfused environment) {left right : Path}
    (leftNamed : left ∈ options.named environment) (rightNamed : right ∈ options.named environment)
    (same : (environment.files.canonical environment.current left).components =
      (environment.files.canonical environment.current right).components) :
    environment.source? left = environment.source? right := by
  unfold FileTree.canonical at same
  cases leftResolved : environment.files.resolve environment.current left with
  | ok leftPlace =>
    cases rightResolved : environment.files.resolve environment.current right with
    | ok rightPlace =>
      rw [leftResolved, rightResolved] at same
      exact source?_eq_of_resolved proper leftResolved rightResolved same
    | error rightError =>
      rw [leftResolved, rightResolved] at same
      rw [source?_of_lost rightResolved, source?_of_spelled_lost unconfused rightNamed leftNamed
        rightResolved leftResolved same.symm]
  | error leftError =>
    rw [source?_of_lost leftResolved, eq_comm]
    cases rightResolved : environment.files.resolve environment.current right with
    | ok rightPlace =>
      rw [leftResolved, rightResolved] at same
      exact source?_of_spelled_lost unconfused leftNamed rightNamed leftResolved rightResolved same
    | error rightError => exact source?_of_lost rightResolved

/-- What the inputs of a run give is what the paths that are named give. -/
theorem exists_kept_iff (proper : environment.current.Proper)
    (unconfused : options.Unconfused environment) {answer : Option (Place × Text)} :
    (∃ path ∈ options.kept environment, environment.source? path = answer) ↔
      ∃ path ∈ options.named environment, environment.source? path = answer := by
  constructor
  · rintro ⟨path, isKept, found⟩
    exact ⟨path, Path.mem_of_mem_distinct isKept, found⟩
  · rintro ⟨path, isNamed, rfl⟩
    obtain ⟨other, isKept, same⟩ :=
      Path.exists_mem_distinct isNamed
    exact ⟨other, isKept, source?_eq_of_canonical proper unconfused
      (Path.mem_of_mem_distinct isKept) isNamed same⟩

/-- What is named and can be read is a source, and nothing else. -/
theorem mem_sources_iff (proper : environment.current.Proper)
    (unconfused : options.Unconfused environment) {source : Place × Text} :
    source ∈ environment.sources options ↔
      ∃ path ∈ options.named environment, environment.source? path = some source := by
  rw [← exists_kept_iff proper unconfused, Environment.sources, List.mem_filterMap]

/-- Some path is kept as soon as one is named. -/
theorem kept_eq_nil_iff : options.kept environment = [] ↔ options.named environment = [] :=
  Path.distinct_eq_nil_iff

end ReplaceOptions
end PageTokens
