import Mathlib.Algebra.BigOperators.Group.List.Basic
import Mathlib.Algebra.GroupWithZero.Nat
import Mathlib.Data.Set.List
import Mathlib.Logic.Relation
import PageTokens.CommandLine.Replace
import PageTokens.Proofs.Writing

/-!
# Files at the same time

Several files can be processed at once: each is read and later written, and
between the two any number of others can be read and written (`Round.Step`).
While no two of the paths lead to one file, the order of all this makes no
difference. Each file is read as it was at the beginning, so what has come of an
input is what comes of it alone (`Round.Follows.step`), and a round that goes on
for as long as it can ends like one that takes the files one after the other
(`eq_processFiles_of_halted`).
-/

namespace PageTokens

open Relation

namespace Replacer

variable (replacer : PlainReplacer) (options : ReplaceOptions) (current : Place)
  (site : Site Empty Unit) (files : FileTree)

/-- What the file of a source holds when the text of its pass has been written into it. -/
def renewed (source : Place × Text) : Content :=
  files.leaves source.1 source.2 (replacer.passOver options site source.2).text

/-- The files when those of some sources have been written, if they are to be changed. -/
def settle (sources : List (Place × Text)) : FileTree :=
  if options.inPlace then files.rewrite (replacer.renewed options site files) sources else files

/-- What keeps the new text of a source from being written, if it is to be written. -/
def obstacle? (source : Place × Text) : Option WriteFailure :=
  if options.inPlace then
    files.refusals.writing source.1 (replacer.passOver options site source.2).text
  else none

/-- What comes of a source: its pass, unless something keeps its text from being written. -/
def verdict (source : Place × Text) : Except InputError PlainPass :=
  let pass := replacer.passOver options site source.2
  match replacer.obstacle? options site files source with
  | none => .ok pass
  | some failure => .error (.unwritten failure.error pass)

variable {replacer options current site files} {path : Path} {source : Place × Text}
  {sources : List (Place × Text)}

theorem settle_nil : replacer.settle options site files [] = files := by
  unfold settle
  split <;> rfl

/-- Sources at different places can be written in any order. -/
theorem settle_perm {others : List (Place × Text)}
    (apart : sources.Pairwise fun one other => one.1 ≠ other.1) (perm : sources.Perm others) :
    replacer.settle options site files sources = replacer.settle options site files others := by
  rw [settle, settle, FileTree.rewrite_perm apart perm]

/-- A file that has not been written is read as it was at the beginning. -/
theorem readText_settle (holds : files.Holds sources)
    (elsewhere : ∀ other ∈ sources, files.source? current path ≠ some other) :
    (replacer.settle options site files sources).readText current path =
      files.readText current path := by
  unfold settle
  split
  · exact holds.readText_rewrite elsewhere
  · rfl

/-- A file that has not been written is written as if it were the first one. -/
theorem keep_settle (holds : files.Holds sources) (found : files.source? current path = some source)
    (elsewhere : ∀ other ∈ sources, other.1 ≠ source.1) :
    options.keep current (replacer.settle options site files sources) path
        (replacer.passOver options site source.2) =
      (⟨path, replacer.verdict options site files source⟩,
        replacer.settle options site files (sources ++ [source])) := by
  unfold ReplaceOptions.keep settle verdict obstacle?
  cases options.inPlace with
  | false => rfl
  | true =>
    simp only [if_true, holds.writeText_rewrite found elsewhere, FileTree.rewrite_concat]
    cases files.refusals.writing source.1 (replacer.passOver options site source.2).text <;> rfl

/-- An input with a source gets the verdict on it, and its result is written. -/
theorem processFile_of_source? (found : files.source? current path = some source) :
    replacer.processFile options current site files path =
      (⟨path, replacer.verdict options site files source⟩,
        replacer.settle options site files [source]) := by
  have read : files.readText current path = .ok source.2 :=
    FileTree.readText_eq_ok_iff.mpr ⟨source.1, found⟩
  have kept := @keep_settle replacer options current site files path source []
    (fun _ absent => absurd absent List.not_mem_nil) found
    fun _ absent => absurd absent List.not_mem_nil
  rw [settle_nil] at kept
  rw [processFile, read]
  exact kept

theorem processFile_of_unread {error : FileError}
    (unread : files.readText current path = .error error) :
    replacer.processFile options current site files path =
      (⟨path, .error (.unread error)⟩, files) := by
  rw [processFile, unread]

end Replacer

/-- How far an input has come. -/
inductive Stage
  | waiting (path : Path)
  | passed (path : Path) (pass : PlainPass)
  | finished (processed : Processed)

namespace Stage

/-- The path of an input. -/
def path : Stage → Path
  | waiting path | passed path _ => path
  | finished processed => processed.source

/-- The number of steps that are left. -/
def work : Stage → Nat
  | waiting _ => 2
  | passed _ _ => 1
  | finished _ => 0

/-- The source of an input that is finished, if it has one. -/
def stored? (current : Place) (files : FileTree) : Stage → Option (Place × Text)
  | waiting _ | passed _ _ => none
  | finished processed => files.source? current processed.source

end Stage

/-- Several inputs that are processed at once: how far each has come, and the files. -/
structure Round where
  stages : List Stage
  files : FileTree

/-- Several inputs of which nothing has come so far. -/
def Round.start (files : FileTree) (paths : List Path) : Round :=
  ⟨paths.map .waiting, files⟩

/-- The number of steps that are left. -/
def Round.work (round : Round) : Nat :=
  (round.stages.map Stage.work).sum

/-- The end of a round, from which a batch is told. -/
def Batch.round (batch : Batch) : Round :=
  ⟨batch.processed.map .finished, batch.files⟩

/-- One step of one input, whatever its place among the others: its file is read and a pass made
over the text, or what has come of the pass is kept. -/
inductive Round.Step (replacer : PlainReplacer) (options : ReplaceOptions) (current : Place)
    (site : Site Empty Unit) : Round → Round → Prop
  | lost {before after : List Stage} {files : FileTree} {path : Path} {error : FileError}
      (unread : files.readText current path = .error error) :
      Round.Step replacer options current site ⟨before ++ .waiting path :: after, files⟩
        ⟨before ++ .finished ⟨path, .error (.unread error)⟩ :: after, files⟩
  | passed {before after : List Stage} {files : FileTree} {path : Path} {text : Text}
      (read : files.readText current path = .ok text) :
      Round.Step replacer options current site ⟨before ++ .waiting path :: after, files⟩
        ⟨before ++ .passed path (replacer.passOver options site text) :: after, files⟩
  | kept {before after : List Stage} {files behind : FileTree} {path : Path} {pass : PlainPass}
      {processed : Processed}
      (keeps : options.keep current files path pass = (processed, behind)) :
      Round.Step replacer options current site ⟨before ++ .passed path pass :: after, files⟩
        ⟨before ++ .finished processed :: after, behind⟩

section Schedules

variable {replacer : PlainReplacer} {options : ReplaceOptions} {current : Place}
  {site : Site Empty Unit} {files behind : FileTree} {paths : List Path}
  {round next : Round} {batch : Batch}

/-- What has come of an input is what comes of it when it is processed first. -/
def Stage.Follows (replacer : PlainReplacer) (options : ReplaceOptions) (current : Place)
    (site : Site Empty Unit) (files : FileTree) : Stage → Prop
  | waiting _ => True
  | passed path pass => ∃ source, files.source? current path = some source ∧
      pass = replacer.passOver options site source.2
  | finished processed =>
      processed = (replacer.processFile options current site files processed.source).1

/-- Some inputs have come as far as they have from the files as they were at the beginning: what
has come of each is what comes of it alone, and those that are finished have been written. -/
structure Round.Follows (replacer : PlainReplacer) (options : ReplaceOptions) (current : Place)
    (site : Site Empty Unit) (files : FileTree) (paths : List Path) (round : Round) :
    Prop where
  paths : round.stages.map Stage.path = paths
  stages : ∀ stage ∈ round.stages, stage.Follows replacer options current site files
  files : round.files = replacer.settle options site files
    (round.stages.filterMap (Stage.stored? current files))

/-- In the beginning all inputs wait, and nothing has been written. -/
theorem Round.follows_start :
    Round.Follows replacer options current site files paths (Round.start files paths) where
  paths := by simp [Round.start, Function.comp_def, Stage.path]
  stages := by simp [Round.start, Stage.Follows]
  files := by
    have nothing : (paths.map Stage.waiting).filterMap (Stage.stored? current files) = [] := by
      simp [List.filterMap_map, Function.comp_def, Stage.stored?]
    rw [Round.start, nothing, Replacer.settle_nil]

/-- What has been written are sources of the inputs. -/
theorem stored_sublist (stages : List Stage) :
    (stages.filterMap (Stage.stored? current files)).Sublist
      (stages.filterMap fun stage => files.source? current stage.path) := by
  induction stages with
  | nil => exact .slnil
  | cons stage rest inductionHypothesis =>
    have early : Stage.stored? current files stage = none ∨
        Stage.stored? current files stage = files.source? current stage.path := by
      cases stage
      · exact .inl rfl
      · exact .inl rfl
      · exact .inr rfl
    rw [List.filterMap_cons, List.filterMap_cons]
    rcases early with nothing | same
    · rw [nothing]
      cases files.source? current stage.path with
      | none => exact inductionHypothesis
      | some source => exact inductionHypothesis.cons source
    · rw [same]
      cases files.source? current stage.path with
      | none => exact inductionHypothesis
      | some source => exact inductionHypothesis.cons_cons source

/-- As no two inputs stand at one place, nothing is written twice. -/
theorem stored_pairwise {stages : List Stage} (same : stages.map Stage.path = paths)
    (apart : (paths.filterMap (files.source? current)).Pairwise fun one other => one.1 ≠ other.1) :
    (stages.filterMap (Stage.stored? current files)).Pairwise fun one other => one.1 ≠ other.1 := by
  rw [← same, List.filterMap_map] at apart
  exact apart.sublist (stored_sublist stages)

/-- What has been written was read from the files as they were. -/
theorem holds_stored (stages : List Stage) :
    files.Holds (stages.filterMap (Stage.stored? current files)) := by
  intro source member
  obtain ⟨stage, -, found⟩ := List.mem_filterMap.mp ((stored_sublist stages).subset member)
  exact (FileTree.source?_eq_some_iff.mp found).2

section Stages

variable {before after : List Stage} {stage further : Stage}

/-- An input that is not finished has written nothing. -/
theorem stored_of_unfinished (unfinished : stage.stored? current files = none) :
    (before ++ stage :: after).filterMap (Stage.stored? current files) =
      (before ++ after).filterMap (Stage.stored? current files) := by
  rw [List.filterMap_append, List.filterMap_append, List.filterMap_cons_none unfinished]

variable (follows : Round.Follows replacer options current site files paths
  ⟨before ++ stage :: after, behind⟩)

include follows

/-- Sources of inputs that are finished are not at the place of another input. -/
theorem Round.Follows.apart {source : Place × Text}
    (apart : (paths.filterMap (files.source? current)).Pairwise fun one other => one.1 ≠ other.1)
    (found : files.source? current stage.path = some source) :
    ∀ written ∈ (before ++ after).filterMap (Stage.stored? current files),
      written.1 ≠ source.1 := by
  rw [← follows.paths, List.filterMap_map, List.filterMap_append,
    List.filterMap_cons_some (f := files.source? current ∘ Stage.path) found,
    List.pairwise_append, List.pairwise_cons] at apart
  obtain ⟨-, ⟨back, -⟩, front⟩ := apart
  intro written member
  have isSource := (stored_sublist _).subset member
  rw [List.filterMap_append] at isSource
  rcases List.mem_append.mp isSource with inBefore | inAfter
  · exact front written inBefore source List.mem_cons_self
  · exact (back written inAfter).symm

/-- As long as an input is not finished, only the others have been written. -/
theorem Round.Follows.settled (unfinished : stage.stored? current files = none) :
    behind = replacer.settle options site files
      ((before ++ after).filterMap (Stage.stored? current files)) := by
  rw [← stored_of_unfinished unfinished]
  exact follows.files

/-- The file of an input that is not finished is read as it was at the beginning. -/
theorem Round.Follows.readText
    (apart : (paths.filterMap (files.source? current)).Pairwise fun one other => one.1 ≠ other.1)
    (unfinished : stage.stored? current files = none) :
    behind.readText current stage.path = files.readText current stage.path := by
  rw [follows.settled unfinished]
  exact Replacer.readText_settle (holds_stored _) fun other member found =>
    follows.apart apart found other member rfl

/-- One input comes further, and nothing changes for the others. -/
theorem Round.Follows.advance {last : FileTree} (path : further.path = stage.path)
    (advances : further.Follows replacer options current site files)
    (settles : last = replacer.settle options site files
      ((before ++ further :: after).filterMap (Stage.stored? current files))) :
    Round.Follows replacer options current site files paths ⟨before ++ further :: after, last⟩ where
  paths := by simpa [path] using follows.paths
  stages := by
    have others := List.forall_mem_append.mp follows.stages
    exact List.forall_mem_append.mpr ⟨others.1,
      List.forall_mem_cons.mpr ⟨advances, (List.forall_mem_cons.mp others.2).2⟩⟩
  files := settles

end Stages

/-- While no two paths lead to one file, a step keeps what has come of each input what comes of it
alone. -/
theorem Round.Follows.step
    (follows : Round.Follows replacer options current site files paths round)
    (apart : (paths.filterMap (files.source? current)).Pairwise fun one other => one.1 ≠ other.1)
    (step : Round.Step replacer options current site round next) :
    Round.Follows replacer options current site files paths next := by
  cases step with
  | @lost before after behind path error unread =>
    have read : behind.readText current path = files.readText current path :=
      follows.readText apart rfl
    rw [read] at unread
    have missing : (Stage.finished ⟨path, .error (.unread error)⟩).stored? current files = none :=
      FileTree.source?_eq_none_iff.mpr ⟨error, unread⟩
    refine follows.advance ?path ?advances ?settles
    case path => rfl
    case advances => rw [Stage.Follows, Replacer.processFile_of_unread unread]
    case settles => rw [follows.settled rfl, stored_of_unfinished missing]
  | @passed before after behind path text read =>
    have same : behind.readText current path = files.readText current path :=
      follows.readText apart rfl
    rw [same] at read
    obtain ⟨place, found⟩ := FileTree.readText_eq_ok_iff.mp read
    refine follows.advance ?path ?advances ?settles
    case path => rfl
    case advances => exact ⟨(place, text), found, rfl⟩
    case settles => rw [follows.settled rfl, stored_of_unfinished rfl]
  | @kept before after behind last path pass processed keeps =>
    obtain ⟨source, found, rfl⟩ := follows.stages _ (List.mem_append_right _ List.mem_cons_self)
    rw [follows.settled rfl,
      Replacer.keep_settle (holds_stored _) found (follows.apart apart found)] at keeps
    obtain ⟨rfl, rfl⟩ := Prod.mk.inj keeps
    refine follows.advance ?path ?advances ?settles
    case path => rfl
    case advances => rw [Stage.Follows, Replacer.processFile_of_source? found]
    case settles =>
      have finished : (Stage.finished ⟨path, replacer.verdict options site files source⟩).stored?
          current files = some source := found
      have paths : (before ++ Stage.finished ⟨path, replacer.verdict options site files source⟩ ::
          after).map Stage.path = paths := by
        simpa [Stage.path] using follows.paths
      have pairwise := stored_pairwise paths apart
      rw [List.filterMap_append, List.filterMap_cons_some finished] at pairwise
      rw [List.filterMap_append, List.filterMap_append, List.filterMap_cons_some finished]
      refine (Replacer.settle_perm pairwise ?_).symm
      exact List.perm_middle.trans (List.perm_append_singleton source _).symm

/-- Any number of steps keeps to what the inputs say. -/
theorem Round.Follows.steps
    (follows : Round.Follows replacer options current site files paths round)
    (apart : (paths.filterMap (files.source? current)).Pairwise fun one other => one.1 ≠ other.1)
    (steps : ReflTransGen (Round.Step replacer options current site) round next) :
    Round.Follows replacer options current site files paths next := by
  induction steps with
  | refl => exact follows
  | tail _ step inductionHypothesis => exact inductionHypothesis.step apart step

/-- When all inputs are finished, what has come of each is what comes of it alone. -/
theorem Round.Follows.eq_of_finished
    (follows : Round.Follows replacer options current site files paths batch.round) :
    batch = ⟨paths.map fun path => (replacer.processFile options current site files path).1,
      replacer.settle options site files (paths.filterMap (files.source? current))⟩ := by
  obtain ⟨processed, behind⟩ := batch
  have sources : processed.map Processed.source = paths := by
    simpa [Batch.round, Function.comp_def, Stage.path] using follows.paths
  have each : ∀ one ∈ processed,
      one = (replacer.processFile options current site files one.source).1 :=
    fun one member => follows.stages _ (List.mem_map.mpr ⟨one, member, rfl⟩)
  have settled : behind = replacer.settle options site files
      (processed.filterMap fun one => files.source? current one.source) := by
    simpa [Batch.round, List.filterMap_map, Function.comp_def, Stage.stored?]
      using follows.files
  rw [settled, ← sources, List.map_map, List.filterMap_map]
  congr 1
  exact (List.map_id processed).symm.trans (List.map_congr_left each)

section Sequence

variable {before after : List Stage}

/-- One input can go through all of its stages at once. -/
theorem steps_processFile (path : Path) :
    ReflTransGen (Round.Step replacer options current site)
      ⟨before ++ .waiting path :: after, files⟩
      ⟨before ++ .finished (replacer.processFile options current site files path).1 :: after,
        (replacer.processFile options current site files path).2⟩ := by
  cases read : files.readText current path with
  | error error =>
    rw [Replacer.processFile_of_unread read]
    exact .single (.lost read)
  | ok text =>
    rw [Replacer.processFile, read]
    exact .tail (.single (.passed read)) (.kept rfl)

/-- Taking the files one after the other is one of the ways. -/
theorem steps_processFiles (done : List Processed) (files : FileTree) (paths : List Path) :
    ReflTransGen (Round.Step replacer options current site)
      ⟨done.map .finished ++ paths.map .waiting, files⟩
      (Batch.round ⟨done ++ (replacer.processFiles options current site files paths).processed,
        (replacer.processFiles options current site files paths).files⟩) := by
  induction paths generalizing done files with
  | nil => simp [Batch.round, Replacer.processFiles, ReflTransGen.refl]
  | cons path rest inductionHypothesis =>
    have behind := inductionHypothesis
      (done ++ [(replacer.processFile options current site files path).1])
      (replacer.processFile options current site files path).2
    rw [List.map_append, List.append_assoc, List.append_assoc] at behind
    exact (steps_processFile path).trans behind

end Sequence

/-- While no two paths lead to one file, files that are taken one after the other are processed as
if each were the first one. -/
theorem processFiles_eq
    (apart : (paths.filterMap (files.source? current)).Pairwise fun one other => one.1 ≠ other.1) :
    replacer.processFiles options current site files paths =
      ⟨paths.map fun path => (replacer.processFile options current site files path).1,
        replacer.settle options site files (paths.filterMap (files.source? current))⟩ :=
  (Round.follows_start.steps apart (steps_processFiles [] files paths)).eq_of_finished

/-- A step leaves less to do. -/
theorem Round.Step.work_lt (step : Round.Step replacer options current site round next) :
    next.work < round.work := by
  cases step <;> simp [Round.work, Stage.work]

/-- Inputs that cannot come further are all finished. -/
theorem exists_batch_of_halted
    (halted : ∀ next, ¬ Round.Step replacer options current site round next) :
    ∃ batch : Batch, round = batch.round := by
  obtain ⟨stages, files⟩ := round
  have finished : stages ∈ Set.range (List.map Stage.finished) := by
    rw [Set.range_list_map]
    intro stage member
    obtain ⟨before, after, rfl⟩ := List.append_of_mem member
    cases stage with
    | waiting path =>
      cases read : files.readText current path with
      | error error => exact absurd (.lost read) (halted _)
      | ok text => exact absurd (.passed read) (halted _)
    | passed path pass => exact absurd (.kept rfl) (halted _)
    | finished processed => exact ⟨processed, rfl⟩
  obtain ⟨processed, rfl⟩ := finished
  exact ⟨⟨processed, files⟩, rfl⟩

/-- While no two paths lead to one file, files that are processed at once end like files that are
taken one after the other, whatever the order of the steps. A run comes to its end, as each step
leaves less to do. -/
theorem eq_processFiles_of_halted
    (apart : (paths.filterMap (files.source? current)).Pairwise fun one other => one.1 ≠ other.1)
    (steps : ReflTransGen (Round.Step replacer options current site) (Round.start files paths)
      round)
    (halted : ∀ next, ¬ Round.Step replacer options current site round next) :
    round = (replacer.processFiles options current site files paths).round := by
  obtain ⟨batch, rfl⟩ := exists_batch_of_halted halted
  rw [(Round.follows_start.steps apart steps).eq_of_finished, processFiles_eq apart]

end Schedules

end PageTokens
