import PageTokens.Proofs.Batch
import PageTokens.Proofs.Inputs

/-!
# What a run leaves behind

A run that is refused or finds no configuration leaves no output and no change.
Every other run makes one pass over each file that it can read and over no other
file; with the changes in place, each of these files holds what its pass gave,
unless the system refuses to write it, and everything else is as it was
(`replace_frame`). Inputs that cannot be read count for the exit code only. All
this holds in whatever order the inputs are processed (`eq_batchOf_of_halted`).
-/

namespace PageTokens

namespace ReplaceOptions

/-- The pass over a text that the options ask for with a configuration. -/
def pass (options : ReplaceOptions) (configuration : Configuration) (text : Text) : PlainPass :=
  let setup := Environment.setUp (options.adjust configuration)
  setup.replacer.passOver options ⟨setup.registry, ()⟩ text

end ReplaceOptions

namespace Environment

variable {environment : Environment} {options : ReplaceOptions} {configuration : Configuration}

/-- A token stays in a text. -/
def Leaves (options : ReplaceOptions) (configuration : Configuration) (text : Text) : Prop :=
  ∃ diagnostic ∈ (options.pass configuration text).diagnostics, diagnostic.succeeded = false

/-- The new text of a source is to be written and the system refuses this. -/
def Barred (environment : Environment) (options : ReplaceOptions) (configuration : Configuration)
    (source : Place × Text) : Prop :=
  options.inPlace = true ∧
    environment.files.refusals.writing source.1 (options.pass configuration source.2).text ≠ none

/-- The batch that a run makes of its inputs. -/
def batchOf (environment : Environment) (options : ReplaceOptions)
    (configuration : Configuration) : Batch :=
  let setup := setUp (options.adjust configuration)
  setup.replacer.processFiles options environment.current ⟨setup.registry, ()⟩ environment.files
    (options.kept environment)

/-- What a run makes of one of its inputs when nothing else has been written. -/
def processed (environment : Environment) (options : ReplaceOptions)
    (configuration : Configuration) (path : Path) : Processed :=
  let setup := setUp (options.adjust configuration)
  (setup.replacer.processFile options environment.current ⟨setup.registry, ()⟩ environment.files
    path).1

/-- What a file holds after a run has written the new text of a source into it. -/
def renewed (environment : Environment) (options : ReplaceOptions)
    (configuration : Configuration) (source : Place × Text) : Content :=
  environment.files.leaves source.1 source.2 (options.pass configuration source.2).text

/-- The files of a run are read once and apart from each other. -/
theorem batchOf_eq : environment.batchOf options configuration =
    ⟨(options.kept environment).map (environment.processed options configuration),
      if options.inPlace then
        environment.files.rewrite (environment.renewed options configuration)
          (environment.sources options)
      else environment.files⟩ :=
  processFiles_eq (ReplaceOptions.sources_apart options environment)

/-- The inputs of a run can be processed at the same time: whatever the order of the steps, they
end as the batch that the run makes of them. -/
theorem eq_batchOf_of_halted {round : Round}
    (steps : Relation.ReflTransGen
      (Round.Step (setUp (options.adjust configuration)).replacer options environment.current
        ⟨(setUp (options.adjust configuration)).registry, ()⟩)
      (Round.start environment.files (options.kept environment)) round)
    (halted : ∀ next, ¬ Round.Step (setUp (options.adjust configuration)).replacer options
      environment.current ⟨(setUp (options.adjust configuration)).registry, ()⟩ round next) :
    round = (environment.batchOf options configuration).round :=
  eq_processFiles_of_halted (ReplaceOptions.sources_apart options environment) steps halted

/-- A run with inputs shows the batch that it makes of them. -/
theorem replaceInputs_eq (inputs : options.kept environment ≠ []) (notices : List Notice) :
    ∃ told, environment.replaceInputs options (options.kept environment) notices configuration =
      (environment.batchOf options configuration).toRun options told := by
  unfold replaceInputs
  rw [List.isEmpty_eq_false_iff.mpr inputs]
  exact ⟨_, rfl⟩

/-- A run goes over the files that it reads. -/
structure RunsOver (environment : Environment) (options : ReplaceOptions)
    (configuration : Configuration) (run : Run) : Prop where
  output : run.output = if options.inPlace then [] else
    (environment.sources options).flatMap fun source => (options.pass configuration source.2).text
  files : run.files = if options.inPlace then
      environment.files.rewrite (environment.renewed options configuration)
        (environment.sources options)
    else environment.files
  code : run.code = 0 ∨ run.code = failure
  code_eq_failure_iff : run.code = failure ↔
    (∃ path ∈ options.kept environment, environment.source? path = none) ∨
      ∃ source, (∃ path ∈ options.kept environment, environment.source? path = some source) ∧
        (environment.Barred options configuration source ∨
          options.strict = true ∧ Leaves options configuration source.2)

/-- An input fails when it cannot be read, or its new text cannot be written. -/
theorem failed_processed_iff {path : Path} :
    (environment.processed options configuration path).failed = true ↔
      environment.source? path = none ∨ ∃ source, environment.source? path = some source ∧
        environment.Barred options configuration source := by
  simp only [processed, Replacer.failed_processFile_iff, Replacer.obstacle?_ne_none_iff]
  rfl

/-- The tokens that stay in an input that does not fail are those that its pass leaves. -/
theorem skipped_processed {path : Path} {source : Place × Text}
    (found : environment.source? path = some source)
    (admitted : ¬ environment.Barred options configuration source) :
    (environment.processed options configuration path).skipped =
      (options.pass configuration source.2).skipped := by
  have free := not_ne_iff.mp (mt Replacer.obstacle?_ne_none_iff.mp admitted)
  rw [processed, Replacer.skipped_processFile_of_source? found free]
  rfl

/-- A run with inputs goes over the files among them. -/
theorem runsOver_replaceInputs (inputs : options.kept environment ≠ []) (notices : List Notice) :
    environment.RunsOver options configuration
      (environment.replaceInputs options (options.kept environment) notices configuration) := by
  obtain ⟨told, runs⟩ := @replaceInputs_eq environment options configuration inputs notices
  rw [runs, batchOf_eq]
  constructor
  · simp only [Batch.toRun]
    cases shown : options.inPlace with
    | true => rfl
    | false => exact Replacer.flatMap_text_processFile shown _
  · rfl
  · exact Batch.code_toRun _ _ _
  · simp only [Batch.code_toRun_eq_failure_iff, List.mem_map, exists_exists_and_eq_and,
      failed_processed_iff]
    constructor
    · rintro (⟨path, isKept, unread | ⟨source, found, barred⟩⟩ | ⟨strict, path, isKept, stays⟩)
      · exact .inl ⟨path, isKept, unread⟩
      · exact .inr ⟨source, ⟨path, isKept, found⟩, .inl barred⟩
      · cases found : environment.source? path with
        | none => exact absurd (Replacer.skipped_processFile_of_unread found) stays
        | some source =>
          refine .inr ⟨source, ⟨path, isKept, found⟩, ?_⟩
          by_cases barred : environment.Barred options configuration source
          · exact .inl barred
          · rw [skipped_processed found barred, Pass.skipped_ne_nil_iff] at stays
            exact .inr ⟨strict, stays⟩
    · rintro (⟨path, isKept, unread⟩ | ⟨source, ⟨path, isKept, found⟩, barred | ⟨strict, leaves⟩⟩)
      · exact .inl ⟨path, isKept, .inl unread⟩
      · exact .inl ⟨path, isKept, .inr ⟨source, found, barred⟩⟩
      · by_cases barred : environment.Barred options configuration source
        · exact .inl ⟨path, isKept, .inr ⟨source, found, barred⟩⟩
        · refine .inr ⟨strict, path, isKept, ?_⟩
          rw [skipped_processed found barred, Pass.skipped_ne_nil_iff]
          exact leaves

/-- A run that is neither refused nor without a configuration goes over its inputs, or over the
standard input. -/
theorem replace_of_loaded (accepted : ¬ options.Refused environment)
    (loaded : (environment.load options.configuration).result = .ok configuration) :
    environment.replace options = environment.replaceInputs options (options.kept environment)
      ((environment.load options.configuration).events.map Notice.event) configuration := by
  have inputs := ReplaceOptions.inputs_eq_ok_iff.mpr ⟨accepted, rfl⟩
  rw [replace, inputs]
  simp only [withConfiguration, loaded]

/-- A run has left no output and no change. -/
structure LeftAlone (environment : Environment) (run : Run) : Prop where
  output : run.output = []
  files : run.files = environment.files

theorem leftAlone_fail (code : Nat) (notices : List Notice) (message : Text) :
    environment.LeftAlone (environment.fail code notices message) := ⟨rfl, rfl⟩

/-- A refused run has a code of its own, and leaves nothing. -/
theorem replace_of_refused (refused : options.Refused environment) :
    (environment.replace options).code = refusal ∧
      environment.LeftAlone (environment.replace options) := by
  obtain ⟨reason, inputs⟩ := ReplaceOptions.inputs_of_refused refused
  rw [replace, inputs]
  exact ⟨rfl, leftAlone_fail _ _ _⟩

/-- A run without a configuration fails and leaves nothing. -/
theorem replace_of_unloaded (accepted : ¬ options.Refused environment) {error : LoadError}
    (unloaded : (environment.load options.configuration).result = .error error) :
    (environment.replace options).code = failure ∧
      environment.LeftAlone (environment.replace options) := by
  have inputs := ReplaceOptions.inputs_eq_ok_iff.mpr ⟨accepted, rfl⟩
  rw [replace, inputs]
  simp only [withConfiguration, unloaded]
  exact ⟨rfl, leftAlone_fail _ _ _⟩

/-- The texts that a run makes passes over, none for an input that cannot be read. -/
def texts (environment : Environment) (options : ReplaceOptions) : List (Option Text) :=
  match options.named environment with
  | [] => [environment.input.readText.toOption]
  | path :: rest => (path :: rest).map fun path => (environment.source? path).map Prod.snd

/-- With inputs there is a text for each of them. -/
theorem texts_of_named (inputs : options.named environment ≠ []) :
    environment.texts options =
      (options.named environment).map fun path => (environment.source? path).map Prod.snd := by
  unfold texts
  split
  · contradiction
  · next named => rw [named]

/-- A run has made one pass over each text, and only the files in which it replaces tokens in place
have changed. -/
structure Settles (environment : Environment) (options : ReplaceOptions)
    (configuration : Configuration) (run : Run) : Prop where
  output : options.inPlace = true → run.output = []
  unchanged : options.inPlace = false → run.files = environment.files
  rewritten : options.inPlace = true → ∀ path ∈ options.named environment, ∀ place text,
    environment.source? path = some (place, text) →
      environment.files.refusals.writing place (options.pass configuration text).text = none →
        run.files.node? place = some (.file (.text (options.pass configuration text).text))
  unwritten : options.inPlace = true → ∀ path ∈ options.named environment, ∀ place text,
    environment.source? path = some (place, text) → ∀ failure,
      environment.files.refusals.writing place (options.pass configuration text).text =
          some failure →
        run.files.node? place = some (.file (failure.left (.text text)))
  elsewhere : ∀ place, (∀ path ∈ options.named environment, ∀ text,
    environment.source? path ≠ some (place, text)) →
      run.files.node? place = environment.files.node? place
  unread : ∀ path ∈ options.named environment, environment.source? path = none →
    run.files.nodeAt? environment.current path =
      environment.files.nodeAt? environment.current path
  code : run.code = 0 ∨ run.code = failure
  code_eq_failure_iff : run.code = failure ↔ none ∈ environment.texts options ∨
    (∃ path ∈ options.named environment, ∃ source, environment.source? path = some source ∧
      environment.Barred options configuration source) ∨
    options.strict = true ∧ ∃ text, some text ∈ environment.texts options ∧
      Leaves options configuration text

/-- What is read from the files is what they hold. -/
theorem holds_sources (environment : Environment) (options : ReplaceOptions) :
    environment.files.Holds (environment.sources options) := by
  intro source member
  obtain ⟨path, -, found⟩ := List.mem_filterMap.mp member
  exact (FileTree.source?_eq_some_iff.mp found).2

/-- A path that cannot be read leads to what it led to, whatever was written. -/
theorem nodeAt?_rewrite {content : Place × Text → Content} {path : Path}
    (unread : environment.source? path = none) :
    (environment.files.rewrite content (environment.sources options)).nodeAt?
        environment.current path = environment.files.nodeAt? environment.current path := by
  have holds := holds_sources environment options
  rw [FileTree.nodeAt?, FileTree.nodeAt?, ← holds.alike_rewrite.resolve_eq]
  cases resolved : environment.files.resolve environment.current path with
  | error error => rfl
  | ok place =>
    refine FileTree.node?_rewrite_of_forall_ne holds.below ?_
    rintro source member rfl
    have found : environment.source? path = some source :=
      FileTree.source?_eq_some_iff.mpr ⟨resolved, holds source member⟩
    rw [unread] at found
    contradiction

/-- A run over files settles what is named. -/
theorem RunsOver.settles {run : Run} (runsOver : environment.RunsOver options configuration run)
    (proper : environment.current.Proper) (unconfused : options.Unconfused environment)
    (inputs : options.named environment ≠ []) :
    environment.Settles options configuration run := by
  have holds := holds_sources environment options
  have isSource {source : Place × Text} : source ∈ environment.sources options ↔
      ∃ path ∈ options.named environment, environment.source? path = some source :=
    ReplaceOptions.mem_sources_iff proper unconfused
  have written (inPlace : options.inPlace = true) (path : Path)
      (isNamed : path ∈ options.named environment) {source : Place × Text}
      (found : environment.source? path = some source) :
      run.files.node? source.1 =
        some (.file (environment.renewed options configuration source)) := by
    rw [runsOver.files, if_pos inPlace]
    exact holds.node?_rewrite (isSource.mpr ⟨path, isNamed, found⟩)
  constructor
  · intro inPlace
    rw [runsOver.output, if_pos inPlace]
  · intro kept
    rw [runsOver.files, kept]
    rfl
  · intro inPlace path isNamed place text found admitted
    rw [written inPlace path isNamed found, renewed, FileTree.leaves_of_not_refused admitted]
  · intro inPlace path isNamed place text found failure refused
    rw [written inPlace path isNamed found, renewed, FileTree.leaves, refused]
  · intro place apart
    rw [runsOver.files]
    split
    · refine FileTree.node?_rewrite_of_forall_ne holds.below ?_
      rintro source member rfl
      obtain ⟨path, isNamed, found⟩ := isSource.mp member
      exact apart path isNamed source.2 found
    · rfl
  · intro path isNamed unread
    rw [runsOver.files]
    split
    · exact nodeAt?_rewrite unread
    · rfl
  · exact runsOver.code
  · simp only [runsOver.code_eq_failure_iff, texts_of_named inputs,
      ReplaceOptions.exists_kept_iff proper unconfused, List.mem_map, Option.map_eq_none_iff,
      Option.map_eq_some_iff]
    refine or_congr Iff.rfl ⟨?_, ?_⟩
    · rintro ⟨source, ⟨path, isNamed, found⟩, barred | ⟨strict, leaves⟩⟩
      · exact .inl ⟨path, isNamed, source, found, barred⟩
      · exact .inr ⟨strict, source.2, ⟨path, isNamed, source, found, rfl⟩, leaves⟩
    · rintro (⟨path, isNamed, source, found, barred⟩ |
        ⟨strict, -, ⟨path, isNamed, source, found, rfl⟩, leaves⟩)
      · exact ⟨source, ⟨path, isNamed, found⟩, .inl barred⟩
      · exact ⟨source, ⟨path, isNamed, found⟩, .inr ⟨strict, leaves⟩⟩

/-- A run that leaves the files settles everything by its exit code. -/
theorem settles_of_files_eq {run : Run} (shown : options.inPlace = false)
    (files : run.files = environment.files) (code : run.code = 0 ∨ run.code = failure)
    (code_eq_failure_iff : run.code = failure ↔ none ∈ environment.texts options ∨
      options.strict = true ∧ ∃ text, some text ∈ environment.texts options ∧
        Leaves options configuration text) :
    environment.Settles options configuration run where
  output inPlace := absurd inPlace (Bool.eq_false_iff.mp shown)
  unchanged _ := files
  rewritten inPlace := absurd inPlace (Bool.eq_false_iff.mp shown)
  unwritten inPlace := absurd inPlace (Bool.eq_false_iff.mp shown)
  elsewhere _ _ := by rw [files]
  unread _ _ _ := by rw [files]
  code := code
  code_eq_failure_iff := by
    rw [code_eq_failure_iff]
    simp [Barred, shown]

/-- A run without inputs settles the standard input. -/
theorem settles_of_nothing_named (accepted : ¬ options.Refused environment)
    (nothing : options.named environment = []) (notices : List Notice) :
    environment.Settles options configuration
      (environment.replaceInputs options (options.kept environment) notices configuration) := by
  have shown : options.inPlace = false := by
    rw [← Bool.not_eq_true]
    exact fun inPlace => accepted (.nothingNamed inPlace nothing)
  have given : environment.texts options = [environment.input.readText.toOption] := by
    rw [texts, nothing]
  rw [ReplaceOptions.kept_eq_nil_iff.mpr nothing, replaceInputs]
  simp only [List.isEmpty_nil, if_true, withText]
  cases read : environment.input.readText with
  | error error =>
    have lost : none ∈ environment.texts options := by
      rw [given, read]
      exact List.mem_singleton_self _
    exact settles_of_files_eq shown rfl (.inr rfl) (iff_of_true rfl (.inl lost))
  | ok text =>
    refine settles_of_files_eq shown rfl (Batch.code_toRun _ _ _) ?_
    rw [Batch.code_toRun_eq_failure_iff, given, read]
    simp [Processed.failed, Processed.skipped, Pass.skipped_ne_nil_iff, Leaves,
      ReplaceOptions.pass, Except.toOption]

/-- A run leaves no output and no change when it is refused for its arguments, with the exit code
for that, or finds no configuration, with the exit code for a failure. Every other run makes one
pass over each text that can be read, changes only the files of these texts, and those only in
place, and ends with the code of a failure exactly when an input could not be read or written or,
in a strict run, a token stays. The way to the working directory consists of names of files, and
`Unconfused` cannot be left out: see `slashed`. -/
theorem replace_frame (environment : Environment) (options : ReplaceOptions)
    (proper : environment.current.Proper) (unconfused : options.Unconfused environment) :
    let run := environment.replace options
    let loaded := (environment.load options.configuration).result
    (options.Refused environment → run.code = refusal ∧ environment.LeftAlone run) ∧
      (¬ options.Refused environment → ∀ error, loaded = .error error →
        run.code = failure ∧ environment.LeftAlone run) ∧
      (¬ options.Refused environment → ∀ configuration, loaded = .ok configuration →
        environment.Settles options configuration run) := by
  refine ⟨replace_of_refused, fun accepted error => replace_of_unloaded accepted, ?_⟩
  intro accepted configuration loaded
  rw [replace_of_loaded accepted loaded]
  by_cases nothing : options.named environment = []
  · exact settles_of_nothing_named accepted nothing _
  · have inputs := mt ReplaceOptions.kept_eq_nil_iff.mp nothing
    exact (runsOver_replaceInputs inputs _).settles proper unconfused nothing

/-- The text of a page with one token. -/
def samplePage : Text := "\x7b\x7bname\x7d\x7d".toList

/-- The place of the page. -/
def samplePlace : Place := ["site".toList, "page".toList]

/-- A directory with the page and a configuration of its token. -/
def sample : Environment where
  files := (FileTree.empty.plant samplePlace (.file (.text samplePage))).plant
    ["site".toList, "ctr.toml".toList]
    (.file (.text "[tokens.name]\nstatic = \"Example\"\n".toList))
  current := ["site".toList]
  configurationHome := .unset
  home := .unset
  input := .text []
  logSetting := none

/-- The options that replace the tokens of some files in place. -/
def rewriting (files : List Path) : ReplaceOptions where
  files := files
  directory := none
  ending := "html".toList
  configuration := none
  hook := false
  admin := false
  path := none
  attributes := []
  noAutomatic := false
  allSurfaces := false
  inPlace := true
  diagnostics := none
  strict := false

/-- The configuration of the sample replaces the token of the page. -/
theorem exists_pass_sample :
    ∃ configuration, (sample.load none).result = .ok configuration ∧ ∀ files,
      ((rewriting files).pass configuration samplePage).text = "Example".toList := by
  have renews : (sample.load none).result.toOption.map (fun configuration =>
      ((rewriting []).pass configuration samplePage).text) = some "Example".toList := by
    decide +kernel
  obtain ⟨configuration, loaded, renewed⟩ := Option.map_eq_some_iff.mp renews
  refine ⟨configuration, ?_, fun _ => renewed⟩
  cases result : (sample.load none).result <;> rw [result] at loaded
  · contradiction
  · rw [Option.some.inj loaded]

/-- The page under two spellings, and a path that leads nowhere. -/
def respelled : ReplaceOptions :=
  rewriting ["page".toList, "/site/page".toList, "lost".toList]

/-- A page under two spellings is rewritten once, beside an input that leads nowhere. -/
theorem replace_frame_respelled :
    (sample.replace respelled).files.node? samplePlace =
        some (.file (.text "Example".toList)) ∧
      (sample.replace respelled).code = failure := by
  obtain ⟨configuration, loaded, renews⟩ := exists_pass_sample
  have renewed : (respelled.pass configuration samplePage).text = "Example".toList := renews _
  have settles := (replace_frame sample respelled (by decide +kernel) (by decide +kernel)).2.2
    (ReplaceOptions.not_refused_of_files rfl rfl (List.cons_ne_nil _ _)) configuration loaded
  constructor
  · rw [settles.rewritten rfl "page".toList List.mem_cons_self samplePlace samplePage
      (by decide +kernel) rfl, renewed]
  · exact settles.code_eq_failure_iff.mpr (.inl (by decide +kernel))

/-- The page behind a path that leads nowhere, for there is a slash after the name of a file. -/
def slashed : ReplaceOptions :=
  rewriting ["/site/page/".toList, "/site/page".toList]

/-- The two paths are taken for one, of which the first stays. -/
theorem sources_slashed : sample.sources slashed = [] := by
  have isNamed : slashed.named sample = ["/site/page/".toList, "/site/page".toList] := rfl
  have sorted : ["/site/page/".toList, "/site/page".toList].Pairwise fun left right =>
      (sample.files.canonical sample.current left).isAtMost
        (sample.files.canonical sample.current right) = true := by
    decide +kernel
  have same : (sample.files.canonical sample.current "/site/page/".toList).components =
      (sample.files.canonical sample.current "/site/page".toList).components := by
    decide +kernel
  rw [sources, ReplaceOptions.kept, isNamed, Path.distinct, List.mergeSort_of_pairwise sorted,
    Path.dropRepeats, if_pos same, Path.dropRepeats]
  decide +kernel

/-- A page that is named and can be read is not rewritten when a path that leads nowhere is
spelled like it. -/
theorem not_settles_slashed :
    ¬ slashed.Refused sample ∧ ∃ configuration, (sample.load none).result = .ok configuration ∧
      ¬ sample.Settles slashed configuration (sample.replace slashed) := by
  have accepted : ¬ slashed.Refused sample :=
    ReplaceOptions.not_refused_of_files rfl rfl (List.cons_ne_nil _ _)
  obtain ⟨configuration, loaded, renews⟩ := exists_pass_sample
  refine ⟨accepted, configuration, loaded, fun settles => ?_⟩
  have inputs : slashed.kept sample ≠ [] :=
    mt ReplaceOptions.kept_eq_nil_iff.mp (List.cons_ne_nil _ _)
  have replaced : slashed.inPlace = true := rfl
  have renewed : (slashed.pass configuration samplePage).text = "Example".toList := renews _
  have rewritten := settles.rewritten replaced "/site/page".toList
    (List.mem_cons_of_mem _ List.mem_cons_self) samplePlace samplePage (by decide +kernel) rfl
  rw [replace_of_loaded accepted loaded, (runsOver_replaceInputs inputs _).files,
    if_pos replaced, sources_slashed, renewed, FileTree.rewrite_nil] at rewritten
  exact absurd rewritten (by decide +kernel)

end Environment
end PageTokens
