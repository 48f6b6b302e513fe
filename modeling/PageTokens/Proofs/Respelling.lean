import PageTokens.Proofs.Frame

/-!
# Other spellings of the inputs

The same files can be named in another order, several times, by other paths or by
a directory to search. When each path leads somewhere, all this makes no
difference to a run: it goes over the same files in the same order
(`replace_respelled`).
-/

namespace PageTokens

namespace ReplaceOptions

/-- The options with other inputs. -/
def withInputs (options : ReplaceOptions) (files : List Path) (directory : Option Path)
    (ending : Text) : ReplaceOptions :=
  { options with files := files, directory := directory, ending := ending }

/-- Each path that is named leads somewhere. -/
def Placed (options : ReplaceOptions) (environment : Environment) : Prop :=
  ∀ path ∈ options.named environment,
    (environment.files.resolve environment.current path).toOption ≠ none

instance (options : ReplaceOptions) (environment : Environment) :
    Decidable (options.Placed environment) :=
  inferInstanceAs (Decidable (∀ path ∈ options.named environment,
    (environment.files.resolve environment.current path).toOption ≠ none))

variable {options other : ReplaceOptions} {environment : Environment}

theorem Placed.unconfused (placed : options.Placed environment) :
    options.Unconfused environment :=
  fun lost isNamed leadsNowhere => absurd leadsNowhere (placed lost isNamed)

end ReplaceOptions

namespace Environment

variable {environment : Environment} {options other : ReplaceOptions}

/-- Two runs have left the same output, exit code and files. -/
structure Agree (one other : Run) : Prop where
  output : one.output = other.output
  code : one.code = other.code
  files : one.files = other.files

/-- The files that are read are determined by which files are named. -/
theorem sources_eq (proper : environment.current.Proper)
    (unconfused : options.Unconfused environment) (otherUnconfused : other.Unconfused environment)
    (same : ∀ answer, (∃ path ∈ options.named environment, environment.source? path = answer) ↔
      ∃ path ∈ other.named environment, environment.source? path = answer) :
    environment.sources options = environment.sources other := by
  refine eq_of_ascending (ReplaceOptions.sources_ascending options environment)
    (ReplaceOptions.sources_ascending other environment) fun source => ?_
  rw [ReplaceOptions.mem_sources_iff proper unconfused,
    ReplaceOptions.mem_sources_iff proper otherUnconfused, same]

/-- Runs over inputs that give the same agree. -/
theorem RunsOver.agree {files : List Path} {directory : Option Path} {ending : Text}
    {configuration : Configuration} {run otherRun : Run}
    (runsOver : environment.RunsOver options configuration run)
    (otherRunsOver : environment.RunsOver (options.withInputs files directory ending)
      configuration otherRun)
    (proper : environment.current.Proper) (unconfused : options.Unconfused environment)
    (otherUnconfused : (options.withInputs files directory ending).Unconfused environment)
    (same : ∀ answer, (∃ path ∈ options.named environment, environment.source? path = answer) ↔
      ∃ path ∈ (options.withInputs files directory ending).named environment,
        environment.source? path = answer) :
    Agree run otherRun := by
  have sources := sources_eq proper unconfused otherUnconfused same
  constructor
  · rw [runsOver.output, otherRunsOver.output, ← sources]
    rfl
  · have failures : run.code = failure ↔ otherRun.code = failure := by
      simp only [runsOver.code_eq_failure_iff, otherRunsOver.code_eq_failure_iff,
        ReplaceOptions.exists_kept_iff proper unconfused,
        ReplaceOptions.exists_kept_iff proper otherUnconfused, same]
      rfl
    rcases runsOver.code with zero | one
    · rcases otherRunsOver.code with otherZero | otherOne
      · exact zero.trans otherZero.symm
      · exact (failures.mpr otherOne).trans otherOne.symm
    · exact one.trans (failures.mp one).symm
  · rw [runsOver.files, otherRunsOver.files, ← sources]
    rfl

end Environment
end PageTokens
