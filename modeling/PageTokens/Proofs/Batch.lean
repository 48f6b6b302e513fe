import PageTokens.Proofs.Declared
import PageTokens.Proofs.Schedules

/-!
# What comes of several inputs

An input fails when it cannot be read, or when its new text is to be written and
the system refuses this (`failed_processFile_iff`); otherwise its pass counts.
What a run shows and the code with which it ends are read off from what came of
its inputs.
-/

namespace PageTokens

namespace Engine

/-- A pass without host code leaves the site as it is. -/
theorem site_substitute_of_declared {H σ : Type} (engine : Engine H σ) (request : Request)
    {site : Site H σ} (declared : site.registry.Declared) (text : Text) :
    (engine.substitute request text site).site = site := by
  rw [substitute_site]
  generalize occurrences engine.delimiters text = found
  induction found with
  | nil => rfl
  | cons occurrence rest inductionHypothesis =>
    rw [siteAfter, List.foldl_cons, engine.site_resolve_of_declared declared]
    exact inductionHypothesis

end Engine

/-- Tokens are skipped exactly when some diagnostic reports no success. -/
theorem Pass.skipped_ne_nil_iff {H σ : Type} {pass : Pass H σ} :
    pass.skipped ≠ [] ↔ ∃ diagnostic ∈ pass.diagnostics, diagnostic.succeeded = false := by
  simp [skipped]

namespace Replacer

variable {replacer : PlainReplacer} {options : ReplaceOptions} {current : Place}
  {site : Site Empty Unit} {files : FileTree} {path : Path} {source : Place × Text}
  {paths : List Path}

/-- All inputs can share one site, for no pass changes it. -/
theorem site_passOver (text : Text) : (replacer.passOver options site text).site = site := by
  have declared : site.registry.Declared := fun _ _ _ code => nomatch code
  unfold passOver process
  split
  · rfl
  · unfold substitute
    split
    · exact Engine.site_substitute_of_declared _ _ declared text
    · rfl

/-- Something keeps a text from being written exactly when files are to be changed and the system
refuses it. -/
theorem obstacle?_ne_none_iff :
    replacer.obstacle? options site files source ≠ none ↔ options.inPlace = true ∧
      files.refusals.writing source.1 (replacer.passOver options site source.2).text ≠ none := by
  unfold obstacle?
  cases options.inPlace <;> simp

/-- A source without an obstacle gets the pass over its text. -/
theorem verdict_of_admitted (admitted : replacer.obstacle? options site files source = none) :
    replacer.verdict options site files source = .ok (replacer.passOver options site source.2) := by
  rw [verdict, admitted]

/-- An input fails when it cannot be read, or its new text cannot be written. -/
theorem failed_processFile_iff :
    (replacer.processFile options current site files path).1.failed = true ↔
      files.source? current path = none ∨
        ∃ source, files.source? current path = some source ∧
          replacer.obstacle? options site files source ≠ none := by
  cases found : files.source? current path with
  | none =>
    obtain ⟨error, unread⟩ := FileTree.source?_eq_none_iff.mp found
    simp [processFile_of_unread unread, Processed.failed]
  | some source =>
    rw [processFile_of_source? found, verdict]
    cases obstacle : replacer.obstacle? options site files source <;>
      simp [Processed.failed, obstacle]

/-- The tokens of an input that does not fail stay when its pass leaves them. -/
theorem skipped_processFile_of_source? (found : files.source? current path = some source)
    (admitted : replacer.obstacle? options site files source = none) :
    (replacer.processFile options current site files path).1.skipped =
      (replacer.passOver options site source.2).skipped := by
  rw [processFile_of_source? found, Processed.skipped, verdict_of_admitted admitted]

/-- A path without a source skips no token, for there is no pass. -/
theorem skipped_processFile_of_unread (missing : files.source? current path = none) :
    (replacer.processFile options current site files path).1.skipped = [] := by
  obtain ⟨error, unread⟩ := FileTree.source?_eq_none_iff.mp missing
  rw [processFile_of_unread unread, Processed.skipped]

/-- As long as nothing is to be written, the texts of several inputs are the new texts of those
that can be read. -/
theorem flatMap_text_processFile (shown : options.inPlace = false) (paths : List Path) :
    (paths.map fun path =>
        (replacer.processFile options current site files path).1).flatMap Processed.text =
      (paths.filterMap (files.source? current)).flatMap fun source =>
        (replacer.passOver options site source.2).text := by
  have admitted (source : Place × Text) : replacer.obstacle? options site files source = none := by
    simp [obstacle?, shown]
  induction paths with
  | nil => rfl
  | cons path rest inductionHypothesis =>
    rw [List.map_cons, List.flatMap_cons, inductionHypothesis, List.filterMap_cons]
    cases found : files.source? current path with
    | none =>
      obtain ⟨error, unread⟩ := FileTree.source?_eq_none_iff.mp found
      rw [processFile_of_unread unread]
      rfl
    | some source =>
      rw [processFile_of_source? found, verdict_of_admitted (admitted source)]
      rfl

end Replacer

namespace Batch

variable (batch : Batch) (options : ReplaceOptions) (notices : List Notice)

/-- A run fails when an input has failed or, in a strict run, a token stays. -/
theorem code_toRun_eq :
    (batch.toRun options notices).code =
      if batch.failed = true ∨ options.strict = true ∧ 0 < batch.unreplaced then
        Environment.failure
      else 0 := by
  simp only [toRun]
  cases batch.failed <;> simp

/-- A run over inputs ends with one of two codes. -/
theorem code_toRun :
    (batch.toRun options notices).code = 0 ∨
      (batch.toRun options notices).code = Environment.failure := by
  rw [code_toRun_eq]
  split
  · exact .inr rfl
  · exact .inl rfl

/-- The run fails when an input failed, and a strict one also when a token was skipped. -/
theorem code_toRun_eq_failure_iff :
    (batch.toRun options notices).code = Environment.failure ↔
      (∃ processed ∈ batch.processed, processed.failed = true) ∨
        options.strict = true ∧ ∃ processed ∈ batch.processed, processed.skipped ≠ [] := by
  have failed : batch.failed = true ↔ ∃ processed ∈ batch.processed, processed.failed = true :=
    List.any_eq_true
  have unreplaced : 0 < batch.unreplaced ↔
      ∃ processed ∈ batch.processed, processed.skipped ≠ [] := by
    rw [Batch.unreplaced, List.length_pos_iff]
    simp
  have different : (0 : Nat) ≠ Environment.failure := by decide
  rw [← failed, ← unreplaced, code_toRun_eq]
  refine ⟨fun ends => ?_, fun cause => if_pos cause⟩
  by_contra fine
  rw [if_neg fine] at ends
  exact different ends

end Batch

end PageTokens
