import PageTokens.Proofs.Changes
import PageTokens.Proofs.Marks
import PageTokens.Replacer

/-!
# Replacers that fail closed

A replacer whose configured delimiters cannot be used is closed. It shares a
registry with its host, which goes on changing it. `perform_of_closed` says what
one operation on a closed replacer does, `performAll_of_closed` what a sequence
of them does: the changes that the host asks for reach the registry, and nothing
else happens.

`ofConfiguration_fails_closed` says when a configuration makes a closed replacer
and what is left of it.
-/

namespace PageTokens

variable {H σ : Type}

/-- The problems of the delimiters are those whose field is below `delimiters`. -/
theorem Problem.prefix_field_iff {problem : Problem} :
    "delimiters.".toList <+: problem.field ↔ ∃ error, problem = .delimiter error := by
  have other (rest : Text) : ¬ "delimiters.".toList <+: "tokens.".toList ++ rest := fun stands =>
    absurd (List.cons_prefix_cons.mp stands).1 (by decide)
  cases problem with
  | delimiter error => exact ⟨fun _ => ⟨error, rfl⟩, fun _ => List.prefix_append _ _⟩
  | tokenName token | noCallback token | twoCallbacks token =>
    simp only [reduceCtorEq, exists_false, iff_false]
    exact other token
  | unknownBuiltin token builtin =>
    have apart := other (token ++ ".builtin".toList)
    rw [← List.append_assoc] at apart
    simp only [reduceCtorEq, exists_false, iff_false]
    exact apart

/-- No problem of a table that declares a token is about delimiters. -/
theorem TokenTable.ne_delimiter {name : Text} {table : TokenTable} {problem : Problem}
    (member : problem ∈ table.problems name) (error : DelimiterError) :
    problem ≠ .delimiter error := by
  rintro rfl
  rcases List.mem_append.mp member with inName | inCallback
  · rw [Option.mem_toList, nameProblem?] at inName
    split at inName <;> simp at inName
  · rw [Option.mem_toList, callbackProblem?] at inCallback
    split at inCallback <;> simp at inCallback

/-- The problems of a configuration that are about delimiters are those of its texts. -/
theorem Configuration.delimiter_problems_iff {configuration : Configuration} :
    (∀ problem ∈ configuration.problems, ¬ "delimiters.".toList <+: problem.field) ↔
      configuration.marks.problems = [] := by
  simp only [Problem.prefix_field_iff]
  constructor
  · intro none
    refine List.eq_nil_iff_forall_not_mem.mpr fun error member => ?_
    exact none (.delimiter error) (List.mem_append_left _ (List.mem_map_of_mem member)) ⟨error, rfl⟩
  · rintro sound problem member ⟨error, rfl⟩
    rcases List.mem_append.mp member with inMarks | inTables
    · simp [sound] at inMarks
    · obtain ⟨entry, -, inTable⟩ := List.mem_flatMap.mp inTables
      exact TokenTable.ne_delimiter inTable error rfl

namespace Replacer

/-- What a host does with a replacer and with the registry that it shares with it. -/
inductive Operation (H : Type)
  | change (change : Registry.Change H)
  | substitute (request : Request) (text : Text)
  | replaceTokens (request : Request) (text : Text)
  | afterRender (request : Request) (page : Text)

/-- The change of the registry that the host makes itself. -/
def Operation.change? : Operation H → Option (Registry.Change H)
  | .change made => some made
  | substitute _ _ | replaceTokens _ _ | afterRender _ _ => none

/-- The site that an operation leaves. -/
def perform (replacer : Replacer H σ) (site : Site H σ) : Operation H → Site H σ
  | .change made => ⟨made.apply site.registry, site.memory⟩
  | .substitute request text | .replaceTokens request text =>
    (replacer.substitute request text site).site
  | .afterRender request page => (replacer.afterRender request page site).site

/-- The site that operations leave, one after the other. -/
def performAll (replacer : Replacer H σ) (operations : List (Operation H)) (site : Site H σ) :
    Site H σ :=
  operations.foldl replacer.perform site

/-- A replacer that leaves every text as it is and calls nothing. -/
structure Closed (replacer : Replacer H σ) : Prop where
  substitute : ∀ request text site, replacer.substitute request text site = .untouched text site
  replaceTokens : ∀ request text site, replacer.replaceTokens request text site = text
  afterRender : ∀ request page site, replacer.afterRender request page site = .untouched page site
  example? : ∀ token, replacer.example? token = none
  automatic : replacer.policy.automatic = false

/-- A replacer that is not operational is closed. -/
theorem closed_of_not_isOperational {replacer : Replacer H σ}
    (disabled : replacer.isOperational = false) : replacer.Closed := by
  have hookless : replacer.hook = none := by simpa [isOperational] using disabled
  constructor <;> simp [Replacer.substitute, Replacer.replaceTokens, Replacer.afterRender,
    Replacer.example?, delimiters?, policy, hookless, Pass.untouched, HookPolicy.disabled]

variable {replacer : Replacer H σ} (closed : replacer.Closed)

include closed

/-- On a closed replacer only the changes of the host have an effect. -/
theorem perform_of_closed (site : Site H σ) (operation : Operation H) :
    replacer.perform site operation =
      ⟨site.registry.applyAll operation.change?.toList, site.memory⟩ := by
  cases operation with
  | change change => rfl
  | substitute request text => rw [perform, closed.substitute]; rfl
  | replaceTokens request text => rw [perform, closed.substitute]; rfl
  | afterRender request page => rw [perform, closed.afterRender]; rfl

/-- A closed replacer runs operations by making the changes among them, without a call. -/
theorem performAll_of_closed (site : Site H σ) (operations : List (Operation H)) :
    replacer.performAll operations site =
      ⟨site.registry.applyAll (operations.filterMap Operation.change?), site.memory⟩ := by
  induction operations generalizing site with
  | nil => rfl
  | cons operation rest inductionHypothesis =>
    rw [performAll, List.foldl_cons, ← performAll, inductionHypothesis,
      perform_of_closed closed, List.filterMap_cons]
    cases operation.change? <;> rfl

end Replacer

/-- A configuration makes a replacer that is closed exactly when something is wrong with its
delimiters, and then a problem of the replacer says so. Whatever the host does with a closed
replacer, every text stays as it is, nothing is reported, nobody is called, and the list of tokens
shows what the configuration and the host have registered. A replacer that is not closed has the
policy and the delimiters of the configuration. -/
theorem Replacer.ofConfiguration_fails_closed (host : Host H σ) (configuration : Configuration)
    (registry : Registry H) :
    let setup := ofConfiguration host configuration registry
    let replacer := setup.replacer
    (replacer.isOperational = true ↔ configuration.marks.problems = []) ∧
      (configuration.marks.problems = [] ↔ configuration.marks.Usable) ∧
      (replacer.isOperational = true ↔
        ∀ problem ∈ replacer.problems, ¬ "delimiters.".toList <+: problem.field) ∧
      (replacer.isOperational = true → replacer.policy = configuration.policy ∧
        replacer.delimiters?.map Delimiters.toMarks = some configuration.marks) ∧
      (replacer.isOperational = false → replacer.Closed ∧
        ∀ (operations : List (Operation H)) (memory : σ),
          let site := replacer.performAll operations ⟨setup.registry, memory⟩
          let changes := configuration.definitions.map Registry.Change.registerLenient ++
            operations.filterMap Operation.change?
          site.memory = memory ∧ ∀ definition, definition ∈ site.registry.list ↔
            ∃ name, registry.latest? changes name = some definition) := by
  intro setup replacer
  have operational : replacer.isOperational = true ↔ configuration.marks.problems = [] := by
    rw [← Delimiters.isSome_ofMarks_iff]
    simp only [isOperational, replacer, setup, ofConfiguration, Option.isSome_map]
  refine ⟨operational, Marks.problems_eq_nil_iff,
    operational.trans Configuration.delimiter_problems_iff.symm, ?_, ?_⟩
  · intro usable
    have built : Delimiters.ofMarks configuration.marks =
        .ok ⟨configuration.marks, operational.mp usable⟩ := Delimiters.ofMarks_eq_ok_iff.mpr rfl
    simp [policy, delimiters?, replacer, setup, ofConfiguration, built, Except.toOption]
  · intro disabled
    have closed := closed_of_not_isOperational disabled
    refine ⟨closed, fun operations memory => ?_⟩
    rw [performAll_of_closed closed]
    refine ⟨rfl, fun definition => ?_⟩
    simp only [Registry.mem_list_iff, ← Registry.lookup_applyAll, Registry.applyAll,
      List.foldl_append]
    rfl

/-- The start delimiter at both ends of a token closes the replacer. -/
example : (Replacer.ofConfiguration Host.none
    { Configuration.standard with marks := { Marks.standard with stop := Marks.standard.start } }
    .empty).replacer.isOperational = false := by decide

end PageTokens
