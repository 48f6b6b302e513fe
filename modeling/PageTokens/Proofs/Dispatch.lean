import PageTokens.Proofs.Pass

/-!
# Which callbacks a pass calls

`Resolves` lists the four ways in which a token can be resolved, and
`resolves_resolve` shows that there is no other. `Site.after` is the site that a
number of calls leave. The memory of host code is part of the site, so a call
that is not listed would show in it.

`substitute_dispatches` states who is called in a pass, at which moment and with
what, and which outcome is reported of each occurrence.
-/

namespace PageTokens

variable {H σ : Type}

/-- An ASCII letter, an ASCII digit or an underscore. -/
def IsNameCharacter (char : Char) : Prop :=
  ('A' ≤ char ∧ char ≤ 'Z') ∨ ('a' ≤ char ∧ char ≤ 'z') ∨ ('0' ≤ char ∧ char ≤ '9') ∨ char = '_'

/-- Names are of letters and digits of ASCII and of underscores. -/
theorem isNameCharacter_iff {char : Char} :
    IsNameCharacter char ↔ (char.isAlphanum || decide (char = '_')) = true := by
  dsimp only [IsNameCharacter, Char.isAlphanum, Char.isAlpha, Char.isUpper, Char.isLower,
    Char.isDigit]
  simp only [Char.le_def, Bool.or_eq_true, Bool.and_eq_true, decide_eq_true_eq, or_assoc]

/-- A name is refused when it is empty or has a character that no name may have. -/
theorem isTokenName_eq_false_iff {name : Text} :
    isTokenName name = false ↔ name = [] ∨ ∃ char ∈ name, ¬ IsNameCharacter char := by
  simp only [isTokenName, isNameCharacter_iff, Bool.and_eq_false_iff, Bool.not_eq_false',
    List.isEmpty_iff, List.all_eq_false]

/-- The call of the callback of a token. -/
def Token.call (token : Token) (request : Request) : Call :=
  ⟨token.name, token.parameters, request⟩

namespace Callback

/-- A reference that names no built-in callback. -/
def Dangling : Callback H → Prop
  | builtin name => ∀ found : Builtin, found.name ≠ name
  | handler _ | fixed _ => False

/-- Exactly the references that name nothing cannot be called. -/
theorem isInvocable_eq_false_iff {callback : Callback H} :
    callback.isInvocable = false ↔ callback.Dangling := by
  cases callback with
  | handler code => simp [isInvocable, Dangling]
  | fixed text => simp [isInvocable, Dangling]
  | builtin name =>
    rw [isInvocable, Option.isSome_eq_false_iff, Option.isNone_iff_eq_none]
    exact Builtin.ofName?_eq_none_iff

/-- The changes of the registry that a call asks for. Only host code asks for any. -/
def changes (host : Host H σ) (callback : Callback H) (call : Call) (site : Site H σ) :
    List (Registry.Change H) :=
  match callback with
  | handler code => (host.respond code call site.registry site.memory).changes
  | fixed _ | builtin _ => []

/-- A call leaves the registry with the changes that the host made during it. -/
theorem registry_invoke (host : Host H σ) (callback : Callback H) (call : Call)
    (site : Site H σ) :
    (callback.invoke host call site).site.registry =
      site.registry.applyAll (callback.changes host call site) := by
  cases callback <;> rfl

end Callback

/-- A definition that is called for a name: the name is that of a token, the definition is
registered under it, and its callback is no reference that names nothing. -/
structure Registry.Offers (registry : Registry H) (name : Text) (definition : Definition H) :
    Prop where
  named : isTokenName name = true
  registered : registry.lookup name = some definition
  sound : ¬ definition.callback.Dangling

/-- At most one definition is offered under a name. -/
theorem Registry.Offers.unique {registry : Registry H} {name : Text}
    {first second : Definition H} (one : registry.Offers name first)
    (other : registry.Offers name second) : first = second :=
  Option.some.inj (one.registered.symm.trans other.registered)

/-- What comes of a call at the site of its moment. -/
def Invocation.reply (host : Host H σ) (invocation : Invocation H) (site : Site H σ) :
    Reply H σ :=
  invocation.definition.callback.invoke host invocation.call site

namespace Site

/-- The site that calls leave, one after the other. -/
def after (host : Host H σ) (calls : List (Invocation H)) (site : Site H σ) : Site H σ :=
  calls.foldl (fun site invocation => (invocation.reply host site).site) site

/-- A site goes through invocations one list after the other. -/
theorem after_append (host : Host H σ) (first second : List (Invocation H)) (site : Site H σ) :
    site.after host (first ++ second) = (site.after host first).after host second :=
  List.foldl_append

/-- The changes of the registry that calls ask for, one after the other. -/
def changesOf (host : Host H σ) : List (Invocation H) → Site H σ → List (Registry.Change H)
  | [], _ => []
  | invocation :: rest, site =>
    invocation.definition.callback.changes host invocation.call site ++
      changesOf host rest (invocation.reply host site).site

/-- Calls leave the registry with the changes that their code asks for, and no other. -/
theorem registry_after (host : Host H σ) (calls : List (Invocation H)) (site : Site H σ) :
    (site.after host calls).registry = site.registry.applyAll (changesOf host calls site) := by
  induction calls generalizing site with
  | nil => rfl
  | cons invocation rest inductionHypothesis =>
    have step := Callback.registry_invoke host invocation.definition.callback invocation.call site
    calc (site.after host (invocation :: rest)).registry
        = ((invocation.reply host site).site.after host rest).registry := rfl
      _ = (invocation.reply host site).site.registry.applyAll
            (changesOf host rest (invocation.reply host site).site) := inductionHypothesis _
      _ = site.registry.applyAll (changesOf host (invocation :: rest) site) := by
        rw [Invocation.reply, step]
        exact List.foldl_append.symm

end Site

namespace Diagnostic

/-- Whether the callback of the token was called. -/
def called (diagnostic : Diagnostic) : Bool :=
  match diagnostic.obstacle with
  | none | some (.failed _) => true
  | some .invalidName | some .noCallback | some .invalidCallback => false

end Diagnostic

namespace Engine

variable (engine : Engine H σ) (request : Request)

/-- The ways in which a token can be resolved at a site. -/
inductive Resolves (token : Token) (site : Site H σ) : Resolution H σ → Prop
  | unnamed (refused : isTokenName token.name = false) :
      Resolves token site (.refused token.name .invalidName site)
  | unregistered (named : isTokenName token.name = true)
      (absent : site.registry.lookup token.name = none) :
      Resolves token site (.refused token.name .noCallback site)
  | dangling (definition : Definition H) (named : isTokenName token.name = true)
      (registered : site.registry.lookup token.name = some definition)
      (dangling : definition.callback.Dangling) :
      Resolves token site (.refused token.name .invalidCallback site)
  | called (definition : Definition H) (offered : site.registry.Offers token.name definition) :
      Resolves token site (.answered ⟨definition, token.call request⟩
        (Invocation.reply engine.host ⟨definition, token.call request⟩ site))

/-- There is no other way to resolve a token. -/
theorem resolves_resolve (token : Token) (site : Site H σ) :
    engine.Resolves request token site (engine.resolve token request site) := by
  unfold resolve
  cases named : isTokenName token.name with
  | false => exact .unnamed named
  | true =>
    cases registered : site.registry.lookup token.name with
    | none => exact .unregistered named registered
    | some definition =>
      cases valid : definition.callbackValid with
      | false =>
        simpa [valid] using
          Resolves.dangling definition named registered (Callback.isInvocable_eq_false_iff.mp valid)
      | true =>
        have sound : ¬ definition.callback.Dangling := by
          rw [← Callback.isInvocable_eq_false_iff, ← Definition.callbackValid, valid]
          simp
        simp only [Bool.not_true, Bool.false_eq_true, if_false, valid]
        exact .called definition ⟨named, registered, sound⟩

/-- What is reported of an occurrence that is resolved at a site, and the calls made for it. -/
structure Dispatches (site : Site H σ) (occurrence : Occurrence) (diagnostic : Diagnostic)
    (calls : List (Invocation H)) : Prop where
  invalidName : diagnostic.obstacle = some .invalidName ↔
    occurrence.name = [] ∨ ∃ char ∈ occurrence.name, ¬ IsNameCharacter char
  noCallback : diagnostic.obstacle = some .noCallback ↔
    isTokenName occurrence.name = true ∧ site.registry.lookup occurrence.name = none
  invalidCallback : diagnostic.obstacle = some .invalidCallback ↔
    isTokenName occurrence.name = true ∧ ∃ definition,
      site.registry.lookup occurrence.name = some definition ∧ definition.callback.Dangling
  succeeded : diagnostic.obstacle = none ↔
    ∃ definition, site.registry.Offers occurrence.name definition ∧ ∃ text,
      (Invocation.reply engine.host ⟨definition, occurrence.token.call request⟩ site).result =
        .ok text
  failed : ∀ failure, diagnostic.obstacle = some (.failed failure) ↔
    ∃ definition, site.registry.Offers occurrence.name definition ∧
      (Invocation.reply engine.host ⟨definition, occurrence.token.call request⟩ site).result =
        .error failure
  /-- The message of host code that fails is reported as it is. -/
  reported : ∀ definition code message, site.registry.Offers occurrence.name definition →
    definition.callback = .handler code →
    (engine.host.respond code (occurrence.token.call request) site.registry
      site.memory).result = .error message → diagnostic.detail? = some message
  once : ∀ definition, site.registry.Offers occurrence.name definition →
    calls = [⟨definition, occurrence.token.call request⟩]
  never : (∀ definition, ¬ site.registry.Offers occurrence.name definition) → calls = []

theorem obstacle?_refused (name : Text) (obstacle : Obstacle) (site : Site H σ) :
    (Resolution.refused name obstacle site).obstacle? = some obstacle := rfl

/-- A call that was made has an obstacle only if it failed. -/
theorem obstacle?_answered (invocation : Invocation H) (reply : Reply H σ) :
    (Resolution.answered invocation reply).obstacle? =
      match reply.result with
      | .ok _ => none
      | .error failure => some (.failed failure) := by
  unfold Resolution.answered
  cases reply.result <;> rfl

theorem calls_answered (invocation : Invocation H) (reply : Reply H σ) :
    (Resolution.answered invocation reply).calls = [invocation] := by
  unfold Resolution.answered
  cases reply.result <;> rfl

theorem site_answered (invocation : Invocation H) (reply : Reply H σ) :
    (Resolution.answered invocation reply).site = reply.site := by
  unfold Resolution.answered
  cases reply.result <;> rfl

variable {engine request} {occurrence : Occurrence} {site : Site H σ}

/-- A token without an offer is reported with the obstacle that says why, and nothing is called. -/
theorem dispatches_of_unoffered {obstacle : Obstacle}
    (unoffered : ∀ definition, ¬ site.registry.Offers occurrence.name definition)
    (invalidName : obstacle = .invalidName ↔ isTokenName occurrence.name = false)
    (noCallback : obstacle = .noCallback ↔
      isTokenName occurrence.name = true ∧ site.registry.lookup occurrence.name = none)
    (invalidCallback : obstacle = .invalidCallback ↔
      isTokenName occurrence.name = true ∧ ∃ definition,
        site.registry.lookup occurrence.name = some definition ∧ definition.callback.Dangling)
    (unanswered : ∀ failure, obstacle ≠ .failed failure) :
    engine.Dispatches request site occurrence
      ((Resolution.refused occurrence.name obstacle site).diagnostic occurrence) [] where
  invalidName := by
    rw [← isTokenName_eq_false_iff, ← invalidName, Resolution.diagnostic, obstacle?_refused,
      Option.some.injEq]
  noCallback := by
    rw [← noCallback, Resolution.diagnostic, obstacle?_refused, Option.some.injEq]
  invalidCallback := by
    rw [← invalidCallback, Resolution.diagnostic, obstacle?_refused, Option.some.injEq]
  succeeded := by
    simp [Resolution.diagnostic, obstacle?_refused, unoffered]
  failed := by
    simp [Resolution.diagnostic, obstacle?_refused, unoffered, unanswered]
  reported := fun definition _ _ offered => absurd offered (unoffered definition)
  once := fun definition offered => absurd offered (unoffered definition)
  never := fun _ => rfl

/-- A token with an offer is called once, and reported as its call went. -/
theorem dispatches_of_offers {definition : Definition H}
    (offered : site.registry.Offers occurrence.name definition) :
    let invocation : Invocation H := ⟨definition, occurrence.token.call request⟩
    engine.Dispatches request site occurrence
      ((Resolution.answered invocation (invocation.reply engine.host site)).diagnostic occurrence)
      [invocation] := by
  intro invocation
  have only : ∀ other, site.registry.Offers occurrence.name other ↔ other = definition := by
    intro other
    constructor
    · exact fun offers => offers.unique offered
    · rintro rfl
      exact offered
  have obstacle : ((Resolution.answered invocation
      (invocation.reply engine.host site)).diagnostic occurrence).obstacle =
        match (invocation.reply engine.host site).result with
        | .ok _ => none
        | .error failure => some (.failed failure) := obstacle?_answered _ _
  constructor
  · rw [obstacle, ← isTokenName_eq_false_iff, offered.named]
    split <;> simp
  · rw [obstacle, offered.registered]
    split <;> simp
  · rw [obstacle, offered.registered]
    have sound := offered.sound
    split <;> simp [sound]
  · rw [obstacle]
    simp only [only, exists_eq_left]
    cases (invocation.reply engine.host site).result <;> simp
  · intro failure
    rw [obstacle]
    simp only [only, exists_eq_left]
    cases (invocation.reply engine.host site).result <;> simp
  · intro other code message offers handled answer
    obtain rfl := (only other).mp offers
    have failed : (invocation.reply engine.host site).result = .error (.reported message) := by
      simp only [invocation, Invocation.reply, handled, Callback.invoke, answer, Except.mapError]
    rw [Diagnostic.detail?, obstacle, failed]
    rfl
  · intro other offers
    obtain rfl := (only other).mp offers
    rfl
  · intro unoffered
    exact absurd offered (unoffered definition)

/-- The diagnostic and the calls of a resolution follow from the site of its moment. -/
theorem dispatches_resolve (occurrence : Occurrence) (site : Site H σ) :
    engine.Dispatches request site occurrence
      ((engine.resolve occurrence.token request site).diagnostic occurrence)
      (engine.resolve occurrence.token request site).calls := by
  have resolves := engine.resolves_resolve request occurrence.token site
  generalize engine.resolve occurrence.token request site = resolution at resolves
  cases resolves with
  | unnamed refused =>
    replace refused : isTokenName occurrence.name = false := refused
    refine dispatches_of_unoffered ?_ ?_ ?_ ?_ nofun
    · intro definition offers
      simpa [refused] using offers.named
    all_goals simp [refused]
  | unregistered named absent =>
    replace named : isTokenName occurrence.name = true := named
    replace absent : site.registry.lookup occurrence.name = none := absent
    refine dispatches_of_unoffered ?_ ?_ ?_ ?_ nofun
    · intro definition offers
      simpa [absent] using offers.registered
    all_goals simp [named, absent]
  | dangling definition named registered dangling =>
    replace named : isTokenName occurrence.name = true := named
    replace registered : site.registry.lookup occurrence.name = some definition := registered
    refine dispatches_of_unoffered ?_ ?_ ?_ ?_ nofun
    · intro other offers
      obtain rfl := Option.some.inj (registered.symm.trans offers.registered)
      exact offers.sound dangling
    all_goals simp [named, registered, dangling]
  | called definition offered =>
    rw [calls_answered]
    exact dispatches_of_offers offered

/-- A token is resolved at the cost of its calls: nothing else changes the site. -/
theorem site_resolve (token : Token) (site : Site H σ) :
    (engine.resolve token request site).site =
      site.after engine.host (engine.resolve token request site).calls := by
  have resolves := engine.resolves_resolve request token site
  generalize engine.resolve token request site = resolution at resolves
  cases resolves with
  | unnamed refused => rfl
  | unregistered named absent => rfl
  | dangling definition named registered dangling => rfl
  | called definition offered =>
    rw [calls_answered, site_answered]
    rfl

variable (engine request)

/-- Each diagnostic of occurrences comes from resolving one of them at some moment. -/
theorem exists_of_mem_diagnostics {found : List Occurrence} {site : Site H σ}
    {diagnostic : Diagnostic}
    (member : diagnostic ∈ List.zipWith Resolution.diagnostic found
      (engine.resolutions request found site)) :
    ∃ occurrence ∈ found, ∃ moment : Site H σ,
      diagnostic = (engine.resolve occurrence.token request moment).diagnostic occurrence := by
  induction found generalizing site with
  | nil => contradiction
  | cons occurrence rest inductionHypothesis =>
    rcases List.mem_cons.mp member with same | inRest
    · exact ⟨occurrence, List.mem_cons_self, site, same⟩
    · obtain ⟨later, inFound, moment, same⟩ := inductionHypothesis inRest
      exact ⟨later, List.mem_cons_of_mem _ inFound, moment, same⟩

/-- Occurrences leave the site that the calls made for them leave. -/
theorem siteAfter_eq_after (found : List Occurrence) (site : Site H σ) :
    engine.siteAfter request found site =
      site.after engine.host
        ((engine.resolutions request found site).flatMap Resolution.calls) := by
  induction found generalizing site with
  | nil => rfl
  | cons occurrence rest inductionHypothesis =>
    rw [resolutions, List.flatMap_cons, Site.after_append, ← site_resolve, ← inductionHypothesis]
    rfl

/-- The first occurrences are resolved without regard to the others. -/
theorem take_resolutions (found : List Occurrence) (site : Site H σ) (count : Nat) :
    (engine.resolutions request found site).take count =
      engine.resolutions request (found.take count) site := by
  induction found generalizing site count with
  | nil => simp [resolutions]
  | cons occurrence rest inductionHypothesis =>
    cases count with
    | zero => rfl
    | succ count => simp only [resolutions, List.take_succ_cons, inductionHypothesis]

end Engine
end PageTokens
