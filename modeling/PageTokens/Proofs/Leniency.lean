import PageTokens.Proofs.Changes
import PageTokens.Proofs.Declared

/-!
# Strict and lenient registration over time

In the course of time a host changes its registry and has texts replaced, and
the code that is called changes the registry as well. `Site.changesIn` lists all
these changes in their order. Every token of every pass is resolved when some of
the first of them have been made (`exists_moment`), so what holds of the
registry after any number of changes holds whenever a token is resolved.

`registrations_contained` draws three conclusions: strict registrations keep
every listed token sound, a definition whose name is not valid is never called,
and to code that leaves the registry alone it makes no difference.
-/

namespace PageTokens

variable {H σ : Type}

/-- What happens to a registry: its host changes it, or the tokens of a text are replaced. -/
inductive Action (H : Type)
  | change (change : Registry.Change H)
  | pass (delimiters : Delimiters) (request : Request) (text : Text)

namespace Action

variable (host : Host H σ) (site : Site H σ)

/-- The pass that an action is, if it is one. -/
def pass? : Action H → Option (Pass H σ)
  | change _ => none
  | pass delimiters request text => some (Engine.substitute ⟨host, delimiters⟩ request text site)

/-- The site that an action leaves. -/
def next : Action H → Site H σ
  | change made => ⟨made.apply site.registry, site.memory⟩
  | pass delimiters request text =>
    (Engine.substitute ⟨host, delimiters⟩ request text site).site

/-- The changes of the registry that an action makes or that the calls in it ask for. -/
def changes : Action H → List (Registry.Change H)
  | change made => [made]
  | pass delimiters request text =>
    Site.changesOf host (Engine.substitute ⟨host, delimiters⟩ request text site).calls site

end Action

namespace Site

variable (host : Host H σ)

/-- The site that actions leave, one after the other. -/
def run (actions : List (Action H)) (site : Site H σ) : Site H σ :=
  actions.foldl (Action.next host) site

/-- The passes among actions that are taken one after the other. -/
def passes : List (Action H) → Site H σ → List (Pass H σ)
  | [], _ => []
  | action :: rest, site => (action.pass? host site).toList ++ passes rest (action.next host site)

/-- The changes of the registry in the course of actions that are taken one after the other. -/
def changesIn : List (Action H) → Site H σ → List (Registry.Change H)
  | [], _ => []
  | action :: rest, site => action.changes host site ++ changesIn rest (action.next host site)

variable {host}

/-- Invocations make their changes one list after the other. -/
theorem changesOf_append (first second : List (Invocation H)) (site : Site H σ) :
    changesOf host (first ++ second) site =
      changesOf host first site ++ changesOf host second (site.after host first) := by
  induction first generalizing site with
  | nil => rfl
  | cons invocation rest inductionHypothesis =>
    rw [List.cons_append, changesOf, inductionHypothesis, changesOf, List.append_assoc]
    rfl

/-- An action leaves the registry with the changes that were made during it. -/
theorem registry_next (action : Action H) (site : Site H σ) :
    (action.next host site).registry = site.registry.applyAll (action.changes host site) := by
  cases action with
  | change made => rfl
  | pass delimiters request text =>
    rw [Action.next, Engine.substitute_site, Engine.siteAfter_eq_after, Action.changes,
      Engine.substitute_invocations]
    exact registry_after host _ site

/-- Actions leave the registry with the changes made in their course, and no other. -/
theorem registry_run (actions : List (Action H)) (site : Site H σ) :
    (site.run host actions).registry = site.registry.applyAll (changesIn host actions site) := by
  induction actions generalizing site with
  | nil => rfl
  | cons action rest inductionHypothesis =>
    rw [run, List.foldl_cons, ← run, inductionHypothesis, registry_next, changesIn,
      Registry.applyAll_append]

end Site

namespace Engine

variable {engine : Engine H σ} {request : Request} {found : List Occurrence} {site : Site H σ}

/-- Each of some occurrences is resolved at the site that some of the first calls leave. -/
theorem exists_calls_before {step : Occurrence × Resolution H σ}
    (member : step ∈ found.zip (engine.resolutions request found site)) :
    ∃ calls, calls <+: (engine.resolutions request found site).flatMap Resolution.calls ∧
      step.2 = engine.resolve step.1.token request (site.after engine.host calls) := by
  obtain ⟨index, inZip⟩ := List.mem_iff_getElem?.mp member
  obtain ⟨inFound, resolved⟩ := List.getElem?_zip_eq_some.mp inZip
  rw [getElem?_resolutions, inFound, Option.map_some, siteAfter_eq_after,
    ← take_resolutions] at resolved
  refine ⟨_, ?_, (Option.some.inj resolved).symm⟩
  exact (List.take_prefix index _).flatMap _

end Engine

namespace Site

/-- A site whose registry some of the first changes in the course of actions have left. -/
def InCourse (host : Host H σ) (actions : List (Action H)) (site moment : Site H σ) : Prop :=
  ∃ earlier, earlier <+: changesIn host actions site ∧
    moment.registry = site.registry.applyAll earlier

variable {host : Host H σ} {actions : List (Action H)} {site : Site H σ} {pass : Pass H σ}

/-- Each pass of a run begins at a registry that the changes before it have left. -/
theorem exists_beginning (member : pass ∈ passes host actions site) :
    ∃ delimiters request text beginning earlier,
      pass = Engine.substitute ⟨host, delimiters⟩ request text beginning ∧
        beginning.registry = site.registry.applyAll earlier ∧
        earlier ++ changesOf host pass.calls beginning <+: changesIn host actions site := by
  induction actions generalizing site with
  | nil => contradiction
  | cons action rest inductionHypothesis =>
    rcases List.mem_append.mp member with here | later
    · cases action with
      | change made => contradiction
      | pass delimiters request text =>
        obtain rfl : pass = Engine.substitute ⟨host, delimiters⟩ request text site := by
          simpa [Action.pass?] using here
        exact ⟨delimiters, request, text, site, [], rfl, rfl, List.prefix_append _ _⟩
    · obtain ⟨delimiters, request, text, beginning, earlier, same, registry, within⟩ :=
        inductionHypothesis later
      refine ⟨delimiters, request, text, beginning, action.changes host site ++ earlier, same,
        ?_, ?_⟩
      · rw [registry, registry_next, Registry.applyAll_append]
      · rw [List.append_assoc]
        exact (List.prefix_append_right_inj _).mpr within

/-- Each token of a pass is resolved in the course of the actions. -/
theorem exists_steps (member : pass ∈ passes host actions site) :
    ∃ steps : List (Occurrence × Resolution H σ),
      pass.diagnostics = steps.map (fun step => step.2.diagnostic step.1) ∧
        pass.calls = steps.flatMap (fun step => step.2.calls) ∧
        ∀ step ∈ steps, ∃ (engine : Engine H σ) (request : Request) (moment : Site H σ),
          InCourse host actions site moment ∧
            step.2 = engine.resolve step.1.token request moment := by
  obtain ⟨delimiters, request, text, beginning, earlier, rfl, registry, within⟩ :=
    exists_beginning member
  let engine : Engine H σ := ⟨host, delimiters⟩
  let found := occurrences delimiters text
  let resolved := engine.resolutions request found beginning
  have calls : (engine.substitute request text beginning).calls =
      resolved.flatMap Resolution.calls := engine.substitute_invocations request text beginning
  have lengths : resolved.length = found.length := engine.length_resolutions request found beginning
  refine ⟨found.zip resolved, ?_, ?_, fun step inSteps => ?_⟩
  · rw [engine.substitute_diagnostics request text beginning, List.zip, List.map_zipWith]
  · rw [calls, ← List.flatMap_map Prod.snd, List.map_snd_zip lengths.le]
  · obtain ⟨before, ⟨after, whole⟩, resolves⟩ := Engine.exists_calls_before inSteps
    -- Before a token come the changes made before the pass and those of the first calls in it.
    refine ⟨engine, request, beginning.after host before,
      ⟨earlier ++ changesOf host before beginning, ?_, ?_⟩, resolves⟩
    · rw [calls, ← whole, changesOf_append, ← List.append_assoc] at within
      exact (List.prefix_append _ _).trans within
    · rw [registry_after, registry, Registry.applyAll_append]

end Site

namespace Registry

/-- Whether a change keeps no definition that strict registration refuses. -/
def Change.isStrict : Change H → Bool
  | register _ | unregister _ => true
  | registerLenient _ => false

/-- A strict change inserts nothing but valid definitions. -/
theorem Change.isValid_of_isStrict {change : Change H} (strict : change.isStrict = true)
    {definition : Definition H} (inserted : change.inserted? = some definition) :
    definition.isValid = true := by
  cases change with
  | register given =>
    obtain ⟨valid, rfl⟩ : given.problem? = none ∧ given = definition := by
      simpa [inserted?] using inserted
    exact Definition.problem?_eq_none_iff.mp valid
  | registerLenient given => contradiction
  | unregister name => contradiction

/-- Every registered definition can replace a token. -/
def Sound (registry : Registry H) : Prop :=
  registry.Holds fun _ definition => definition.isValid = true

/-- Strict changes keep all definitions valid. -/
theorem sound_applyAll {changes : List (Change H)}
    (strict : ∀ change ∈ changes, change.isStrict = true) :
    ((empty : Registry H).applyAll changes).Sound :=
  (holds_empty _).applyAll fun change member _ inserted =>
    change.isValid_of_isStrict (strict change member) inserted

end Registry

namespace Engine

variable {engine : Engine H σ} {request : Request} {occurrence : Occurrence} {moment : Site H σ}

/-- In a sound registry no token is found that cannot be called. -/
theorem obstacle_ne_invalidCallback (sound : moment.registry.Sound) :
    ((engine.resolve occurrence.token request moment).diagnostic occurrence).obstacle ≠
      some .invalidCallback := by
  intro reported
  obtain ⟨-, definition, registered, dangling⟩ :=
    (dispatches_resolve occurrence moment).invalidCallback.mp reported
  have valid : definition.isValid = true := sound _ definition registered
  rw [Definition.isValid, Bool.and_eq_true, Definition.callbackValid] at valid
  rw [← Callback.isInvocable_eq_false_iff, valid.2] at dangling
  contradiction

/-- In a registry of own names only definitions with valid names are called. -/
theorem nameValid_of_mem_calls (own : moment.registry.Own) {invocation : Invocation H}
    (member : invocation ∈ (engine.resolve occurrence.token request moment).calls) :
    invocation.definition.nameValid = true := by
  have dispatches : engine.Dispatches request moment occurrence
      ((engine.resolve occurrence.token request moment).diagnostic occurrence)
      (engine.resolve occurrence.token request moment).calls := dispatches_resolve occurrence moment
  by_cases offered : ∃ definition, moment.registry.Offers occurrence.name definition
  · obtain ⟨definition, offers⟩ := offered
    rw [dispatches.once definition offers, List.mem_singleton] at member
    rw [member, Definition.nameValid, own _ definition offers.registered]
    exact offers.named
  · rw [dispatches.never (not_exists.mp offered)] at member
    contradiction

end Engine

/-- Host code that neither reads nor changes the registry. -/
structure Host.Aloof (host : Host H σ) : Prop where
  reads : ∀ code call registry other memory,
    host.respond code call registry memory = host.respond code call other memory
  changes : ∀ code call registry memory, (host.respond code call registry memory).changes = []

/-- Two sites that are alike to code that leaves the registry alone: they have the same memory,
and the same definitions under the names of tokens. -/
structure Site.Alike (site other : Site H σ) : Prop where
  memory : site.memory = other.memory
  lookup : ∀ name, isTokenName name = true →
    site.registry.lookup name = other.registry.lookup name

/-- Whether an action is more than a lenient registration under a name that is not valid. -/
def Action.isVisible : Action H → Bool
  | change (.registerLenient definition) => definition.nameValid
  | change (.register _) | change (.unregister _) | pass _ _ _ => true

section Alike

variable {host : Host H σ} {site other : Site H σ}

/-- A call of code that leaves the registry alone gives the same at alike sites and leaves them
alike. -/
theorem Site.Alike.invoke (alike : site.Alike other) (aloof : host.Aloof)
    (callback : Callback H) (call : Call) :
    (callback.invoke host call site).result = (callback.invoke host call other).result ∧
      (callback.invoke host call site).site.Alike (callback.invoke host call other).site := by
  cases callback with
  | handler code =>
    have same : host.respond code call site.registry site.memory =
        host.respond code call other.registry other.memory := by
      rw [alike.memory]
      exact aloof.reads code call _ _ _
    simp only [Callback.invoke, same, aloof.changes]
    exact ⟨trivial, rfl, alike.lookup⟩
  | fixed text => exact ⟨rfl, alike⟩
  | builtin name => exact ⟨rfl, alike⟩

/-- At sites that look alike to tokens a token fares alike, and they look alike afterwards. -/
theorem Site.Alike.resolve (alike : site.Alike other) (engine : Engine H σ)
    (aloof : engine.host.Aloof) (request : Request) (token : Token) :
    (engine.resolve token request site).result = (engine.resolve token request other).result ∧
      (engine.resolve token request site).site.Alike
        (engine.resolve token request other).site := by
  constructor
  · refine engine.result_resolve_congr (fun named => ?_)
      fun _ callback _ => (alike.invoke aloof callback _).1
    rw [Registry.callback?, Registry.callback?, alike.lookup token.name named]
  · unfold Engine.resolve
    cases named : isTokenName token.name with
    | false => exact alike
    | true =>
      rw [alike.lookup token.name named]
      cases other.registry.lookup token.name with
      | none => exact alike
      | some definition =>
        cases valid : definition.callbackValid with
        | false => simpa [valid, Resolution.refused] using alike
        | true =>
          simp only [Bool.not_true, Bool.false_eq_true, if_false, valid, Engine.site_answered]
          exact (alike.invoke aloof definition.callback _).2

/-- So do the tokens of a whole text. -/
theorem Site.Alike.resolutions (alike : site.Alike other) (engine : Engine H σ)
    (aloof : engine.host.Aloof) (request : Request) (found : List Occurrence) :
    (engine.resolutions request found site).map Resolution.result =
        (engine.resolutions request found other).map Resolution.result ∧
      (engine.siteAfter request found site).Alike (engine.siteAfter request found other) := by
  induction found generalizing site other with
  | nil => exact ⟨rfl, alike⟩
  | cons occurrence rest inductionHypothesis =>
    obtain ⟨result, left⟩ := alike.resolve engine aloof request occurrence.token
    obtain ⟨results, leaves⟩ := inductionHypothesis left
    exact ⟨by rw [Engine.resolutions, Engine.resolutions, List.map_cons, List.map_cons, result,
      results], leaves⟩

end Alike

/-- Combining with items that agree in a key gives the same when nothing but the key matters. -/
theorem zipWith_congr_of_map_eq {Fixed Item Key Result : Type} {key : Item → Key}
    {combine : Fixed → Item → Result} {fixed : List Fixed} {left right : List Item}
    (factors : ∀ one first second, key first = key second →
      combine one first = combine one second)
    (same : left.map key = right.map key) :
    List.zipWith combine fixed left = List.zipWith combine fixed right := by
  induction fixed generalizing left right with
  | nil => rfl
  | cons one rest inductionHypothesis =>
    cases left with
    | nil =>
      obtain rfl : right = [] := by simpa [eq_comm] using same
      rfl
    | cons first left =>
      obtain ⟨second, tail, rfl, here, later⟩ := List.map_eq_cons_iff.mp same.symm
      rw [List.zipWith_cons_cons, List.zipWith_cons_cons, inductionHypothesis later.symm,
        factors one first second here.symm]

namespace Engine

variable {engine : Engine H σ} {request : Request} {text : Text} {site other : Site H σ}

/-- The text and the diagnostics of a pass follow from the results of its tokens. -/
theorem substitute_congr
    (results : (engine.resolutions request (occurrences engine.delimiters text) site).map
        Resolution.result =
      (engine.resolutions request (occurrences engine.delimiters text) other).map
        Resolution.result) :
    (engine.substitute request text site).text = (engine.substitute request text other).text ∧
      (engine.substitute request text site).diagnostics =
        (engine.substitute request text other).diagnostics := by
  constructor
  · rw [substitute_text, substitute_text]
    refine congrArg (Page.spliced _) (zipWith_congr_of_map_eq (fun segment first second same => ?_)
      results)
    rw [Resolution.textOr_eq_getD, Resolution.textOr_eq_getD, same]
  · rw [substitute_diagnostics, substitute_diagnostics]
    refine zipWith_congr_of_map_eq (fun occurrence first second same => ?_) results
    rw [Resolution.diagnostic, Resolution.diagnostic, Resolution.obstacle?_congr same]

end Engine

/-- What a pass shows to whoever asked for it. -/
def Pass.shown (pass : Pass H σ) : Text × List Diagnostic :=
  (pass.text, pass.diagnostics)

namespace Site

variable {host : Host H σ} {site other : Site H σ}

/-- A lenient registration under a name that is not valid leaves the site alike. -/
theorem Alike.next_of_hidden (alike : site.Alike other) {action : Action H}
    (hidden : action.isVisible = false) : (action.next host site).Alike other := by
  match action, hidden with
  | .change (.registerLenient definition), hidden =>
    refine ⟨alike.memory, fun name named => ?_⟩
    -- No token has the name of the definition, so no look-up of a token finds it.
    have different : name ≠ definition.name := by
      rintro rfl
      simp [Action.isVisible, Definition.nameValid, named] at hidden
    rw [← alike.lookup name named]
    exact (Registry.lookup_insert _ _ _).trans (if_neg different)

/-- Every action shows the same at alike sites and leaves them alike. -/
theorem Alike.next (alike : site.Alike other) (aloof : host.Aloof) (action : Action H) :
    (action.pass? host site).map Pass.shown = (action.pass? host other).map Pass.shown ∧
      (action.next host site).Alike (action.next host other) := by
  cases action with
  | change made =>
    refine ⟨rfl, alike.memory, fun name named => ?_⟩
    rw [Action.next, Action.next, Registry.lookup_apply, Registry.lookup_apply,
      alike.lookup name named]
  | pass delimiters request text =>
    let engine : Engine H σ := ⟨host, delimiters⟩
    obtain ⟨results, leaves⟩ :=
      alike.resolutions engine aloof request (occurrences delimiters text)
    obtain ⟨texts, diagnostics⟩ := engine.substitute_congr results
    constructor
    · rw [Action.pass?, Action.pass?, Option.map_some, Option.map_some, Pass.shown, Pass.shown,
        texts, diagnostics]
    · rw [Action.next, Action.next, engine.substitute_site, engine.substitute_site]
      exact leaves

/-- Without the lenient registrations under names that are not valid, the passes show the
same. -/
theorem shown_filter_isVisible (aloof : host.Aloof) (actions : List (Action H))
    (alike : site.Alike other) :
    (passes host actions site).map Pass.shown =
      (passes host (actions.filter Action.isVisible) other).map Pass.shown := by
  induction actions generalizing site other with
  | nil => rfl
  | cons action rest inductionHypothesis =>
    cases visible : action.isVisible with
    | false =>
      rw [List.filter_cons_of_neg (by simp [visible]), passes, List.map_append,
        inductionHypothesis (alike.next_of_hidden visible)]
      match action, visible with
      | .change _, _ => rfl
    | true =>
      obtain ⟨here, later⟩ := alike.next aloof action
      rw [List.filter_cons_of_pos visible, passes, passes, List.map_append, List.map_append,
        inductionHypothesis later, ← Option.toList_map, ← Option.toList_map, here]

end Site

/-- A registry that is empty at first is changed by its host, and by host code in the middle of
passes. As long as all these changes are strict, every listed definition is valid after any number
of them, and no pass reports that a callback cannot be called. Whatever the changes are, no pass
calls a definition whose name is not valid; and lenient registrations of such definitions make no
difference to what passes show, if host code leaves the registry alone. -/
theorem registrations_contained (host : Host H σ) (memory : σ) (actions : List (Action H)) :
    let start : Site H σ := ⟨.empty, memory⟩
    let changes := Site.changesIn host actions start
    let passes := Site.passes host actions start
    (start.run host actions).registry = Registry.empty.applyAll changes ∧
      ((∀ change ∈ changes, change.isStrict = true) →
        (∀ earlier, earlier <+: changes →
          ∀ definition ∈ (Registry.empty.applyAll earlier).list,
            definition.nameValid = true ∧ definition.callbackValid = true) ∧
        ∀ pass ∈ passes, ∀ diagnostic ∈ pass.diagnostics,
          diagnostic.obstacle ≠ some .invalidCallback) ∧
      (∀ pass ∈ passes, ∀ invocation ∈ pass.calls, invocation.definition.nameValid = true) ∧
      (host.Aloof → ∀ other : List (Action H),
        other.filter Action.isVisible = actions.filter Action.isVisible →
          (Site.passes host other start).map Pass.shown = passes.map Pass.shown) := by
  intro start changes passes
  refine ⟨Site.registry_run actions start, fun strict => ⟨?_, ?_⟩, ?_, ?_⟩
  · intro earlier within definition listed
    have sound := Registry.sound_applyAll fun change member =>
      strict change (within.subset member)
    obtain ⟨name, registered⟩ := Registry.mem_list_iff.mp listed
    exact Bool.and_eq_true_iff.mp (sound name definition registered)
  · intro pass inPasses diagnostic reported
    obtain ⟨steps, diagnostics, -, resolved⟩ := Site.exists_steps inPasses
    rw [diagnostics] at reported
    obtain ⟨step, inSteps, rfl⟩ := List.mem_map.mp reported
    obtain ⟨engine, request, moment, ⟨earlier, within, registry⟩, resolves⟩ :=
      resolved step inSteps
    rw [resolves]
    refine Engine.obstacle_ne_invalidCallback ?_
    rw [registry]
    exact Registry.sound_applyAll fun change member => strict change (within.subset member)
  · intro pass inPasses invocation called
    obtain ⟨steps, -, calls, resolved⟩ := Site.exists_steps inPasses
    rw [calls] at called
    obtain ⟨step, inSteps, made⟩ := List.mem_flatMap.mp called
    obtain ⟨engine, request, moment, ⟨earlier, -, registry⟩, resolves⟩ := resolved step inSteps
    rw [resolves] at made
    refine Engine.nameValid_of_mem_calls ?_ made
    rw [registry]
    exact Registry.own_applyAll (Registry.holds_empty _) earlier
  · intro aloof other same
    have alike : start.Alike start := ⟨rfl, fun _ _ => rfl⟩
    -- Both runs show what the actions that they have in common show.
    rw [Site.shown_filter_isVisible aloof other alike, same,
      ← Site.shown_filter_isVisible aloof actions alike]

/-- Host code that registers one token and removes another in the middle of a pass. -/
theorem registrations_contained_midpass :
    let host : Host Unit Unit := ⟨fun _ _ _ memory =>
      ⟨.ok [], [.register ⟨"late".toList, .fixed "new".toList, none⟩, .unregister "old".toList],
        memory⟩⟩
    let actions : List (Action Unit) := [
      .change (.register ⟨"old".toList, .fixed "old".toList, none⟩),
      .change (.register ⟨"code".toList, .handler (), none⟩),
      .pass .standard .plain
        "\x7b\x7bold\x7d\x7d \x7b\x7bcode\x7d\x7d \x7b\x7blate\x7d\x7d \x7b\x7bold\x7d\x7d".toList]
    let passes := Site.passes host actions ⟨.empty, ()⟩
    passes.map Pass.text = ["old  new \x7b\x7bold\x7d\x7d".toList] ∧
      ∀ pass ∈ passes, ∀ diagnostic ∈ pass.diagnostics,
        diagnostic.obstacle ≠ some .invalidCallback := by
  intro host actions passes
  exact ⟨by decide +kernel,
    ((registrations_contained host () actions).2.1 (by decide +kernel)).2⟩

end PageTokens
