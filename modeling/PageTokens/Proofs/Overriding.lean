import Mathlib.Data.Finset.Card
import PageTokens.Proofs.FiniteMap
import PageTokens.Proofs.Problems

/-!
# What a configuration adds to the tokens of a host

A host may have registered tokens before a configuration is set up over its
registry. `Registry.Overridden` says what is under each name afterwards: the
definition of the table that declares the name, and otherwise what the host has
there. Only one registry is like this.

`ofConfiguration_overrides` states that setting up gives this registry, with a
warning for each declared definition that is not valid, and that the replacer
does what one with the same delimiters and policy does over it.
-/

namespace PageTokens

variable {H σ : Type}

/-- A registry with the definitions that a configuration declares, and under all other names those
of another registry. -/
structure Registry.Overridden (configuration : Configuration) (registry merged : Registry H) :
    Prop where
  declared : ∀ entry ∈ configuration.declaring, ∃ definition,
    merged.lookup entry.1 = some definition ∧ TokenTable.Declares entry definition
  kept : ∀ name, name ∉ configuration.declaring.map Prod.fst →
    merged.lookup name = registry.lookup name

/-- The reason for which a definition is refused. One with a name that no token may have is refused
for it, whatever its callback is. -/
inductive Definition.Refused (definition : Definition H) : RegistrationError → Prop
  | misnamed (refused : isTokenName definition.name = false) :
      Refused definition (.invalidName definition.name)
  | dangling (named : isTokenName definition.name = true) (reference : Text)
      (callback : definition.callback = .builtin reference)
      (strange : ∀ known : Builtin, known.name ≠ reference) :
      Refused definition (.invalidCallback definition.name reference)

/-- The replacer of a setup does with a text, and with everything that a host does one after the
other, what another replacer does over a registry, whatever the memory of the host code is. -/
structure Setup.Matches (setup : Setup H σ) (other : Replacer H σ) (registry : Registry H) :
    Prop where
  substitute : ∀ request text memory,
    setup.replacer.substitute request text ⟨setup.registry, memory⟩ =
      other.substitute request text ⟨registry, memory⟩
  replaceTokens : ∀ request text memory,
    setup.replacer.replaceTokens request text ⟨setup.registry, memory⟩ =
      other.replaceTokens request text ⟨registry, memory⟩
  afterRender : ∀ request page memory,
    setup.replacer.afterRender request page ⟨setup.registry, memory⟩ =
      other.afterRender request page ⟨registry, memory⟩
  performAll : ∀ operations memory,
    setup.replacer.performAll operations ⟨setup.registry, memory⟩ =
      other.performAll operations ⟨registry, memory⟩
  example? : ∀ token, setup.replacer.example? token = other.example? token
  policy : setup.replacer.policy = other.policy
  operational : setup.replacer.isOperational = other.isOperational

/-- A table that sets one callback declares one definition. -/
theorem TokenTable.Declares.unique {entry : Text × TokenTable} {first second : Definition H}
    (sets : entry.2.SetsOne) (one : Declares entry first) (other : Declares entry second) :
    first = second := by
  have names : first.name = second.name := one.name.trans other.name.symm
  have descriptions := one.description.trans other.description.symm
  have callbacks : first.callback = second.callback := by
    cases fixed : entry.2.fixed with
    | some text => exact ((one.fixed text).mpr fixed).trans ((other.fixed text).mpr fixed).symm
    | none =>
      cases builtin : entry.2.builtin with
      | some reference =>
        exact ((one.builtin reference).mpr builtin).trans
          ((other.builtin reference).mpr builtin).symm
      | none => simp [SetsOne, fixed, builtin] at sets
  obtain ⟨name, callback, description⟩ := first
  exact Definition.mk.injEq .. ▸ ⟨names, callbacks, descriptions⟩

/-- A definition is refused for a reason exactly when the check gives it. -/
theorem Definition.problem?_eq_some_iff {definition : Definition H} {error : RegistrationError} :
    definition.problem? = some error ↔ definition.Refused error := by
  constructor
  · intro found
    unfold problem? at found
    split at found
    · next refused =>
      exact Option.some.inj found ▸ .misnamed (by simpa [nameValid] using refused)
    · next named =>
      split at found
      · next reference callback =>
        split at found
        · contradiction
        · next strange =>
          rw [Option.not_isSome_iff_eq_none, Builtin.ofName?_eq_none_iff] at strange
          exact Option.some.inj found ▸
            .dangling (by simpa [nameValid] using named) reference callback strange
      · contradiction
      · contradiction
  · intro refused
    cases refused with
    | misnamed refused => simp [problem?, nameValid, refused]
    | dangling named reference callback strange =>
      simp [problem?, nameValid, named, callback, Builtin.ofName?_eq_none_iff.mpr strange]

namespace Registry

variable {registry merged : Registry H} {configuration : Configuration}

/-- The names of a registry are those that it has definitions for. -/
theorem mem_names_iff {name : Text} :
    name ∈ registry.names ↔ ∃ definition, registry.lookup name = some definition := by
  rw [names, ← Dictionary.contains_iff_mem_keys]
  exact Option.isSome_iff_exists

/-- A registry has one definition for each name. -/
theorem size_eq_card (registry : Registry H) : registry.size = registry.names.toFinset.card := by
  rw [List.toFinset_card_of_nodup ((ascending_names registry).imp fun before => ne_of_lt before)]
  exact (List.length_map _).symm

/-- The warnings are the reasons for which definitions are refused, in the order of these. -/
theorem forall₂_warnings (definitions : List (Definition H)) :
    List.Forall₂ (fun definition error => definition.problem? = some error ∧
        definition.Refused error)
      (definitions.filter fun definition => ¬ definition.isValid)
      (definitions.flatMap Registry.warnings) := by
  induction definitions with
  | nil => exact .nil
  | cons definition rest inductionHypothesis =>
    rw [List.flatMap_cons, warnings]
    cases found : definition.problem? with
    | none =>
      have valid := Definition.problem?_eq_none_iff.mp found
      rw [List.filter_cons_of_neg (by simpa using valid)]
      exact inductionHypothesis
    | some error =>
      have invalid : ¬ definition.isValid = true := by
        rw [← Definition.problem?_eq_none_iff, found]
        exact Option.some_ne_none error
      rw [List.filter_cons_of_pos (by simpa using invalid)]
      exact .cons ⟨found, Definition.problem?_eq_some_iff.mp found⟩ inductionHypothesis

/-- Definitions that are registered leniently come before what was there. -/
theorem lookup_applyAll_definitions (registry : Registry H) (configuration : Configuration)
    (name : Text) :
    (registry.applyAll (configuration.definitions.map Change.registerLenient)).lookup name =
      (Dictionary.find? name
        (configuration.definitions.map fun definition => (definition.name, definition))).or
          (registry.lookup name) := by
  rw [lookup, definitions_applyAll_registerLenient,
    Dictionary.get?_foldl_insert _ _ configuration.definitions_ascending]
  rfl

/-- The definitions of a configuration are put over those of a registry. -/
theorem overridden_applyAll (registry : Registry H) (configuration : Configuration) :
    Overridden configuration registry
      (registry.applyAll (configuration.definitions.map Change.registerLenient)) := by
  constructor
  · intro entry declares
    obtain ⟨inTables, sets⟩ := configuration.mem_declaring_iff.mp declares
    obtain ⟨definition, found⟩ := TokenTable.isSome_definition? (H := H) sets
    refine ⟨definition, ?_, TokenTable.declares_of_definition? found⟩
    have listed := Configuration.mem_definitions_iff.mpr ⟨entry, inTables, found⟩
    rw [lookup_applyAll_definitions, ← TokenTable.name_of_definition? found,
      (Dictionary.find?_eq_some_iff configuration.definitions_ascending).mpr
        (List.mem_map_of_mem listed), Option.some_or]
  · intro name undeclared
    have absent : Dictionary.find? name (configuration.definitions.map
        fun definition : Definition H => (definition.name, definition)) = none := by
      rw [Dictionary.find?_eq_none_iff, List.map_map]
      intro listed
      obtain ⟨definition, declared, rfl⟩ := List.mem_map.mp listed
      obtain ⟨entry, inTables, found⟩ := Configuration.mem_definitions_iff.mp declared
      have sets : entry.2.SetsOne := by
        by_contra offends
        rw [TokenTable.definition?_eq_none_iff.mpr offends] at found
        contradiction
      exact undeclared (List.mem_map.mpr ⟨entry, configuration.mem_declaring_iff.mpr
        ⟨inTables, sets⟩, (TokenTable.name_of_definition? found).symm⟩)
    rw [lookup_applyAll_definitions, absent, Option.none_or]

namespace Overridden

/-- Only one registry has the definitions of a configuration over those of a registry. -/
theorem unique {other : Registry H} (here : Overridden configuration registry merged)
    (there : Overridden configuration registry other) : merged = other := by
  obtain ⟨definitions⟩ := merged
  obtain ⟨others⟩ := other
  refine congrArg Registry.mk (Dictionary.ext fun name => ?_)
  -- A table decides under the name that it declares, the other registry under every other name.
  by_cases listed : name ∈ configuration.declaring.map Prod.fst
  · obtain ⟨entry, declares, rfl⟩ := List.mem_map.mp listed
    obtain ⟨one, foundHere, declaresOne⟩ := here.declared entry declares
    obtain ⟨two, foundThere, declaresTwo⟩ := there.declared entry declares
    obtain rfl := declaresOne.unique (configuration.mem_declaring_iff.mp declares).2 declaresTwo
    exact foundHere.trans foundThere.symm
  · exact (here.kept name listed).trans (there.kept name listed).symm

/-- The merged names are the old ones and the declared ones. -/
theorem mem_names_iff (overridden : Overridden configuration registry merged) {name : Text} :
    name ∈ merged.names ↔ name ∈ registry.names ∨ name ∈ configuration.declaring.map Prod.fst := by
  rw [Registry.mem_names_iff, Registry.mem_names_iff]
  by_cases listed : name ∈ configuration.declaring.map Prod.fst
  · refine iff_of_true ?_ (.inr listed)
    obtain ⟨entry, declares, rfl⟩ := List.mem_map.mp listed
    obtain ⟨definition, found, -⟩ := overridden.declared entry declares
    exact ⟨definition, found⟩
  · rw [overridden.kept name listed, or_iff_left listed]

/-- The names are those of both sides, each counted once. -/
theorem size_eq (overridden : Overridden configuration registry merged) :
    merged.size =
      (registry.names.toFinset ∪ (configuration.declaring.map Prod.fst).toFinset).card := by
  rw [size_eq_card]
  congr 1
  ext name
  rw [Finset.mem_union, List.mem_toFinset, List.mem_toFinset, List.mem_toFinset,
    overridden.mem_names_iff]

end Overridden
end Registry

/-- A replacer with the same hook over the same registry does the same. -/
theorem Setup.matches_of_hook_eq {setup : Setup H σ} {other : Replacer H σ}
    (same : setup.replacer.hook = other.hook) : setup.Matches other setup.registry := by
  have substitute : setup.replacer.substitute = other.substitute := by
    unfold Replacer.substitute
    rw [same]
  have afterRender : setup.replacer.afterRender = other.afterRender := by
    unfold Replacer.afterRender
    rw [same]
  have perform : setup.replacer.perform = other.perform := by
    funext site operation
    cases operation <;> simp only [Replacer.perform, substitute, afterRender]
  constructor
  · exact fun _ _ _ => by rw [substitute]
  · exact fun _ _ _ => by rw [Replacer.replaceTokens, Replacer.replaceTokens, substitute]
  · exact fun _ _ _ => by rw [afterRender]
  · exact fun _ _ => by rw [Replacer.performAll, Replacer.performAll, perform]
  · exact fun _ => by rw [Replacer.example?, Replacer.example?, Replacer.delimiters?,
      Replacer.delimiters?, same]
  · rw [Replacer.policy, Replacer.policy, same]
  · rw [Replacer.isOperational, Replacer.isOperational, same]

/-- Setting up a configuration over the registry of a host puts the declared definitions in the
place of those of the same names and leaves all others as they are; each name counts once. There is
one warning for each declared definition that is not valid, in ascending order of the names. With
delimiters that can be used, the replacer does what one that is made of these delimiters and the
policy does over the registry that holds both. -/
theorem Replacer.ofConfiguration_overrides (host : Host H σ) (configuration : Configuration)
    (registry : Registry H) :
    let setup := ofConfiguration host configuration registry
    let declaring := configuration.declaring
    (∀ merged, registry.Overridden configuration merged ↔ merged = setup.registry) ∧
      setup.registry.size =
        (registry.names.toFinset ∪ (declaring.map Prod.fst).toFinset).card ∧
      (∃ definitions : List (Definition H),
        List.Forall₂ TokenTable.Declares declaring definitions ∧
          definitions.Pairwise (fun left right => left.name.bytes < right.name.bytes) ∧
          List.Forall₂ (fun definition error => definition.problem? = some error ∧
              definition.Refused error)
            (definitions.filter fun definition => ¬ definition.isValid) setup.replacer.warnings) ∧
      ∀ delimiters, Delimiters.ofMarks configuration.marks = .ok delimiters →
        ∀ merged, registry.Overridden configuration merged →
          setup.Matches (ofDelimiters host delimiters configuration.policy) merged := by
  intro setup declaring
  have overridden : registry.Overridden configuration setup.registry :=
    registry.overridden_applyAll configuration
  refine ⟨fun merged => ⟨fun here => here.unique overridden, ?_⟩, overridden.size_eq,
    ⟨configuration.definitions, configuration.forall₂_declaring H, ?_,
      Registry.forall₂_warnings _⟩, fun delimiters built merged here => ?_⟩
  · rintro rfl
    exact overridden
  · refine (List.pairwise_map.mp configuration.definitions_ascending).imp fun before => ?_
    exact Text.bytes_lt_bytes_iff.mpr before
  · obtain rfl := here.unique overridden
    refine Setup.matches_of_hook_eq ?_
    simp only [setup, ofConfiguration, ofDelimiters, built, Except.toOption, Option.map_some]

/-- One of two tokens of a host is declared anew, and a table that sets nothing leaves the other. -/
example :
    let registry : Registry Empty := Registry.empty.applyAll
      [.register ⟨"site".toList, .fixed "a".toList, none⟩,
        .register ⟨"year".toList, .fixed "b".toList, none⟩]
    let tokens := Dictionary.ofList [("site".toList, TokenTable.mk (some "c".toList) none none),
      ("year".toList, ⟨none, none, none⟩)]
    (Replacer.ofConfiguration Host.none ⟨.standard, .standard, tokens⟩ registry).registry.list =
      (registry.insert ⟨"site".toList, .fixed "c".toList, none⟩).list := by
  decide +kernel

end PageTokens
