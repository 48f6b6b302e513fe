import Mathlib.Data.List.Basic
import PageTokens.CommandLine.Run
import PageTokens.Proofs.Closed
import PageTokens.Proofs.Dispatch

/-!
# What the check of a configuration promises

A configuration is looked at twice. `Configuration.problems` reads its texts and
tables; setting up a replacer builds delimiters and registers definitions, each
with a check of its own. `Setup.Faultless` is what the second look finds when
there is nothing to find, and `Setup.Serves` what a page sees of it: every token
that the configuration declares is answered by a call.

`problems_eq_nil_iff_served` says that the three are one, and that the command
that checks a configuration tells which it is.
-/

namespace PageTokens

variable {H σ : Type}

/-- Definitions that are registered leniently are put in place one after the other. -/
theorem Registry.definitions_applyAll_registerLenient (registry : Registry H)
    (definitions : List (Definition H)) :
    (registry.applyAll (definitions.map Change.registerLenient)).definitions =
      (definitions.map fun definition => (definition.name, definition)).foldl
        (fun dictionary entry => dictionary.insert entry.1 entry.2) registry.definitions := by
  induction definitions generalizing registry with
  | nil => rfl
  | cons definition rest inductionHypothesis =>
    exact inductionHypothesis (registry.insert definition)

/-- Only a callback that names no built-in one cannot be called. -/
theorem Callback.isInvocable_iff {callback : Callback H} :
    callback.isInvocable = true ↔ ¬ callback.Dangling := by
  rw [← isInvocable_eq_false_iff, Bool.not_eq_false]

/-- A token is answered by a call exactly when a definition is called for its name. -/
theorem Engine.calls_resolve_ne_nil_iff (engine : Engine H σ) (token : Token) (request : Request)
    (site : Site H σ) :
    (engine.resolve token request site).calls ≠ [] ↔
      ∃ definition, site.registry.Offers token.name definition := by
  have resolves := engine.resolves_resolve request token site
  generalize engine.resolve token request site = resolution at resolves
  cases resolves with
  | unnamed refused =>
    refine iff_of_false (fun answered => answered rfl) ?_
    rintro ⟨definition, offered⟩
    exact absurd offered.named (by simp [refused])
  | unregistered named absent =>
    refine iff_of_false (fun answered => answered rfl) ?_
    rintro ⟨definition, offered⟩
    exact absurd offered.registered (by simp [absent])
  | dangling definition named registered dangling =>
    refine iff_of_false (fun answered => answered rfl) ?_
    rintro ⟨other, offered⟩
    obtain rfl := Option.some.inj (registered.symm.trans offered.registered)
    exact offered.sound dangling
  | called definition offered =>
    rw [calls_answered]
    exact iff_of_true (List.cons_ne_nil _ _) ⟨definition, offered⟩

namespace TokenTable

/-- The definition in a table that sets exactly one callback. -/
def definition? (entry : Text × TokenTable) : Option (Definition H) :=
  entry.2.callback?.map fun callback => ⟨entry.1, callback, entry.2.description⟩

/-- A definition has the name that its table stands under. -/
theorem name_of_definition? {entry : Text × TokenTable} {definition : Definition H}
    (found : definition? entry = some definition) : definition.name = entry.1 := by
  obtain ⟨callback, -, rfl⟩ := Option.map_eq_some_iff.mp found
  rfl

/-- The name of a table is no problem exactly when it is a name of tokens. -/
theorem nameProblem?_eq_none_iff {name : Text} :
    nameProblem? name = none ↔ isTokenName name = true := by
  simp [nameProblem?]

/-- The callback of a table is no problem exactly when there is one and it can be called. -/
theorem callbackProblem?_eq_none_iff {name : Text} {table : TokenTable} :
    callbackProblem? name table = none ↔
      ∃ callback : Callback H, table.callback? = some callback ∧ callback.isInvocable = true := by
  obtain ⟨fixed, builtin, description⟩ := table
  cases fixed with
  | none =>
    cases builtin with
    | none => simp [callbackProblem?, callback?]
    | some reference =>
      simp [callbackProblem?, callback?, Callback.isInvocable, Option.isSome_iff_ne_none]
  | some text => cases builtin <;> simp [callbackProblem?, callback?, Callback.isInvocable]

/-- Nothing is wrong with a table exactly when it gives a definition that can replace a token. -/
theorem problems_eq_nil_iff {entry : Text × TokenTable} :
    entry.2.problems entry.1 = [] ↔
      ∃ definition : Definition H, definition? entry = some definition ∧
        definition.isValid = true := by
  rw [problems, List.append_eq_nil_iff, Option.toList_eq_nil_iff, Option.toList_eq_nil_iff,
    nameProblem?_eq_none_iff, callbackProblem?_eq_none_iff (H := H)]
  constructor
  · rintro ⟨named, callback, sets, invocable⟩
    refine ⟨⟨entry.1, callback, entry.2.description⟩, by rw [definition?, sets]; rfl, ?_⟩
    simp [Definition.isValid, Definition.nameValid, Definition.callbackValid, named, invocable]
  · rintro ⟨definition, found, valid⟩
    obtain ⟨callback, sets, rfl⟩ := Option.map_eq_some_iff.mp found
    obtain ⟨named, invocable⟩ := Bool.and_eq_true_iff.mp valid
    exact ⟨named, callback, sets, invocable⟩

end TokenTable

namespace Configuration

variable {configuration : Configuration}

/-- The definitions of a configuration are those of its tables, in the order of the names. -/
theorem definitions_eq (configuration : Configuration) :
    configuration.definitions (H := H) =
      configuration.tokens.entries.filterMap TokenTable.definition? := rfl

/-- A configuration has no problems when neither its delimiters nor any of its tables has one. -/
theorem problems_eq_nil_iff :
    configuration.problems = [] ↔ configuration.marks.problems = [] ∧
      ∀ entry ∈ configuration.tokens.entries, entry.2.problems entry.1 = [] := by
  rw [problems, List.append_eq_nil_iff, List.map_eq_nil_iff, List.flatMap_eq_nil_iff]

/-- The definitions of a configuration ascend by their names, as its tables do. -/
theorem definitions_ascending (configuration : Configuration) :
    ((configuration.definitions (H := H)).map
      fun definition => (definition.name, definition)).Pairwise
        (fun left right => left.1 < right.1) := by
  rw [List.pairwise_map, definitions_eq, List.pairwise_filterMap]
  refine configuration.tokens.ascending.imp fun before left foundLeft right foundRight => ?_
  rw [TokenTable.name_of_definition? foundLeft, TokenTable.name_of_definition? foundRight]
  exact before

/-- The definitions have the names of all tables exactly when each table sets one callback. -/
theorem map_name_definitions_eq_keys_iff :
    (configuration.definitions (H := H)).map Definition.name = configuration.tokens.keys ↔
      ∀ entry ∈ configuration.tokens.entries,
        ∃ definition : Definition H, TokenTable.definition? entry = some definition := by
  rw [definitions_eq, List.map_filterMap, Dictionary.keys,
    List.filterMap_eq_map_iff_forall_eq_some]
  refine forall₂_congr fun entry _ => ?_
  constructor
  · intro named
    obtain ⟨definition, found, -⟩ := Option.map_eq_some_iff.mp named
    exact ⟨definition, found⟩
  · rintro ⟨definition, found⟩
    rw [found, Option.map_some, TokenTable.name_of_definition? found]

/-- Each definition of a configuration belongs to one of its tables. -/
theorem mem_definitions_iff {definition : Definition H} :
    definition ∈ configuration.definitions ↔
      ∃ entry ∈ configuration.tokens.entries, TokenTable.definition? entry = some definition := by
  rw [definitions_eq, List.mem_filterMap]

/-- Nothing is wrong with a configuration exactly when its texts can be used, each table gives a
definition, and each definition can replace a token. -/
theorem problems_eq_nil_iff_definitions :
    configuration.problems = [] ↔ configuration.marks.problems = [] ∧
      (configuration.definitions (H := H)).map Definition.name = configuration.tokens.keys ∧
      ∀ definition ∈ configuration.definitions (H := H), definition.isValid = true := by
  simp only [problems_eq_nil_iff, TokenTable.problems_eq_nil_iff (H := H),
    map_name_definitions_eq_keys_iff, mem_definitions_iff]
  refine and_congr_right fun _ => ?_
  constructor
  · intro sound
    constructor
    · intro entry inTables
      obtain ⟨definition, found, -⟩ := sound entry inTables
      exact ⟨definition, found⟩
    · rintro definition ⟨entry, inTables, found⟩
      obtain ⟨other, same, valid⟩ := sound entry inTables
      exact Option.some.inj (found.symm.trans same) ▸ valid
  · rintro ⟨complete, valid⟩ entry inTables
    obtain ⟨definition, found⟩ := complete entry inTables
    exact ⟨definition, found, valid definition ⟨entry, inTables, found⟩⟩

end Configuration

namespace Setup

/-- Nothing went wrong when a replacer was set up for some declared names: it is not closed, no
definition gave a warning, and exactly the declared names are listed, each with a name and a
callback that are valid. -/
structure Faultless (setup : Setup H σ) (declared : List Text) : Prop where
  operational : setup.replacer.isOperational = true
  unwarned : setup.replacer.warnings = []
  complete : setup.registry.names = declared
  valid : ∀ definition ∈ setup.registry.list,
    definition.nameValid = true ∧ definition.callbackValid = true

/-- Tokens can be replaced, and a token with a declared name is always answered by a call. -/
structure Serves (setup : Setup H σ) (declared : List Text) : Prop where
  operational : setup.replacer.isOperational = true
  answered : ∀ hook, setup.replacer.hook = some hook → ∀ (token : Token) (request : Request)
    (memory : σ), token.name ∈ declared →
      (hook.engine.resolve token request ⟨setup.registry, memory⟩).calls ≠ []

end Setup

namespace Replacer

variable (host : Host H σ) (configuration : Configuration)

/-- Over an empty registry a configuration registers its definitions and nothing else. -/
theorem entries_ofConfiguration :
    (ofConfiguration host configuration .empty).registry.definitions.entries =
      configuration.definitions.map fun definition => (definition.name, definition) := by
  have ascending := configuration.definitions_ascending (H := H)
  rw [ofConfiguration, Registry.definitions_applyAll_registerLenient,
    Dictionary.entries_foldl_insert _ (by simpa [Registry.empty, Dictionary.empty] using ascending)]
  rfl

/-- A registry that was empty lists the definitions of the configuration. -/
theorem list_ofConfiguration :
    (ofConfiguration host configuration .empty).registry.list = configuration.definitions := by
  rw [Registry.list, Dictionary.values, entries_ofConfiguration, List.map_map]
  exact List.map_id _

/-- A registry that was empty has the names of these definitions. -/
theorem names_ofConfiguration :
    (ofConfiguration host configuration .empty).registry.names =
      configuration.definitions.map (Definition.name (H := H)) := by
  rw [Registry.names, Dictionary.keys, entries_ofConfiguration, List.map_map]
  rfl

/-- What is found under a name is the definition of this name. -/
theorem lookup_ofConfiguration_eq_some_iff {name : Text} {definition : Definition H} :
    (ofConfiguration host configuration .empty).registry.lookup name = some definition ↔
      definition ∈ configuration.definitions ∧ definition.name = name := by
  rw [Registry.lookup, Dictionary.get?, Dictionary.find?_eq_some_iff (Dictionary.ascending _),
    entries_ofConfiguration, List.mem_map]
  constructor
  · rintro ⟨other, declared, same⟩
    obtain ⟨rfl, rfl⟩ := Prod.mk.inj same
    exact ⟨declared, rfl⟩
  · rintro ⟨declared, rfl⟩
    exact ⟨definition, declared, rfl⟩

/-- Whether tokens can be replaced depends on the delimiters alone. -/
theorem isOperational_ofConfiguration_iff (registry : Registry H) :
    (ofConfiguration host configuration registry).replacer.isOperational = true ↔
      configuration.marks.problems = [] := by
  rw [← Delimiters.isSome_ofMarks_iff]
  simp only [isOperational, ofConfiguration, Option.isSome_map]

/-- Each definition that is not valid gives a warning, and nothing else does. -/
theorem warnings_ofConfiguration_eq_nil_iff (registry : Registry H) :
    (ofConfiguration host configuration registry).replacer.warnings = [] ↔
      ∀ definition ∈ configuration.definitions (H := H), definition.isValid = true := by
  simp only [ofConfiguration, List.flatMap_eq_nil_iff, Registry.warnings,
    Option.toList_eq_nil_iff, Definition.problem?_eq_none_iff]

/-- Setting up a replacer finds nothing exactly when validation finds nothing. -/
theorem faultless_ofConfiguration_iff :
    (ofConfiguration host configuration .empty).Faultless configuration.tokens.keys ↔
      configuration.problems = [] := by
  rw [Configuration.problems_eq_nil_iff_definitions (H := H)]
  constructor
  · rintro ⟨operational, unwarned, complete, -⟩
    rw [isOperational_ofConfiguration_iff] at operational
    rw [warnings_ofConfiguration_eq_nil_iff] at unwarned
    rw [names_ofConfiguration] at complete
    exact ⟨operational, complete, unwarned⟩
  · rintro ⟨usable, complete, valid⟩
    refine ⟨(isOperational_ofConfiguration_iff host configuration .empty).mpr usable,
      (warnings_ofConfiguration_eq_nil_iff host configuration .empty).mpr valid,
      (names_ofConfiguration host configuration).trans complete, ?_⟩
    rw [list_ofConfiguration]
    intro definition declared
    exact Bool.and_eq_true_iff.mp (valid definition declared)

/-- A configuration declares a name that is called exactly when a table of this name gives a
definition that can replace a token. -/
theorem offers_ofConfiguration_iff {entry : Text × TokenTable}
    (inTables : entry ∈ configuration.tokens.entries) :
    (∃ definition,
        (ofConfiguration host configuration .empty).registry.Offers entry.1 definition) ↔
      entry.2.problems entry.1 = [] := by
  rw [TokenTable.problems_eq_nil_iff (H := H)]
  constructor
  · rintro ⟨definition, named, registered, sound⟩
    obtain ⟨declared, sameName⟩ :=
      (lookup_ofConfiguration_eq_some_iff host configuration).mp registered
    obtain ⟨other, inOther, found⟩ := Configuration.mem_definitions_iff.mp declared
    have unique : other = entry := by
      refine Dictionary.eq_of_mem_entries inOther inTables ?_
      rw [← TokenTable.name_of_definition? found, sameName]
    refine ⟨definition, unique ▸ found, ?_⟩
    rw [Definition.isValid, Definition.nameValid, Definition.callbackValid, sameName, named,
      Callback.isInvocable_iff.mpr sound, Bool.and_self]
  · rintro ⟨definition, found, valid⟩
    have sameName := TokenTable.name_of_definition? found
    obtain ⟨named, invocable⟩ := Bool.and_eq_true_iff.mp valid
    have declared := Configuration.mem_definitions_iff.mpr ⟨entry, inTables, found⟩
    exact ⟨definition, sameName ▸ named,
      (lookup_ofConfiguration_eq_some_iff host configuration).mpr ⟨declared, sameName⟩,
      Callback.isInvocable_iff.mp invocable⟩

/-- All declared tokens are answered exactly when validation finds nothing. -/
theorem serves_ofConfiguration_iff [Nonempty σ] :
    (ofConfiguration host configuration .empty).Serves configuration.tokens.keys ↔
      configuration.problems = [] := by
  rw [Configuration.problems_eq_nil_iff, ← isOperational_ofConfiguration_iff host configuration]
  constructor
  · rintro ⟨operational, answered⟩
    refine ⟨operational, fun entry inTables => ?_⟩
    obtain ⟨hook, found⟩ := Option.isSome_iff_exists.mp operational
    obtain ⟨memory⟩ := ‹Nonempty σ›
    rw [← offers_ofConfiguration_iff host configuration inTables]
    exact (hook.engine.calls_resolve_ne_nil_iff ⟨entry.1, .none⟩ _ _).mp
      (answered hook found ⟨entry.1, .none⟩ ⟨.frontend, none, .empty⟩ memory
        (List.mem_map_of_mem inTables))
  · rintro ⟨operational, sound⟩
    refine ⟨operational, fun hook _ token request memory declared => ?_⟩
    obtain ⟨entry, inTables, sameName⟩ := List.mem_map.mp declared
    rw [hook.engine.calls_resolve_ne_nil_iff, ← sameName]
    exact (offers_ofConfiguration_iff host configuration inTables).mpr (sound entry inTables)

end Replacer

namespace Configuration

variable {configuration : Configuration}

/-- A configuration is accepted as it is, and only without errors. -/
theorem accept_eq_ok_iff {other : Configuration} :
    configuration.accept = .ok other ↔
      configuration = other ∧ configuration.problemsOf .error = [] := by
  unfold accept
  cases found : configuration.problemsOf .error <;> simp

/-- A configuration that can be loaded has no errors. -/
theorem problemsOf_error_of_load {surroundings : Surroundings} {path : Option Path}
    (loaded : (surroundings.load path).result = .ok configuration) :
    configuration.problemsOf .error = [] := by
  rw [Surroundings.load] at loaded
  split at loaded
  · next file _ =>
    rw [Surroundings.loadFile] at loaded
    split at loaded
    · next document _ =>
      rw [parse] at loaded
      split at loaded
      · contradiction
      · obtain ⟨rfl, sound⟩ := accept_eq_ok_iff.mp loaded
        exact sound
    · contradiction
  · obtain rfl := Except.ok.inj loaded
    decide

/-- The problems of an accepted configuration are warnings. -/
theorem severity_of_mem_problems (sound : configuration.problemsOf .error = [])
    {problem : Problem} (member : problem ∈ configuration.problems) : problem.severity = .warn := by
  have other := List.filter_eq_nil_iff.mp sound problem member
  cases found : problem.severity with
  | error => simp [found] at other
  | warn => rfl

end Configuration

/-- The line of a notice that is one. -/
def Notice.line? : Notice → Option Text
  | .event _ => none
  | .line text => some text

/-- The lines that a run tells the user whatever the log admits. -/
def Run.lines (run : Run) : List Text :=
  run.notices.filterMap Notice.line?

/-- The lines among notices are those behind the events. -/
theorem Notice.filterMap_line?_append (events : List Event) (lines : List Text) :
    (events.map Notice.event ++ lines.map Notice.line).filterMap Notice.line? = lines := by
  simp [List.filterMap_append, List.filterMap_map, Function.comp_def, Notice.line?]

namespace Environment

/-- What the check of a configuration tells about a replacer that is closed. -/
def closedNote : Text :=
  "note: automatic token replacement is disabled until the delimiters are fixed".toList

variable {environment : Environment} {path : Option Path} {configuration : Configuration}
variable (loaded : (environment.load path).result = .ok configuration)

include loaded

/-- The check ends well exactly for a configuration without problems. -/
theorem code_check : (environment.check path).code =
    if configuration.problems = [] then 0 else failure := by
  rw [check, withConfiguration, loaded]
  simp only [Configuration.isValid, List.isEmpty_iff]
  split <;> rfl

/-- The check tells every problem as a warning, and then whether the replacer is closed. -/
theorem lines_check : (environment.check path).lines =
    configuration.problems.map (fun problem => "warning: ".toList ++ problem.shown) ++
      if (setUp configuration).replacer.isOperational then [] else [closedNote] := by
  have sound := Configuration.problemsOf_error_of_load loaded
  have warned : configuration.problems.map Problem.line =
      configuration.problems.map fun problem => "warning: ".toList ++ problem.shown := by
    refine List.map_congr_left fun problem member => ?_
    rw [Problem.line, Configuration.severity_of_mem_problems sound member]
  have operational : (setUp configuration).replacer.isOperational = true ↔
      configuration.marks.problems = [] :=
    Replacer.isOperational_ofConfiguration_iff Host.none configuration .empty
  rw [check, withConfiguration, loaded]
  simp only [Configuration.isValid, List.isEmpty_iff, operational]
  split
  · next none =>
    have usable := (Configuration.problems_eq_nil_iff.mp none).1
    simpa [Run.lines, finish, none, usable] using
      Notice.filterMap_line?_append (environment.load path).events []
  · rw [Run.lines, finish, Notice.filterMap_line?_append, warned]
    rfl

/-- No line of the check begins as that of an error. -/
theorem not_error_of_mem_lines_check {line : Text}
    (member : line ∈ (environment.check path).lines) :
    ¬ "error: ".toList <+: line := by
  intro stands
  rw [lines_check loaded, List.mem_append, List.mem_map] at member
  rcases member with ⟨problem, -, rfl⟩ | noted
  · exact absurd (List.cons_prefix_cons.mp stands).1 (by decide)
  · split at noted
    · contradiction
    · obtain rfl := List.mem_singleton.mp noted
      exact absurd stands (by decide)

/-- The note on closed replacers is printed exactly when tokens cannot be replaced. -/
theorem closedNote_mem_lines_check_iff :
    closedNote ∈ (environment.check path).lines ↔
      (setUp configuration).replacer.isOperational = false := by
  rw [lines_check loaded, List.mem_append, List.mem_map]
  constructor
  · rintro (⟨problem, -, same⟩ | noted)
    · exact absurd (List.cons.inj same).1 (by decide)
    · split at noted
      · contradiction
      · next closed => exact Bool.eq_false_iff.mpr closed
  · intro closed
    exact .inr (by simp [closed])

end Environment

/-- Nothing is wrong with a configuration exactly when setting up a replacer for it over an empty
registry goes without fault. The check of a configuration that can be loaded ends well exactly when
every token that the configuration declares is served, whatever switches of the policy a command
sets anew. It tells every problem as a warning and none as an error, and notes that replacement is
disabled exactly when the replacer is closed. -/
theorem Configuration.problems_eq_nil_iff_served (host : Host H σ) (configuration : Configuration) :
    let declared := configuration.tokens.keys
    (configuration.problems = [] ↔
        (Replacer.ofConfiguration host configuration .empty).Faultless declared) ∧
      ∀ (environment : Environment) (path : Option Path),
        (environment.load path).result = .ok configuration →
          let run := environment.check path
          let setup := Environment.setUp configuration
          (run.code = 0 ↔ setup.Serves declared) ∧
            (∀ automatic frontendOnly, setup.Serves declared ↔
              (Environment.setUp (configuration.override automatic frontendOnly)).Serves
                declared) ∧
            (run.code = 0 ∨ run.code = Environment.failure) ∧
            run.lines = configuration.problems.map
              (fun problem => "warning: ".toList ++ problem.shown) ++
                (if setup.replacer.isOperational then [] else [Environment.closedNote]) ∧
            (∀ line ∈ run.lines, ¬ "error: ".toList <+: line) ∧
            (Environment.closedNote ∈ run.lines ↔ setup.replacer.isOperational = false) := by
  intro declared
  refine ⟨(Replacer.faultless_ofConfiguration_iff host configuration).symm,
    fun environment path loaded => ?_⟩
  have served := Replacer.serves_ofConfiguration_iff Host.none configuration
  have code := Environment.code_check loaded
  refine ⟨?_, fun automatic frontendOnly => ?_, ?_, Environment.lines_check loaded,
    fun line member => Environment.not_error_of_mem_lines_check loaded member,
    Environment.closedNote_mem_lines_check_iff loaded⟩
  · refine Iff.trans ?_ served.symm
    rw [code]
    by_cases sound : configuration.problems = [] <;> simp [sound, Environment.failure]
  · exact served.trans (Replacer.serves_ofConfiguration_iff Host.none
      (configuration.override automatic frontendOnly)).symm
  · rw [code]
    by_cases sound : configuration.problems = [] <;> simp [sound]

end PageTokens
