import Mathlib.Data.List.Forall2
import Mathlib.Data.List.Perm.Basic
import PageTokens.Proofs.ByteOrder
import PageTokens.Proofs.Checked

/-!
# What loading a configuration tells

`TokenTable.Blames` says what is wrong with a table and `Problem.Precedes` in
which order it is listed; together they determine the list of problems behind
those of the delimiters. Loading a document sorts this list into errors, which
make it refuse the document, and warnings, which it reports. `parse_accounts`
says that no problem is lost on the way and none is made up, and that a document
that is not refused gives one definition for each of its tables.
-/

namespace PageTokens

/-- The name of the table that a problem is about. -/
def Problem.table? : Problem → Option Text
  | delimiter _ => none
  | tokenName token | noCallback token | twoCallbacks token | unknownBuiltin token _ => some token

/-- One problem is listed before another: its table has the smaller name, or both are about one
table and the first one is about its name. -/
def Problem.Precedes (first second : Problem) : Prop :=
  ∃ one ∈ first.table?, ∃ other ∈ second.table?, one.bytes < other.bytes ∨
    one = other ∧ first = .tokenName one ∧ second ≠ .tokenName one

namespace TokenTable

/-- A table sets exactly one callback. -/
def SetsOne (table : TokenTable) : Prop :=
  table.fixed.isSome ≠ table.builtin.isSome

instance (table : TokenTable) : Decidable table.SetsOne :=
  inferInstanceAs (Decidable (table.fixed.isSome ≠ table.builtin.isSome))

/-- What is wrong with a table of a given name. -/
inductive Blames (name : Text) (table : TokenTable) : Problem → Prop
  | misnamed (refused : isTokenName name = false) : Blames name table (.tokenName name)
  | unset (fixed : table.fixed = none) (builtin : table.builtin = none) :
      Blames name table (.noCallback name)
  | doubled (fixed : table.fixed ≠ none) (builtin : table.builtin ≠ none) :
      Blames name table (.twoCallbacks name)
  | unknown (reference : Text) (fixed : table.fixed = none)
      (builtin : table.builtin = some reference)
      (strange : ∀ known : Builtin, known.name ≠ reference) :
      Blames name table (.unknownBuiltin name reference)

/-- A definition is the one that a table of a given name declares. -/
structure Declares {H : Type} (entry : Text × TokenTable) (definition : Definition H) : Prop where
  name : definition.name = entry.1
  fixed : ∀ text, definition.callback = .fixed text ↔ entry.2.fixed = some text
  builtin : ∀ reference, definition.callback = .builtin reference ↔
    entry.2.builtin = some reference
  description : definition.description = entry.2.description

variable {name : Text} {table : TokenTable} {problem : Problem}

/-- The problem of a callback blames its table. -/
theorem blames_of_callbackProblem? (found : callbackProblem? name table = some problem) :
    Blames name table problem := by
  unfold callbackProblem? at found
  split at found
  · next fixed builtin =>
    exact Option.some.inj found ▸ .unset fixed builtin
  · next text reference fixed builtin =>
    exact Option.some.inj found ▸ .doubled (by simp [fixed]) (by simp [builtin])
  · contradiction
  · next reference fixed builtin =>
    split at found
    · contradiction
    · next strange =>
      rw [Option.not_isSome_iff_eq_none, Builtin.ofName?_eq_none_iff] at strange
      exact Option.some.inj found ▸ .unknown reference fixed builtin strange

/-- The problems of a table are what is wrong with it. -/
theorem mem_problems_iff : problem ∈ table.problems name ↔ Blames name table problem := by
  constructor
  · intro member
    rcases List.mem_append.mp member with inName | inCallback
    · rw [Option.mem_toList, nameProblem?] at inName
      split at inName
      · contradiction
      · next refused =>
        exact Option.some.inj inName ▸ .misnamed (Bool.eq_false_iff.mpr refused)
    · exact blames_of_callbackProblem? (Option.mem_toList.mp inCallback)
  · intro blames
    cases blames with
    | misnamed refused => simp [problems, nameProblem?, refused]
    | unset fixed builtin => simp [problems, callbackProblem?, fixed, builtin]
    | doubled fixed builtin =>
      obtain ⟨text, fixed⟩ := Option.ne_none_iff_exists'.mp fixed
      obtain ⟨reference, builtin⟩ := Option.ne_none_iff_exists'.mp builtin
      simp [problems, callbackProblem?, fixed, builtin]
    | unknown reference fixed builtin strange =>
      simp [problems, callbackProblem?, fixed, builtin, Builtin.ofName?_eq_none_iff.mpr strange]

theorem Blames.table?_eq (blames : Blames name table problem) : problem.table? = some name := by
  cases blames <;> rfl

/-- The problem of the name of a table is listed before that of its callbacks, and there are no
others. -/
theorem problems_ordered (name : Text) (table : TokenTable) :
    (table.problems name).Pairwise Problem.Precedes := by
  refine List.pairwise_append.mpr ⟨?_, ?_, fun first inName second inCallback => ?_⟩
  · cases nameProblem? name <;> simp
  · cases callbackProblem? name table <;> simp
  · rw [Option.mem_toList] at inName inCallback
    have blames := blames_of_callbackProblem? inCallback
    rw [nameProblem?] at inName
    split at inName
    · contradiction
    · obtain rfl := Option.some.inj inName
      refine ⟨name, rfl, name, blames.table?_eq, .inr ⟨rfl, rfl, ?_⟩⟩
      rintro rfl
      simp only [callbackProblem?] at inCallback
      split at inCallback <;> simp at inCallback

/-- The error of a table that does not set exactly one callback. -/
def error (entry : Text × TokenTable) : Problem :=
  if entry.2.fixed.isSome then .twoCallbacks entry.1 else .noCallback entry.1

/-- A table that sets exactly one callback has no error, every other one has a single error. -/
theorem filter_error_problems (entry : Text × TokenTable) :
    (entry.2.problems entry.1).filter (fun problem => problem.severity = .error) =
      if entry.2.SetsOne then [] else [error entry] := by
  have names : (nameProblem? entry.1).toList.filter (fun problem => problem.severity = .error) =
      [] := by
    unfold nameProblem?
    split <;> rfl
  rw [problems, List.filter_append, names, List.nil_append]
  obtain ⟨name, fixed, builtin, description⟩ := entry
  cases fixed with
  | some text => cases builtin <;> rfl
  | none =>
    cases builtin with
    | none => rfl
    | some reference =>
      simp only [callbackProblem?]
      split <;> rfl

/-- A table that does not set one callback is to blame for an error. -/
theorem blames_error {entry : Text × TokenTable} (offends : ¬ entry.2.SetsOne) :
    Blames entry.1 entry.2 (error entry) ∧ (error entry).severity = .error := by
  have listed : error entry ∈ (entry.2.problems entry.1).filter
      fun problem => problem.severity = .error := by
    rw [filter_error_problems, if_neg offends]
    exact List.mem_singleton_self _
  obtain ⟨member, severe⟩ := List.mem_filter.mp listed
  exact ⟨mem_problems_iff.mp member, of_decide_eq_true severe⟩

/-- The definition of a table is what the table declares. -/
theorem declares_of_definition? {H : Type} {entry : Text × TokenTable} {definition : Definition H}
    (found : definition? entry = some definition) : Declares entry definition := by
  obtain ⟨callback, sets, rfl⟩ := Option.map_eq_some_iff.mp found
  obtain ⟨name, fixed, builtin, description⟩ := entry
  unfold callback? at sets
  constructor
  · rfl
  · cases fixed <;> cases builtin <;> simp_all [eq_comm]
  · cases fixed <;> cases builtin <;> simp_all [eq_comm]
  · rfl

/-- A table that sets one callback has a definition. -/
theorem isSome_definition? {H : Type} {entry : Text × TokenTable} (sets : entry.2.SetsOne) :
    ∃ definition : Definition H, definition? entry = some definition := by
  obtain ⟨name, fixed, builtin, description⟩ := entry
  cases fixed <;> cases builtin <;> simp_all [SetsOne, definition?, callback?]

/-- A table that sets none or several has no definition, and no other table lacks one. -/
theorem definition?_eq_none_iff {H : Type} {entry : Text × TokenTable} :
    definition? (H := H) entry = none ↔ ¬ entry.2.SetsOne := by
  obtain ⟨name, fixed, builtin, description⟩ := entry
  cases fixed <;> cases builtin <;> simp [SetsOne, definition?, callback?]

end TokenTable

namespace Configuration

variable (configuration : Configuration)

/-- The tables that set exactly one callback. -/
def declaring : List (Text × TokenTable) :=
  configuration.tokens.entries.filter fun entry => entry.2.SetsOne

/-- The tables that do not set exactly one callback. -/
def offending : List (Text × TokenTable) :=
  configuration.tokens.entries.filter fun entry => ¬ entry.2.SetsOne

/-- No table offends exactly when each of them sets one callback. -/
theorem offending_eq_nil_iff :
    configuration.offending = [] ↔ ∀ entry ∈ configuration.tokens.entries, entry.2.SetsOne := by
  simp [offending]

/-- Each table that offends has one error, and there are no other errors. -/
theorem problemsOf_error :
    configuration.problemsOf .error = configuration.offending.map TokenTable.error := by
  have delimiters : (configuration.marks.problems.map Problem.delimiter).filter
      (fun problem => problem.severity = .error) = [] := by
    simp [Problem.severity]
  rw [problemsOf, problems, List.filter_append, delimiters, List.nil_append, offending]
  induction configuration.tokens.entries with
  | nil => rfl
  | cons entry rest inductionHypothesis =>
    rw [List.flatMap_cons, List.filter_append, inductionHypothesis,
      TokenTable.filter_error_problems, List.filter_cons]
    by_cases sets : entry.2.SetsOne <;> simp [sets]

/-- The problems of the tables ascend by the names of the tables. -/
theorem problems_ordered :
    (configuration.tokens.entries.flatMap fun entry =>
      entry.2.problems entry.1).Pairwise Problem.Precedes := by
  refine List.pairwise_flatMap.mpr
    ⟨fun entry _ => TokenTable.problems_ordered entry.1 entry.2, ?_⟩
  refine configuration.tokens.ascending.imp fun {one other} before first ofOne second ofOther => ?_
  have firstTable := (TokenTable.mem_problems_iff.mp ofOne).table?_eq
  have secondTable := (TokenTable.mem_problems_iff.mp ofOther).table?_eq
  exact ⟨one.1, firstTable, other.1, secondTable, .inl (Text.bytes_lt_bytes_iff.mpr before)⟩

/-- The declaring tables are those that set one callback. -/
theorem mem_declaring_iff {entry : Text × TokenTable} :
    entry ∈ configuration.declaring ↔
      entry ∈ configuration.tokens.entries ∧ entry.2.SetsOne := by
  rw [declaring, List.mem_filter, decide_eq_true_iff]

/-- Each table that sets one callback gives a definition, and the other tables give none. -/
theorem forall₂_declaring (H : Type) :
    List.Forall₂ TokenTable.Declares configuration.declaring
      (configuration.definitions (H := H)) := by
  rw [definitions_eq, declaring]
  induction configuration.tokens.entries with
  | nil => exact .nil
  | cons entry rest inductionHypothesis =>
    by_cases sets : entry.2.SetsOne
    · obtain ⟨definition, found⟩ := TokenTable.isSome_definition? (H := H) sets
      rw [List.filter_cons_of_pos (by simpa using sets), List.filterMap_cons_some found]
      exact .cons (TokenTable.declares_of_definition? found) inductionHypothesis
    · have absent := (TokenTable.definition?_eq_none_iff (H := H)).mpr sets
      rw [List.filter_cons_of_neg (by simpa using sets), List.filterMap_cons_none absent]
      exact inductionHypothesis

/-- A configuration whose tables set one callback each has one definition for each of them. -/
theorem forall₂_declares (H : Type)
    (sets : ∀ entry ∈ configuration.tokens.entries, entry.2.SetsOne) :
    List.Forall₂ TokenTable.Declares configuration.tokens.entries
      (configuration.definitions (H := H)) := by
  have all : configuration.declaring = configuration.tokens.entries :=
    List.filter_eq_self.mpr fun entry inTables => decide_eq_true (sets entry inTables)
  exact all ▸ configuration.forall₂_declaring H

variable {configuration}

/-- What loading a configuration tells: errors and warnings. Each table that offends has its error,
the warnings are reported, and both together are all problems, each part in its order. -/
structure Accounts (configuration : Configuration) (loading : Loading)
    (errors warnings : List Problem) : Prop where
  accepted : errors = [] → loading.result = .ok configuration
  refused : errors ≠ [] → loading.result = .error (.refused errors)
  reported : loading.events = warnings.map fun problem => .configurationProblem problem.shown
  level : ∀ event ∈ loading.events, event.level = .warn
  offending : List.Forall₂ (fun entry problem =>
      TokenTable.Blames entry.1 entry.2 problem ∧ problem.severity = .error)
    configuration.offending errors
  warnings_severity : ∀ problem ∈ warnings, problem.severity = .warn
  errors_sublist : errors.Sublist configuration.problems
  warnings_sublist : warnings.Sublist configuration.problems
  partition : (errors ++ warnings).Perm configuration.problems

/-- With errors nothing is accepted, and all of them are returned. -/
theorem accept_of_problemsOf_ne_nil (errors : configuration.problemsOf .error ≠ []) :
    configuration.accept = .error (.refused (configuration.problemsOf .error)) := by
  unfold accept
  split
  · contradiction
  · rfl

/-- Errors and warnings are all problems. -/
theorem problemsOf_append_perm :
    (configuration.problemsOf .error ++ configuration.problemsOf .warn).Perm
      configuration.problems := by
  have others : configuration.problemsOf .warn =
      configuration.problems.filter fun problem => !decide (problem.severity = .error) := by
    refine List.filter_congr fun problem _ => ?_
    cases problem.severity <;> rfl
  rw [others]
  exact List.filter_append_perm _ _

/-- Each table is accounted for once, by a definition or by an error. -/
theorem accounts (loading : Loading)
    (loads : loading = ⟨configuration.accept, configuration.warningEvents⟩) :
    configuration.Accounts loading (configuration.problemsOf .error)
      (configuration.problemsOf .warn) := by
  subst loads
  constructor
  · exact fun none => accept_eq_ok_iff.mpr ⟨rfl, none⟩
  · exact accept_of_problemsOf_ne_nil
  · rfl
  · intro event reported
    obtain ⟨problem, -, rfl⟩ := List.mem_map.mp reported
    rfl
  · rw [problemsOf_error, List.forall₂_map_right_iff, List.forall₂_same]
    intro entry offends
    exact TokenTable.blames_error (of_decide_eq_true (List.mem_filter.mp offends).2)
  · exact fun problem member => of_decide_eq_true (List.mem_filter.mp member).2
  · exact List.filter_sublist
  · exact List.filter_sublist
  · exact problemsOf_append_perm

/-- A document with the shape of a configuration is accepted exactly when each table sets one
callback; otherwise it is refused with one error for each table that does not, in the order of
their names. All other problems are warnings and are reported in their order. The problems are those
of the delimiters and then what is wrong with the tables, in the order of names, and nothing else.
A document that is accepted gives one definition for each table, in the same order. -/
theorem parse_accounts (H : Type) {document : Text}
    (found : ofDocument? document = some configuration) :
    let loading := parse document
    let tables := configuration.tokens.entries
    (loading.result = .ok configuration ↔ ∀ entry ∈ tables, entry.2.SetsOne) ∧
      (∃ errors warnings, configuration.Accounts loading errors warnings) ∧
      (∃ blamed,
        configuration.problems = configuration.marks.problems.map Problem.delimiter ++ blamed ∧
          blamed.Pairwise Problem.Precedes ∧ ∀ problem, problem ∈ blamed ↔
            ∃ entry ∈ tables, TokenTable.Blames entry.1 entry.2 problem) ∧
      tables.Pairwise (fun left right => left.1.bytes < right.1.bytes) ∧
      (loading.result = .ok configuration →
        List.Forall₂ TokenTable.Declares tables (configuration.definitions (H := H))) := by
  intro loading tables
  have loads : loading = ⟨configuration.accept, configuration.warningEvents⟩ := by
    simp only [loading, parse, found]
  have accepted_iff : loading.result = .ok configuration ↔ ∀ entry ∈ tables, entry.2.SetsOne := by
    rw [loads, accept_eq_ok_iff, problemsOf_error, List.map_eq_nil_iff, offending_eq_nil_iff]
    exact and_iff_right rfl
  refine ⟨accepted_iff, ⟨_, _, accounts loading loads⟩,
    ⟨_, rfl, configuration.problems_ordered, ?_⟩,
    configuration.tokens.ascending.imp fun before => Text.bytes_lt_bytes_iff.mpr before, ?_⟩
  · intro problem
    simp only [List.mem_flatMap, TokenTable.mem_problems_iff]
    rfl
  · exact fun accepted => configuration.forall₂_declares H (accepted_iff.mp accepted)

/-- A document with a misnamed table that sets no callback, a table with an unknown built-in
callback, a table that sets two callbacks, and a table with which nothing is wrong. -/
def mixed : Text :=
  "[tokens.a-b]\n[tokens.c]\nbuiltin = \"d\"\n".toList ++
    "[tokens.e]\nstatic = \"f\"\nbuiltin = \"path\"\n[tokens.g]\nstatic = \"h\"\n".toList

/-- The document is refused for two of its tables, and two warnings are reported. -/
theorem parse_accounts_mixed :
    ∃ configuration errors warnings, ofDocument? mixed = some configuration ∧
      configuration.Accounts (parse mixed) errors warnings ∧ errors.length = 2 ∧
      warnings.length = 2 := by
  have counted : (ofDocument? mixed).map (fun configuration =>
      (configuration.offending.length, configuration.problems.length)) = some (2, 4) := by
    decide +kernel
  obtain ⟨configuration, found, counts⟩ := Option.map_eq_some_iff.mp counted
  obtain ⟨offending, problems⟩ := Prod.mk.inj counts
  obtain ⟨-, ⟨errors, warnings, accounts⟩, -⟩ := parse_accounts Empty found
  have refused : errors.length = 2 := accounts.offending.length_eq.symm.trans offending
  have all := accounts.partition.length_eq
  rw [List.length_append, refused, problems] at all
  exact ⟨configuration, errors, warnings, found, accounts, refused, by omega⟩

end Configuration
end PageTokens
