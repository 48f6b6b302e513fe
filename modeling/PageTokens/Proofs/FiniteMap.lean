import Mathlib.Data.Finmap
import PageTokens.Proofs.ByteOrder
import PageTokens.Proofs.Changes

/-!
# A registry as a finite map

`Contents` is a finite map from names to definitions, and `alter` says what an
operation makes of it: the last definition of a name stays. A `Table` holds the
entries of a finite map in any order, and `Table.answer` reads the answers to
operations off from it, sorting where an answer is a list.

`contents_performAll` shows that operations make of a registry what they make of
a finite map. `answer_eq` shows that every table of the entries gives the
answers of the registry, whatever the order of its entries.
-/

namespace PageTokens

variable {H : Type}

namespace Registry

/-- What a registry can be asked. -/
inductive Operation (H : Type)
  | register (definition : Definition H)
  | registerLenient (definition : Definition H)
  | validate (definition : Definition H)
  | unregister (name : Text)
  | lookup (name : Text)
  | contains (name : Text)
  | size
  | names
  | list

/-- What a registry answers. -/
inductive Answer (H : Type)
  | verdict (refusal : Option RegistrationError)
  | warnings (messages : List Text)
  | held (definition : Option (Definition H))
  | flag (present : Bool)
  | count (entries : Nat)
  | names (names : List Text)
  | list (definitions : List (Definition H))

/-- The change of the registry that is part of an operation. -/
def Operation.change? : Operation H → Option (Change H)
  | register definition => some (.register definition)
  | registerLenient definition => some (.registerLenient definition)
  | unregister name => some (.unregister name)
  | validate _ | lookup _ | contains _ | size | names | list => none

/-- The registry that an operation leaves. -/
def perform (registry : Registry H) (operation : Operation H) : Registry H :=
  registry.applyAll operation.change?.toList

/-- The registry that operations leave, one after the other. -/
def performAll (registry : Registry H) (operations : List (Operation H)) : Registry H :=
  operations.foldl perform registry

/-- The answer to an operation. -/
def answer (registry : Registry H) : Operation H → Answer H
  | .register definition | .validate definition => .verdict definition.problem?
  | .registerLenient definition =>
    .warnings ((warnings definition).map RegistrationError.message)
  | .unregister name | .lookup name => .held (registry.lookup name)
  | .contains name => .flag (registry.contains name)
  | .size => .count registry.size
  | .names => .names registry.names
  | .list => .list registry.list

/-- A finite map from names to definitions. -/
abbrev Contents (H : Type) := Finmap fun _ : Text => Definition H

/-- The entries of a finite map in some order. -/
abbrev Table (H : Type) := AList fun _ : Text => Definition H

/-- The finite map that an operation leaves. A definition that is accepted takes the place of
an earlier one of its name. -/
def Contents.alter (contents : Contents H) : Operation H → Contents H
  | .register definition =>
    if definition.isValid then contents.insert definition.name definition else contents
  | .registerLenient definition => contents.insert definition.name definition
  | .unregister name => contents.erase name
  | .validate _ | .lookup _ | .contains _ | .size | .names | .list => contents

/-- The finite map that operations leave, one after the other. -/
def Contents.alterAll (contents : Contents H) (operations : List (Operation H)) : Contents H :=
  operations.foldl Contents.alter contents

/-- The answer to an operation, read off from entries in some order. -/
def Table.answer (table : Table H) : Operation H → Answer H
  | .register definition | .validate definition => .verdict definition.problem?
  | .registerLenient definition =>
    .warnings (definition.problem?.map RegistrationError.message).toList
  | .unregister name => .held (table.extract name).1
  | .lookup name => .held (table.lookup name)
  | .contains name => .flag (decide (name ∈ table))
  | .size => .count table.entries.length
  | .names => .names (table.keys.mergeSort Text.inByteOrder)
  | .list => .list ((table.entries.map Sigma.snd).mergeSort fun left right =>
      Text.inByteOrder left.name right.name)

section Refinement

/-- The entries of a registry in ascending order of the names. -/
def table (registry : Registry H) : Table H where
  entries := registry.definitions.entries.map fun entry => ⟨entry.1, entry.2⟩
  nodupKeys := List.nodupKeys_iff_pairwise.mpr <| List.pairwise_map.mpr <|
    registry.definitions.ascending.imp fun before => ne_of_lt before

/-- The finite map that a registry holds. -/
def contents (registry : Registry H) : Contents H :=
  registry.table.toFinmap

/-- The table has the names of the registry. -/
theorem keys_table (registry : Registry H) : registry.table.keys = registry.names := by
  simp [table, AList.keys, List.keys, names, Dictionary.keys]

theorem definitions_table (registry : Registry H) :
    registry.table.entries.map Sigma.snd = registry.list := by
  simp [table, list, Dictionary.values]

/-- The table gives the definitions that the registry gives. -/
theorem lookup_table (registry : Registry H) (name : Text) :
    registry.table.lookup name = registry.lookup name := by
  refine Option.ext fun definition => ?_
  rw [← Option.mem_def, AList.mem_lookup_iff, lookup, Dictionary.get?,
    Dictionary.find?_eq_some_iff registry.definitions.ascending]
  simp [table, Sigma.ext_iff]

theorem lookup_contents (registry : Registry H) (name : Text) :
    registry.contents.lookup name = registry.lookup name :=
  (Finmap.lookup_toFinmap name registry.table).trans (registry.lookup_table name)

/-- To insert a definition is to insert it under its name into the finite map. -/
theorem contents_insert (registry : Registry H) (definition : Definition H) :
    (registry.insert definition).contents =
      registry.contents.insert definition.name definition := by
  refine Finmap.ext_lookup fun name => ?_
  rw [lookup_contents, lookup_insert]
  by_cases same : name = definition.name
  · rw [if_pos same, same, Finmap.lookup_insert]
  · rw [if_neg same, Finmap.lookup_insert_of_ne _ same, lookup_contents]

/-- To erase a name is to erase it from the finite map. -/
theorem contents_erase (registry : Registry H) (erased : Text) :
    (registry.erase erased).contents = registry.contents.erase erased := by
  refine Finmap.ext_lookup fun name => ?_
  rw [lookup_contents, lookup_erase]
  by_cases same : name = erased
  · rw [if_pos same, same, Finmap.lookup_erase]
  · rw [if_neg same, Finmap.lookup_erase_ne same, lookup_contents]

/-- A definition that is refused leaves the registry as it is. -/
theorem perform_register_of_refused (registry : Registry H) {definition : Definition H}
    (refused : definition.problem? ≠ none) :
    registry.perform (.register definition) = registry := by
  simp [perform, Operation.change?, applyAll, Change.apply, Change.inserted?, refused]

/-- An operation makes of a registry what it makes of the finite map that it holds. -/
theorem contents_perform (registry : Registry H) (operation : Operation H) :
    (registry.perform operation).contents = registry.contents.alter operation := by
  cases operation with
  | register definition =>
    rw [Contents.alter]
    split
    · next valid =>
      have accepted := Definition.problem?_eq_none_iff.mpr valid
      rw [← contents_insert]
      simp [perform, Operation.change?, applyAll, Change.apply, Change.inserted?, accepted]
    · next invalid =>
      rw [perform_register_of_refused registry (mt Definition.problem?_eq_none_iff.mp invalid)]
  | registerLenient definition => exact contents_insert registry definition
  | unregister name => exact contents_erase registry name
  | validate definition | lookup name | contains name | size | names | list => rfl

/-- Operations make of a registry what they make of the finite map that it holds. -/
theorem contents_performAll (registry : Registry H) (operations : List (Operation H)) :
    (registry.performAll operations).contents = registry.contents.alterAll operations := by
  induction operations generalizing registry with
  | nil => rfl
  | cons operation rest inductionHypothesis =>
    rw [performAll, List.foldl_cons, ← performAll, inductionHypothesis, contents_perform]
    rfl

/-- Of operations only the changes among them leave a trace. -/
theorem performAll_eq_applyAll (registry : Registry H) (operations : List (Operation H)) :
    registry.performAll operations =
      registry.applyAll (operations.filterMap Operation.change?) := by
  induction operations generalizing registry with
  | nil => rfl
  | cons operation rest inductionHypothesis =>
    rw [performAll, List.foldl_cons, ← performAll, inductionHypothesis, perform,
      List.filterMap_cons]
    cases operation.change? <;> rfl

end Refinement

section Order

variable {registry : Registry H}

/-- The names of a registry are listed in ascending order. -/
theorem ascending_names (registry : Registry H) :
    registry.names.Pairwise fun left right => left < right :=
  List.pairwise_map.mpr registry.definitions.ascending

/-- The listed definitions have the names of the registry, one each. -/
theorem map_name_list (own : registry.Own) :
    registry.list.map Definition.name = registry.names := by
  rw [list, Dictionary.values, List.map_map, names, Dictionary.keys]
  refine List.map_congr_left fun entry member => ?_
  exact own entry.1 entry.2
    ((Dictionary.find?_eq_some_iff registry.definitions.ascending).mpr member)

/-- The definitions are listed in ascending order of their names. -/
theorem ascending_list (own : registry.Own) :
    registry.list.Pairwise fun left right => left.name < right.name := by
  rw [← List.pairwise_map (f := Definition.name) (R := fun left right => left < right),
    map_name_list own]
  exact ascending_names registry

/-- Whatever the order of the entries, a table of what a registry holds gives the answers of
the registry. -/
theorem answer_eq (own : registry.Own) {table : Table H}
    (holds : table.toFinmap = registry.contents) (operation : Operation H) :
    registry.answer operation = table.answer operation := by
  -- The table has the entries of the registry, only their order may be another one.
  have permuted : table.entries.Perm registry.table.entries := AList.toFinmap_eq.mp holds
  have found : ∀ name, table.lookup name = registry.lookup name := fun name =>
    (AList.perm_lookup permuted).trans (registry.lookup_table name)
  cases operation with
  | register definition | validate definition => rfl
  | registerLenient definition =>
    rw [answer, Table.answer, warnings]
    cases definition.problem? <;> rfl
  | unregister name => rw [answer, Table.answer, AList.extract_eq_lookup_erase, found]
  | lookup name => rw [answer, Table.answer, found]
  | contains name =>
    rw [answer, Table.answer, Answer.flag.injEq, Bool.eq_iff_iff, decide_eq_true_eq,
      ← AList.lookup_isSome, found]
    rfl
  | size =>
    rw [answer, Table.answer, permuted.length_eq]
    simp [Registry.table, size, Dictionary.size]
  | names =>
    have keys : table.keys.Perm registry.names := by
      rw [← keys_table]
      exact permuted.map Sigma.fst
    rw [answer, Table.answer]
    exact congrArg Answer.names (Text.mergeSort_inByteOrder id (ascending_names registry) keys).symm
  | list =>
    have definitions : (table.entries.map Sigma.snd).Perm registry.list := by
      rw [← definitions_table]
      exact permuted.map Sigma.snd
    rw [answer, Table.answer, Text.mergeSort_inByteOrder _ (ascending_list own) definitions]

end Order

/-- What can be seen of a registry that holds a finite map. -/
structure Shows (contents : Contents H) (registry : Registry H) : Prop where
  lookup : ∀ name, registry.lookup name = contents.lookup name
  own : registry.Own
  ascending : registry.names.Pairwise fun left right => left.bytes < right.bytes
  distinct : registry.names.Nodup
  listed : registry.list.map Definition.name = registry.names
  size : registry.size = registry.names.length
  contains : ∀ name, registry.contains name = true ↔
    ∃ definition, registry.lookup name = some definition
  mem_names : ∀ name, name ∈ registry.names ↔ registry.contains name = true
  /-- The order in which the entries are kept makes no difference to an answer. -/
  answers : ∀ table : Table H, table.toFinmap = contents → ∀ operation,
    registry.answer operation = table.answer operation

/-- A registry shows the finite map that it holds. -/
theorem shows_contents {registry : Registry H} (own : registry.Own) :
    registry.Shows registry.contents where
  lookup := fun name => (registry.lookup_contents name).symm
  own := own
  ascending := (ascending_names registry).imp fun before => Text.bytes_lt_bytes_iff.mpr before
  distinct := (ascending_names registry).imp fun before => ne_of_lt before
  listed := map_name_list own
  size := (List.length_map _).symm
  contains := fun _ => Option.isSome_iff_exists
  mem_names := fun _ => Dictionary.contains_iff_mem_keys.symm
  answers := fun _ => answer_eq own

/-- What a registry answers to one operation tells of another, and of the registry that the
operation leaves. -/
structure Coheres (registry : Registry H) : Prop where
  accepted : ∀ definition, registry.answer (.register definition) = .verdict none ↔
    definition.nameValid = true ∧ definition.callbackValid = true
  /-- A definition is refused with the text of the one warning that keeps it. -/
  refused : ∀ definition message,
    (∃ error, registry.answer (.register definition) = .verdict (some error) ∧
        error.message = message) ↔
      registry.answer (.registerLenient definition) = .warnings [message]
  unwarned : ∀ definition, registry.answer (.register definition) = .verdict none ↔
    registry.answer (.registerLenient definition) = .warnings []
  unchanged : ∀ definition error,
    registry.answer (.register definition) = .verdict (some error) →
      registry.perform (.register definition) = registry
  validated : ∀ definition,
    registry.answer (.validate definition) = registry.answer (.register definition) ∧
      registry.perform (.validate definition) = registry
  unregistered : ∀ name,
    registry.answer (.unregister name) = registry.answer (.lookup name) ∧
      (registry.perform (.unregister name)).lookup name = none

/-- The answers of a registry fit together. -/
theorem coheres (registry : Registry H) : registry.Coheres where
  accepted := fun definition => by
    rw [answer, Answer.verdict.injEq, Definition.problem?_eq_none_iff, Definition.isValid,
      Bool.and_eq_true]
  refused := fun definition message => by
    simp only [answer, warnings, Answer.verdict.injEq, Answer.warnings.injEq]
    cases definition.problem? <;> simp
  unwarned := fun definition => by
    simp only [answer, warnings, Answer.verdict.injEq, Answer.warnings.injEq]
    cases definition.problem? <;> simp
  unchanged := fun definition error answered => by
    have refused : definition.problem? = some error := by
      simpa only [answer, Answer.verdict.injEq] using answered
    exact perform_register_of_refused registry (by simp [refused])
  validated := fun definition => ⟨rfl, rfl⟩
  unregistered := fun name => ⟨rfl, by
    rw [perform, Operation.change?, Option.toList_some, applyAll, List.foldl_cons, List.foldl_nil,
      Change.apply, lookup_erase, if_pos rfl]⟩

/-- Whatever is done with a registry that was empty, it shows the finite map in which every
accepted registration has taken the place of the entry of its name and every removal has
removed the entry of its name, and its answers to the next operation agree with each other. -/
theorem performAll_shows (operations : List (Operation H)) :
    (empty.performAll operations).Shows (Contents.alterAll ∅ operations) ∧
      (empty.performAll operations).Coheres := by
  have own : (empty.performAll operations).Own := by
    rw [performAll_eq_applyAll]
    exact own_applyAll (holds_empty _) _
  have fresh : (empty : Registry H).contents = ∅ := rfl
  have holds := contents_performAll (empty : Registry H) operations
  rw [fresh] at holds
  exact ⟨holds ▸ shows_contents own, coheres _⟩

end Registry
end PageTokens
