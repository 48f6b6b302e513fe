import PageTokens.Registry

/-!
# What changes leave in a registry

The last change of a name decides what is registered under it: `lookup_apply` is
the step and `lookup_applyAll` the run. A property of everything that changes
insert is a property of everything that is registered (`Holds.applyAll`). What
is registered is what is listed.
-/

namespace PageTokens

variable {H : Type}

namespace Registry

/-- What a change makes of the definition under a name, if it is a change of this name. -/
def Change.verdict? (name : Text) : Change H → Option (Option (Definition H))
  | .unregister erased => if name = erased then some none else none
  | .register definition =>
    if definition.problem? = none ∧ name = definition.name then some (some definition) else none
  | .registerLenient definition => if name = definition.name then some (some definition) else none

/-- The definition under a name that the last change of the name left. -/
def latest? (registry : Registry H) (changes : List (Change H)) (name : Text) :
    Option (Definition H) :=
  (changes.reverse.findSome? (Change.verdict? name)).getD (registry.lookup name)

/-- What is stored under a name after a change is what the change says about the name, if it says
something. -/
theorem lookup_apply (registry : Registry H) (change : Change H) (name : Text) :
    (change.apply registry).lookup name = (change.verdict? name).getD (registry.lookup name) := by
  cases change with
  | register definition =>
    cases valid : definition.problem? with
    | none =>
      simp only [Change.apply, Change.inserted?, Change.verdict?, valid, Option.isNone_none,
        if_true, true_and, lookup_insert]
      split <;> rfl
    | some problem => simp [Change.apply, Change.inserted?, Change.verdict?, valid]
  | registerLenient definition =>
    rw [Change.apply, Change.inserted?, lookup_insert, Change.verdict?]
    split <;> rfl
  | unregister erased =>
    rw [Change.apply, lookup_erase, Change.verdict?]
    split <;> rfl

/-- After a list of changes the latest one that speaks about a name counts. -/
theorem lookup_applyAll (registry : Registry H) (changes : List (Change H)) (name : Text) :
    (registry.applyAll changes).lookup name = registry.latest? changes name := by
  induction changes generalizing registry with
  | nil => rfl
  | cons change rest inductionHypothesis =>
    have later := inductionHypothesis (change.apply registry)
    rw [latest?, lookup_apply] at later
    rw [latest?, List.reverse_cons, List.findSome?_append]
    refine later.trans ?_
    cases rest.reverse.findSome? (Change.verdict? name) <;> simp

/-- Changes are made one list after the other. -/
theorem applyAll_append (registry : Registry H) (first second : List (Change H)) :
    registry.applyAll (first ++ second) = (registry.applyAll first).applyAll second :=
  List.foldl_append

/-- What is registered after a change was registered before or comes from the change. -/
theorem lookup_apply_eq_some {registry : Registry H} {change : Change H} {name : Text}
    {definition : Definition H} (found : (change.apply registry).lookup name = some definition) :
    registry.lookup name = some definition ∨
      change.inserted? = some definition ∧ definition.name = name := by
  rw [lookup_apply] at found
  cases decided : change.verdict? name with
  | none => exact .inl (by rwa [decided, Option.getD_none] at found)
  | some verdict =>
    rw [decided, Option.getD_some] at found
    subst found
    refine .inr ?_
    cases change with
    | register given =>
      obtain ⟨⟨valid, same⟩, rfl⟩ : (given.problem? = none ∧ name = given.name) ∧
          given = definition := by simpa [Change.verdict?] using decided
      exact ⟨by simp [Change.inserted?, valid], same.symm⟩
    | registerLenient given =>
      obtain ⟨same, rfl⟩ : name = given.name ∧ given = definition := by
        simpa [Change.verdict?] using decided
      exact ⟨rfl, same.symm⟩
    | unregister erased => simp [Change.verdict?] at decided

/-- Every definition has a property together with the name it is registered under. -/
def Holds (proper : Text → Definition H → Prop) (registry : Registry H) : Prop :=
  ∀ name definition, registry.lookup name = some definition → proper name definition

/-- An empty registry has no definition that could fail to be proper. -/
theorem holds_empty (proper : Text → Definition H → Prop) :
    (empty : Registry H).Holds proper :=
  fun _ _ found => nomatch found

/-- Changes keep a property that everything they insert has. -/
theorem Holds.applyAll {proper : Text → Definition H → Prop} {registry : Registry H}
    {changes : List (Change H)} (holds : registry.Holds proper)
    (inserted : ∀ change ∈ changes, ∀ definition, change.inserted? = some definition →
      proper definition.name definition) : (registry.applyAll changes).Holds proper := by
  induction changes generalizing registry with
  | nil => exact holds
  | cons change rest inductionHypothesis =>
    obtain ⟨here, later⟩ := List.forall_mem_cons.mp inserted
    refine inductionHypothesis (fun name definition found => ?_) later
    rcases lookup_apply_eq_some found with before | ⟨new, rfl⟩
    · exact holds name definition before
    · exact here definition new

/-- Every definition is registered under its own name. -/
def Own (registry : Registry H) : Prop :=
  registry.Holds fun name definition => definition.name = name

/-- Changes keep each definition under its own name. -/
theorem own_applyAll {registry : Registry H} (own : registry.Own) (changes : List (Change H)) :
    (registry.applyAll changes).Own :=
  own.applyAll fun _ _ _ _ => rfl

/-- The list of tokens shows what is registered under the names. -/
theorem mem_list_iff {registry : Registry H} {definition : Definition H} :
    definition ∈ registry.list ↔ ∃ name, registry.lookup name = some definition :=
  Dictionary.mem_values_iff

end Registry

end PageTokens
