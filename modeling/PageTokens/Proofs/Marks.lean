import PageTokens.Delimiters

/-!
# Texts that can serve as delimiters

`Marks.Usable` says of five texts what `Marks.problems` looks for, and
`problems_eq_nil_iff` that nothing else is looked for. Exactly such texts become
delimiters.
-/

namespace PageTokens

namespace Role

theorem mem_all (role : Role) : role ∈ all := by
  cases role <;> decide

/-- Two roles are different when they are paired, one way or the other. -/
theorem ne_iff_mem_pairs {first second : Role} :
    first ≠ second ↔ (first, second) ∈ pairs ∨ (second, first) ∈ pairs := by
  cases first <;> cases second <;> decide

end Role

namespace Marks

variable {marks : Marks}

/-- Texts of one to five characters, no two of them equal. -/
structure Usable (marks : Marks) : Prop where
  visible : ∀ role, marks.get role ≠ []
  short : ∀ role, (marks.get role).length ≤ Delimiters.maximumLength
  distinct : ∀ first second, marks.get first = marks.get second → first = second

/-- A mark has no problem of length when it is neither empty nor too long. -/
theorem lengthProblem?_eq_none_iff {role : Role} :
    marks.lengthProblem? role = none ↔
      marks.get role ≠ [] ∧ (marks.get role).length ≤ Delimiters.maximumLength := by
  by_cases empty : marks.get role = [] <;> simp [lengthProblem?, empty]

/-- Two marks do not clash unless they are the same and not empty. -/
theorem clash?_eq_none_iff {roles : Role × Role} :
    marks.clash? roles = none ↔
      (marks.get roles.1 = marks.get roles.2 → marks.get roles.1 = []) := by
  by_cases same : marks.get roles.1 = marks.get roles.2 <;> simp [clash?, same]

/-- Nothing is wrong exactly with texts that can be used. -/
theorem problems_eq_nil_iff : marks.problems = [] ↔ marks.Usable := by
  simp only [problems, List.append_eq_nil_iff, List.filterMap_eq_nil_iff,
    lengthProblem?_eq_none_iff, clash?_eq_none_iff]
  constructor
  · rintro ⟨lengths, clashes⟩
    have visible (role : Role) := (lengths role role.mem_all).1
    refine ⟨visible, fun role => (lengths role role.mem_all).2, fun first second same => ?_⟩
    refine Classical.byContradiction fun different => ?_
    rcases Role.ne_iff_mem_pairs.mp different with listed | listed
    · exact visible first (clashes _ listed same)
    · exact visible second (clashes _ listed same.symm)
  · intro usable
    refine ⟨fun role _ => ⟨usable.visible role, usable.short role⟩, fun roles listed same => ?_⟩
    exact absurd (usable.distinct _ _ same) (Role.ne_iff_mem_pairs.mpr (.inl listed))

end Marks

namespace Delimiters

/-- Delimiters are made of some marks exactly when these are their marks. -/
theorem ofMarks_eq_ok_iff {marks : Marks} {delimiters : Delimiters} :
    ofMarks marks = .ok delimiters ↔ delimiters.toMarks = marks := by
  unfold ofMarks
  split
  · next sound =>
    constructor
    · intro same
      rw [← Except.ok.inj same]
    · rintro rfl
      rfl
  · next problem rest found =>
    constructor
    · nofun
    · rintro rfl
      rw [delimiters.sound] at found
      contradiction

/-- Exactly the texts with which nothing is wrong become delimiters. -/
theorem isSome_ofMarks_iff {marks : Marks} :
    (ofMarks marks).toOption.isSome = true ↔ marks.problems = [] := by
  constructor
  · intro built
    cases result : ofMarks marks with
    | ok delimiters => exact ofMarks_eq_ok_iff.mp result ▸ delimiters.sound
    | error problem => simp [result, Except.toOption] at built
  · intro sound
    have built : ofMarks marks = .ok ⟨marks, sound⟩ := ofMarks_eq_ok_iff.mpr rfl
    simp [built, Except.toOption]

end Delimiters

end PageTokens
