import Mathlib.Data.List.Lex
import PageTokens.Proofs.Ascending
import PageTokens.Proofs.Closed

/-!
# What is wrong with five texts

`Marks.Faults` says what can be wrong with five texts, and against which role it
is reported. `DelimiterError.place` says where an error is listed: lengths come
before clashes, both in the order of the roles. `eq_problems_iff` shows that the
two determine the list of problems.

`problems_enumerate_faults` adds what becomes of the list: its first error is
the answer of the constructor, and a configuration reports all of it.
-/

namespace PageTokens

namespace Role

/-- The place of a role in the order in which delimiters are listed. -/
def index (role : Role) : Nat := all.idxOf role

/-- The pairs of roles are those in which the first role is listed before the second. -/
theorem mem_pairs_iff {first second : Role} :
    (first, second) ∈ pairs ↔ first.index < second.index := by
  cases first <;> cases second <;> decide

end Role

/-- The place at which an error is listed. -/
def DelimiterError.place : DelimiterError → List Nat
  | empty role | tooLong role _ => [0, role.index]
  | duplicate first second _ => [1, first.index, second.index]

namespace Marks

variable {marks : Marks} {role : Role} {roles : Role × Role} {error : DelimiterError}

/-- What is wrong with five texts, and the role against which it is reported. -/
inductive Faults (marks : Marks) : Role → DelimiterError → Prop
  | empty {role : Role} (blank : marks.get role = []) : Faults marks role (.empty role)
  | tooLong {role : Role} (long : 5 < (marks.get role).length) :
      Faults marks role (.tooLong role (marks.get role).length)
  | duplicate {first second : Role} (before : first.index < second.index)
      (visible : marks.get first ≠ []) (same : marks.get first = marks.get second) :
      Faults marks second (.duplicate first second (marks.get first))

/-- A delimiter of a wrong length is a fault of its role, listed by that role in front of all
clashes. -/
theorem faults_of_lengthProblem? (found : marks.lengthProblem? role = some error) :
    marks.Faults role error ∧ error.place = [0, role.index] := by
  simp only [lengthProblem?] at found
  split at found
  · next blank =>
    obtain rfl := Option.some.inj found
    exact ⟨.empty (List.eq_nil_of_length_eq_zero blank), rfl⟩
  · split at found
    · next long =>
      obtain rfl := Option.some.inj found
      exact ⟨.tooLong long, rfl⟩
    · contradiction

/-- Two delimiters that are the same are a fault of the second role, listed by both behind the
lengths. -/
theorem faults_of_clash? (listed : roles ∈ Role.pairs) (found : marks.clash? roles = some error) :
    marks.Faults roles.2 error ∧ error.place = [1, roles.1.index, roles.2.index] := by
  unfold clash? at found
  split at found
  · next clashes =>
    obtain rfl := Option.some.inj found
    exact ⟨.duplicate (Role.mem_pairs_iff.mp listed) clashes.1 clashes.2, rfl⟩
  · contradiction

/-- The problems of five texts are what is wrong with them. -/
theorem mem_problems_iff : error ∈ marks.problems ↔ ∃ role, marks.Faults role error := by
  constructor
  · intro member
    rcases List.mem_append.mp member with inLengths | inClashes
    · obtain ⟨role, -, found⟩ := List.mem_filterMap.mp inLengths
      exact ⟨role, (faults_of_lengthProblem? found).1⟩
    · obtain ⟨roles, listed, found⟩ := List.mem_filterMap.mp inClashes
      exact ⟨roles.2, (faults_of_clash? listed found).1⟩
  · rintro ⟨role, faults⟩
    cases faults with
    | empty blank =>
      refine List.mem_append_left _ (List.mem_filterMap.mpr ⟨role, role.mem_all, ?_⟩)
      simp [lengthProblem?, blank]
    | tooLong long =>
      have visible : marks.get role ≠ [] := List.ne_nil_of_length_pos (by omega)
      refine List.mem_append_left _ (List.mem_filterMap.mpr ⟨role, role.mem_all, ?_⟩)
      simp [lengthProblem?, visible, Delimiters.maximumLength, long]
    | @duplicate first _ before visible same =>
      have listed : (first, role) ∈ Role.pairs := Role.mem_pairs_iff.mpr before
      refine List.mem_append_right _ (List.mem_filterMap.mpr ⟨_, listed, ?_⟩)
      simp only [clash?, ← same, visible, ne_eq, not_false_eq_true, and_self, if_true]

/-- Lengths are listed before clashes, and both in the order of the roles. -/
theorem problems_ascending (marks : Marks) :
    marks.problems.Pairwise fun one other => one.place < other.place := by
  -- The first number of a place keeps clashes behind lengths, the others follow the roles.
  refine List.pairwise_append.mpr ⟨?_, ?_, fun one inLengths other inClashes => ?_⟩
  · have ascending : Role.all.Pairwise fun one other => one.index < other.index := by decide
    refine List.pairwise_filterMap.mpr (ascending.imp ?_)
    intro one other before first foundFirst second foundSecond
    rw [(faults_of_lengthProblem? foundFirst).2, (faults_of_lengthProblem? foundSecond).2]
    exact List.cons_lt_cons_self.mpr (List.cons_lt_cons_iff.mpr (.inl before))
  · have ascending : Role.pairs.Pairwise fun one other =>
        [1, one.1.index, one.2.index] < [1, other.1.index, other.2.index] := by decide
    refine List.pairwise_filterMap.mpr (ascending.imp_of_mem ?_)
    intro one other inPairs otherInPairs before first foundFirst second foundSecond
    rw [(faults_of_clash? inPairs foundFirst).2, (faults_of_clash? otherInPairs foundSecond).2]
    exact before
  · obtain ⟨role, -, found⟩ := List.mem_filterMap.mp inLengths
    obtain ⟨roles, listed, clash⟩ := List.mem_filterMap.mp inClashes
    rw [(faults_of_lengthProblem? found).2, (faults_of_clash? listed clash).2]
    exact List.cons_lt_cons_iff.mpr (.inl Nat.zero_lt_one)

/-- The list of problems is the only one that holds all that is wrong, each error at its place. -/
theorem eq_problems_iff {errors : List DelimiterError} :
    errors = marks.problems ↔
      errors.Pairwise (fun one other => one.place < other.place) ∧
        ∀ error, error ∈ errors ↔ ∃ role, marks.Faults role error := by
  constructor
  · rintro rfl
    exact ⟨marks.problems_ascending, fun error => mem_problems_iff⟩
  · rintro ⟨ascending, complete⟩
    refine eq_of_ascending ascending marks.problems_ascending fun error => ?_
    rw [complete, mem_problems_iff]

/-- Delimiters can be used when each has a length from one to five and no two are the same. -/
theorem usable_iff :
    marks.Usable ↔ (∀ role, 1 ≤ (marks.get role).length ∧ (marks.get role).length ≤ 5) ∧
      ∀ first second, first ≠ second → marks.get first ≠ marks.get second := by
  constructor
  · intro usable
    refine ⟨fun role => ⟨List.length_pos_iff.mpr (usable.visible role), usable.short role⟩, ?_⟩
    exact fun first second different same => different (usable.distinct first second same)
  · rintro ⟨lengths, distinct⟩
    refine ⟨fun role => List.length_pos_iff.mp (lengths role).1, fun role => (lengths role).2, ?_⟩
    exact fun first second same => by_contra fun different => distinct first second different same

end Marks

namespace Delimiters

variable {marks : Marks}

/-- Exactly the texts that can be used become delimiters. -/
theorem exists_ofMarks_iff :
    (∃ delimiters, ofMarks marks = .ok delimiters) ↔ marks.Usable := by
  rw [← Marks.problems_eq_nil_iff]
  constructor
  · rintro ⟨delimiters, built⟩
    exact ofMarks_eq_ok_iff.mp built ▸ delimiters.sound
  · intro sound
    exact ⟨⟨marks, sound⟩, ofMarks_eq_ok_iff.mpr rfl⟩

/-- Texts that cannot be used are refused for the first of their problems. -/
theorem ofMarks_eq_error_iff {error : DelimiterError} :
    ofMarks marks = .error error ↔ marks.problems.head? = some error := by
  unfold ofMarks
  split
  · next sound => simp [sound]
  · next problem rest found => simp [found]

end Delimiters

/-- A configuration reports the problems of its delimiters against their fields, and nothing else
against such a field. -/
theorem Configuration.filter_problems (configuration : Configuration) :
    (configuration.problems.filter fun problem => "delimiters.".toList <+: problem.field) =
      configuration.marks.problems.map Problem.delimiter := by
  rw [problems, List.filter_append, List.filter_eq_self.mpr, List.filter_eq_nil_iff.mpr,
    List.append_nil]
  · intro problem inTables about
    obtain ⟨entry, -, inTable⟩ := List.mem_flatMap.mp inTables
    obtain ⟨error, same⟩ := Problem.prefix_field_iff.mp (of_decide_eq_true about)
    exact TokenTable.ne_delimiter inTable error same
  · intro problem inMarks
    obtain ⟨error, -, rfl⟩ := List.mem_map.mp inMarks
    exact decide_eq_true (Problem.prefix_field_iff.mpr ⟨error, rfl⟩)

/-- What is wrong with five texts is listed once each: lengths in the order of the roles, then the
clashes of two roles in the order of the pairs. Five texts become delimiters exactly when each has
one to five characters and no two are equal; then each role has its text, and otherwise the answer
is the first error of the list. Whatever else a configuration says, what it reports of its
delimiters is this list, each error against the field of its role. -/
theorem Marks.problems_enumerate_faults (marks : Marks) :
    (∀ errors, errors = marks.problems ↔
        errors.Pairwise (fun one other => one.place < other.place) ∧
          ∀ error, error ∈ errors ↔ ∃ role, marks.Faults role error) ∧
      ((∃ delimiters, Delimiters.ofMarks marks = .ok delimiters) ↔
        (∀ role, 1 ≤ (marks.get role).length ∧ (marks.get role).length ≤ 5) ∧
          ∀ first second, first ≠ second → marks.get first ≠ marks.get second) ∧
      (∀ delimiters, Delimiters.ofMarks marks = .ok delimiters →
        ∀ role, delimiters.get role = marks.get role) ∧
      (∀ error, Delimiters.ofMarks marks = .error error ↔ marks.problems.head? = some error) ∧
      ∀ (policy : HookPolicy) (tokens : Dictionary Text TokenTable),
        List.Forall₂
          (fun error problem => ∃ role, marks.Faults role error ∧
            problem.field = "delimiters.".toList ++ role.name ∧
              problem.message = error.message ∧ problem.severity = .warn)
          marks.problems
          ((Configuration.mk policy marks tokens).problems.filter fun problem =>
            "delimiters.".toList <+: problem.field) := by
  refine ⟨fun errors => eq_problems_iff, ?_, ?_, fun error => Delimiters.ofMarks_eq_error_iff, ?_⟩
  · rw [Delimiters.exists_ofMarks_iff, usable_iff]
  · intro delimiters built role
    rw [← Delimiters.ofMarks_eq_ok_iff.mp built]
  · intro policy tokens
    rw [Configuration.filter_problems, List.forall₂_map_right_iff, List.forall₂_same]
    intro error member
    obtain ⟨role, faults⟩ := mem_problems_iff.mp member
    refine ⟨role, faults, ?_, rfl, rfl⟩
    cases faults <;> rfl

/-- A text that is too long and stands in three roles clashes three times; empty texts do not. -/
example :
    let long := "ababab".toList
    (Marks.mk long [] long [] long).problems =
      [.tooLong .start 6, .empty .stop, .tooLong .parameter 6, .empty .keyValue,
        .tooLong .multivalue 6, .duplicate .start .parameter long,
        .duplicate .start .multivalue long, .duplicate .parameter .multivalue long] := by
  decide

end PageTokens
