import PageTokens.Text.Cut

/-!
# Delimiters

Five texts delimit the tokens of a page: two around a token, one before each
parameter, one between key and value, and one between the items of a list.
`Marks` holds any five texts and `Marks.problems` lists what is wrong with
them. `Delimiters` holds five texts with which nothing is wrong.
-/

namespace PageTokens

/-- What a delimiter is for. -/
inductive Role
  | start
  | stop
  | parameter
  | keyValue
  | multivalue
deriving DecidableEq, Repr

namespace Role

/-- The roles in the order in which delimiters are listed. -/
def all : List Role := [start, stop, parameter, keyValue, multivalue]

/-- The name of a role in configuration files and messages. -/
def name : Role → Text
  | start => "start".toList
  | stop => "end".toList
  | parameter => "param_separator".toList
  | keyValue => "key_value_separator".toList
  | multivalue => "multivalue_separator".toList

/-- The pairs of different roles, the earlier role first, in ascending order. -/
def pairs : List (Role × Role) :=
  [(start, stop), (start, parameter), (start, keyValue), (start, multivalue), (stop, parameter),
    (stop, keyValue), (stop, multivalue), (parameter, keyValue), (parameter, multivalue),
    (keyValue, multivalue)]

end Role

/-- The greatest number of characters in a delimiter. -/
def Delimiters.maximumLength : Nat := 5

/-- A reason for which five texts cannot serve as delimiters. -/
inductive DelimiterError
  | empty (role : Role)
  | tooLong (role : Role) (length : Nat)
  | duplicate (first second : Role) (value : Text)
deriving DecidableEq

namespace DelimiterError

/-- The delimiter an error is reported against. -/
def role : DelimiterError → Role
  | empty role => role
  | tooLong role _ => role
  | duplicate _ second _ => second

/-- The text of an error. -/
def message : DelimiterError → Text
  | empty role => "delimiter ".toList ++ Text.inApostrophes role.name ++ " must not be empty".toList
  | tooLong role length =>
    "delimiter ".toList ++ Text.inApostrophes role.name ++ " is ".toList ++ Text.ofNat length ++
      " characters long (maximum ".toList ++ Text.ofNat Delimiters.maximumLength ++ ")".toList
  | duplicate first second value =>
    "delimiters ".toList ++ Text.inApostrophes first.name ++ " and ".toList ++
      Text.inApostrophes second.name ++ " are both ".toList ++ Text.inApostrophes value

end DelimiterError

/-- Five texts, one for each role. -/
structure Marks where
  start : Text
  stop : Text
  parameter : Text
  keyValue : Text
  multivalue : Text
deriving DecidableEq

namespace Marks

/-- The text for a role. -/
def get (marks : Marks) : Role → Text
  | .start => marks.start
  | .stop => marks.stop
  | .parameter => marks.parameter
  | .keyValue => marks.keyValue
  | .multivalue => marks.multivalue

/-- What is wrong with the length of the text for a role. -/
def lengthProblem? (marks : Marks) (role : Role) : Option DelimiterError :=
  let length := (marks.get role).length
  if length = 0 then some (.empty role)
  else if Delimiters.maximumLength < length then some (.tooLong role length)
  else none

/-- The clash between the texts for two roles. Empty texts do not clash. -/
def clash? (marks : Marks) (roles : Role × Role) : Option DelimiterError :=
  if marks.get roles.1 ≠ [] ∧ marks.get roles.1 = marks.get roles.2 then
    some (.duplicate roles.1 roles.2 (marks.get roles.1))
  else none

/-- Everything that is wrong with five texts: first the lengths, then the clashes. -/
def problems (marks : Marks) : List DelimiterError :=
  Role.all.filterMap marks.lengthProblem? ++ Role.pairs.filterMap marks.clash?

/-- The delimiters of a page that says nothing about them. -/
def standard : Marks :=
  ⟨"\x7b\x7b".toList, "\x7d\x7d".toList, "|".toList, ":".toList, ",".toList⟩

end Marks

/-- Five texts of one to five characters, no two of them equal. -/
structure Delimiters extends Marks where
  sound : toMarks.problems = []
deriving DecidableEq

namespace Delimiters

/-- The given texts as delimiters, or the first thing that is wrong with them. -/
def ofMarks (marks : Marks) : Except DelimiterError Delimiters :=
  match sound : marks.problems with
  | [] => .ok ⟨marks, sound⟩
  | problem :: _ => .error problem

/-- The delimiters of a page that says nothing about them. -/
def standard : Delimiters := ⟨Marks.standard, by decide⟩

/-- No delimiter is empty, so each search for one goes forward. -/
theorem get_ne_nil (delimiters : Delimiters) (role : Role) : delimiters.get role ≠ [] := by
  intro empty
  have listed : DelimiterError.empty role ∈ delimiters.problems := by
    refine List.mem_append_left _ (List.mem_filterMap.mpr ⟨role, ?_, ?_⟩)
    · cases role <;> simp [Role.all]
    · simp [Marks.lengthProblem?, empty]
  rw [delimiters.sound] at listed
  contradiction

theorem start_ne_nil (delimiters : Delimiters) : delimiters.start ≠ [] :=
  delimiters.get_ne_nil .start

theorem stop_ne_nil (delimiters : Delimiters) : delimiters.stop ≠ [] :=
  delimiters.get_ne_nil .stop

theorem parameter_ne_nil (delimiters : Delimiters) : delimiters.parameter ≠ [] :=
  delimiters.get_ne_nil .parameter

theorem keyValue_ne_nil (delimiters : Delimiters) : delimiters.keyValue ≠ [] :=
  delimiters.get_ne_nil .keyValue

theorem multivalue_ne_nil (delimiters : Delimiters) : delimiters.multivalue ≠ [] :=
  delimiters.get_ne_nil .multivalue

/-- Delimiters of different roles are different. -/
theorem get_ne_get (delimiters : Delimiters) {first second : Role}
    (pair : (first, second) ∈ Role.pairs) : delimiters.get first ≠ delimiters.get second := by
  intro same
  have listed : DelimiterError.duplicate first second (delimiters.get first) ∈
      delimiters.problems := by
    refine List.mem_append_right _ (List.mem_filterMap.mpr ⟨(first, second), pair, ?_⟩)
    simp [Marks.clash?, ← same, delimiters.get_ne_nil first]
  rw [delimiters.sound] at listed
  contradiction

end Delimiters
end PageTokens
