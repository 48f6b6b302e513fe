import PageTokens.Proofs.Rereading
import PageTokens.Proofs.RoundTrip

/-!
# Legible tokens

Delimiters need only be different. One may be a part of another, and a part of a token may end
like the delimiter behind it begins, so keeping the delimiters out of every part does not make a
token read back (`not_reads_brace`). What counts is that each delimiter that is written stands
there for the first time. `Token.Placed` says this of the places in a token one by one, and
`reads_iff_placed` shows that with parts that are trimmed and lists of two items or more it is
exactly what reading a token back takes.
-/

namespace PageTokens

namespace Token

variable {delimiters : Delimiters} {marks : Marks} {token : Token}

/-- The texts of the fields are written one by one. -/
theorem fieldTexts_eq (marks : Marks) (token : Token) :
    token.fieldTexts marks = token.parameters.fields.map (Field.text marks) := by
  rw [fieldTexts, Parameters.fields, List.map_append, List.map_map, List.map_map]
  rfl

/-- The body of a token is its name and its fields with separators between them. -/
theorem body_eq_join (marks : Marks) (token : Token) :
    token.body marks = Text.join marks.parameter (token.name :: token.fieldTexts marks) := by
  rw [body_eq]
  cases token.fieldTexts marks with
  | nil => rw [List.flatMap_nil, List.append_nil, Text.join_singleton]
  | cons first rest =>
    rw [Text.flatMap_append_eq_join, Text.join_cons_cons, List.append_assoc]

/-- Parameters that are read from their own text are read from the texts of their fields. -/
theorem split_eq_of_read (some : token.fieldTexts delimiters.toMarks ≠ [])
    (same : Parameters.read delimiters.toMarks
      (Text.join delimiters.parameter (token.fieldTexts delimiters.toMarks)) = token.parameters) :
    Text.split delimiters.parameter
        (Text.join delimiters.parameter (token.fieldTexts delimiters.toMarks)) =
          token.fieldTexts delimiters.toMarks ∧
      ∀ field ∈ token.parameters.fields,
        Field.read delimiters.toMarks (field.text delimiters.toMarks) = field := by
  have solid := delimiters.parameter_ne_nil
  generalize cut : Text.split delimiters.parameter
    (Text.join delimiters.parameter (token.fieldTexts delimiters.toMarks)) = pieces
  have joined : Text.join delimiters.parameter pieces =
      Text.join delimiters.parameter (token.fieldTexts delimiters.toMarks) := by
    rw [← cut, Text.join_split solid]
  have parted : Text.Parted delimiters.parameter pieces := cut ▸ Text.parted_split solid _
  rw [Parameters.read, cut] at same
  have long : Text.extent delimiters.parameter pieces =
      Text.extent delimiters.parameter (token.fieldTexts delimiters.toMarks) := by
    rw [← Text.length_join _ parted.ne_nil, ← Text.length_join _ some, joined]
  rw [fieldTexts_eq] at long joined ⊢
  have unchanged :=
    (Parameters.perm_of_ofFields delimiters.multivalue_ne_nil solid same long.le).2
  have reordered :=
    Parameters.reordered_of_ofFields delimiters.multivalue_ne_nil solid same long.le
  have equal := reordered.eq_of_join_eq (by rwa [unchanged]) (by rw [unchanged, joined])
  rw [equal] at unchanged
  exact ⟨unchanged.symm, equal ▸ reordered.again⟩

/-- A token is read from its own body exactly when its name is trimmed, the parameter separator
keeps its name and its fields apart, and each field is read from its own text. -/
theorem ofBody_body_eq_iff :
    ofBody delimiters.toMarks (token.body delimiters.toMarks) = token ↔
      Text.trim token.name = token.name ∧
        Text.Parted delimiters.parameter (token.name :: token.fieldTexts delimiters.toMarks) ∧
        ∀ field ∈ token.parameters.fields,
          Field.read delimiters.toMarks (field.text delimiters.toMarks) = field := by
  rw [body_eq_join]
  have made : Parameters.ofFields token.parameters.fields = token.parameters :=
    Parameters.ofFields_eq token.parameters
  constructor
  · intro same
    cases texts : token.fieldTexts delimiters.toMarks with
    | nil =>
      have fieldless : token.parameters.fields = [] := by
        rw [fieldTexts_eq, List.map_eq_nil_iff] at texts
        exact texts
      have free : token.Free Text.Lacks delimiters.toMarks [] :=
        same ▸ free_ofBody (List.forall_mem_nil _)
      have lacks := free.name.separated delimiters.parameter List.mem_cons_self
      exact ⟨free.name.trimmed, .last lacks, by simp [fieldless]⟩
    | cons first rest =>
      have some : token.fieldTexts delimiters.toMarks ≠ [] := by simp [texts]
      rw [texts, Text.join_cons_cons, ← texts] at same
      cases found : Text.cut? delimiters.parameter (token.name ++ delimiters.parameter ++
          Text.join delimiters.parameter (token.fieldTexts delimiters.toMarks)) with
      | none => exact absurd ⟨_, _, rfl⟩ (Text.cut?_eq_none_iff.mp found)
      | some parts =>
        obtain ⟨before, after⟩ := parts
        obtain ⟨whole, leads⟩ := Text.cut?_eq_some_iff.mp found
        simp only [ofBody, cutBody, found, Option.map_some, Option.getD_some] at same
        have trimmed : Text.trim before = token.name := congrArg Token.name same
        have read := congrArg Token.parameters same
        obtain rfl : before = token.name :=
          Text.eq_of_prefix_of_trim_eq (leads.prefix_of_append_eq whole.symm) trimmed
        rw [← List.append_cancel_left whole] at read
        obtain ⟨split, again⟩ := split_eq_of_read some read
        have parted := (Text.split_join_eq_iff delimiters.parameter_ne_nil).mp split
        exact ⟨trimmed, texts ▸ .more leads parted, again⟩
  · rintro ⟨trimmed, parted, again⟩
    have texts := fieldTexts_eq delimiters.toMarks token
    cases fields : token.parameters.fields with
    | nil =>
      rw [fields, List.map_nil] at texts
      rw [texts, Text.parted_singleton_iff] at parted
      rw [fields] at made
      rw [texts, Text.join_singleton, ofBody, cutBody, Text.cut?_eq_none_iff.mpr parted]
      simp only [Option.map_none, Option.getD_none, trimmed]
      exact congrArg (Token.mk token.name) made
    | cons first rest =>
      have read : (token.parameters.fields.map (Field.text delimiters.toMarks)).map
          (Field.read delimiters.toMarks) = token.parameters.fields := by
        rw [List.map_map]
        exact (List.map_congr_left again).trans (List.map_id _)
      rw [fields, List.map_cons] at texts
      rw [texts, Text.parted_cons_cons_iff] at parted
      obtain ⟨leads, behind⟩ := parted
      rw [texts, Text.join_cons_cons, ofBody, cutBody, Text.cut?_append leads]
      simp only [Option.map_some, Option.getD_some, Parameters.read, trimmed,
        (Text.split_join_eq_iff delimiters.parameter_ne_nil).mpr behind]
      rw [← List.map_cons, ← fields, read, made]

/-- A token that is read is written with no more characters than it was read from. -/
theorem length_body_ofBody_le (delimiters : Delimiters) (body : Text) :
    ((ofBody delimiters.toMarks body).body delimiters.toMarks).length ≤ body.length := by
  cases found : Text.cut? delimiters.parameter body with
  | none =>
    have uncut : ofBody delimiters.toMarks body = ⟨Text.trim body, .none⟩ := by
      rw [ofBody, cutBody, found]
      rfl
    rw [uncut, body_eq]
    simpa [fieldTexts, Parameters.none, Dictionary.empty] using (Text.trim_sublist body).length_le
  | some parts =>
    obtain ⟨name, raw⟩ := parts
    have cut : ofBody delimiters.toMarks body =
        ⟨Text.trim name, Parameters.read delimiters.toMarks raw⟩ := by
      rw [ofBody, cutBody, found]
      rfl
    rw [cut, body_eq_join, fieldTexts_eq, Text.eq_of_cut? found]
    generalize made : Parameters.read delimiters.toMarks raw = parameters
    obtain ⟨more, all⟩ := Parameters.exists_perm_of_ofFields made
    have fieldsShort := Parameters.extent_add_le delimiters.multivalue_ne_nil all
    have nameShort := (Text.trim_sublist name).length_le
    have long := Text.length_join delimiters.parameter (List.cons_ne_nil
      (Text.trim name) (parameters.fields.map (Field.text delimiters.toMarks)))
    have rawLong := Text.length_join delimiters.parameter
      (Text.split_ne_nil delimiters.parameter_ne_nil raw)
    rw [Text.extent_cons] at long
    rw [Text.join_split delimiters.parameter_ne_nil] at rawLong
    simp only [List.length_append]
    omega

/-- The text of a token is read as one occurrence with the same name and parameters. -/
def Reads (delimiters : Delimiters) (token : Token) : Prop :=
  ∃ occurrence, occurrences delimiters (token.written delimiters.toMarks) = [occurrence] ∧
    occurrence.token = token

/-- A token that is read is read from its whole text, for a part of its body is too short. -/
theorem reads_iff_ofBody :
    token.Reads delimiters ↔ (token.body delimiters.toMarks).LeadsTo delimiters.stop ∧
      ofBody delimiters.toMarks (token.body delimiters.toMarks) = token := by
  constructor
  · rintro ⟨occurrence, single, same⟩
    have tokens := Page.tokens_occurrencesFrom delimiters.toMarks 0
      (Page.ofText delimiters (token.written delimiters.toMarks)).segments
    rw [← occurrences, single, List.map_singleton, same] at tokens
    have formed := Page.formed_ofText delimiters (token.written delimiters.toMarks)
    have whole := Page.toText_ofText delimiters (token.written delimiters.toMarks)
    generalize Page.ofText delimiters (token.written delimiters.toMarks) = page
      at tokens formed whole
    obtain ⟨segments, tail⟩ := page
    obtain ⟨segment, rfl⟩ : ∃ segment, segments = [segment] :=
      List.length_eq_one_iff.mp (by simpa using (congrArg List.length tokens).symm)
    obtain ⟨literal, body⟩ := segment
    have literalLeads := formed.literals _ (List.mem_singleton_self _)
    have bodyLeads := formed.bodies _ (List.mem_singleton_self _)
    simp only [Page.toText, Segment.toText, Segment.token, List.flatMap_singleton, written]
      at whole literalLeads bodyLeads
    have opened : literal ++ delimiters.start ++ (body ++ delimiters.stop ++ tail) =
        [] ++ delimiters.start ++ (token.body delimiters.toMarks ++ delimiters.stop) := by
      simpa using whole
    obtain rfl := List.prefix_nil.mp (literalLeads.prefix_of_append_eq opened)
    have closed : body ++ delimiters.stop ++ tail =
        token.body delimiters.toMarks ++ delimiters.stop ++ [] := by
      simpa using whole
    have begins := bodyLeads.prefix_of_append_eq closed
    have read : token = ofBody delimiters.toMarks body := by simpa using tokens
    have short := length_body_ofBody_le delimiters body
    rw [← read] at short
    obtain rfl := begins.eq_of_length_le short
    exact ⟨bodyLeads, read.symm⟩
  · intro read
    obtain ⟨occurrence, single, -, same⟩ := readsBack_iff_ofBody.mpr read
    exact ⟨occurrence, single, same⟩

/-- The texts that a token is made of: the name, the keys, and the items of the values. -/
def texts (token : Token) : List Text :=
  token.name ::
    (token.parameters.named.keys ++ token.parameters.values.flatMap Value.items)

/-- The texts of a token have no blanks at their ends, and its lists have two items or more. -/
structure Tidy (token : Token) : Prop where
  trimmed : ∀ text ∈ token.texts, Text.trim text = text
  several : ∀ value ∈ token.parameters.values, value.isMulti = true → 2 ≤ value.items.length

/-- No text of a token holds a delimiter. -/
def Undelimited (marks : Marks) (token : Token) : Prop :=
  ∀ text ∈ token.texts, ∀ role ∈ Role.all, text.Lacks (marks.get role)

instance (marks : Marks) (token : Token) : Decidable (token.Undelimited marks) :=
  inferInstanceAs (Decidable (∀ text ∈ token.texts, ∀ role ∈ Role.all,
    ¬ marks.get role <:+: text))

/-- In a written token each delimiter first stands where it was written: between the name and the
parameters, behind each key but in no positional value, between the items of the lists, and at the
end. -/
structure Placed (marks : Marks) (token : Token) : Prop where
  parameters : Text.Parted marks.parameter (token.name :: token.fieldTexts marks)
  keyless : ∀ value ∈ token.parameters.positional,
    (value.join marks.multivalue).Lacks marks.keyValue
  keys : ∀ key ∈ token.parameters.named.keys, key.LeadsTo marks.keyValue
  items : ∀ value ∈ token.parameters.values, Text.Parted marks.multivalue value.items
  stop : (token.body marks).LeadsTo marks.stop

/-- The fields of a token are read from their texts exactly when their parts are. -/
theorem forall_fields_read_iff :
    (∀ field ∈ token.parameters.fields,
        Field.read delimiters.toMarks (field.text delimiters.toMarks) = field) ↔
      (∀ value ∈ token.parameters.positional,
          (value.join delimiters.multivalue).Lacks delimiters.keyValue) ∧
        (∀ key ∈ token.parameters.named.keys,
          Text.trim key = key ∧ key.LeadsTo delimiters.keyValue) ∧
        ∀ value ∈ token.parameters.values,
          Value.read delimiters.multivalue (value.join delimiters.multivalue) = value := by
  have positional (value : Value) :=
    @Field.read_join_eq_iff delimiters.toMarks value
  have named (entry : Text × Value) :=
    @Field.read_append_join_eq_iff delimiters.toMarks entry.2 entry.1
  simp only [Parameters.fields, Parameters.values, Dictionary.keys, Dictionary.values,
    List.forall_mem_append, List.forall_mem_map, Field.text, Field.ofValue, Field.ofEntry]
    at positional named ⊢
  simp only [positional, named, forall_and]
  tauto

/-- The text of a token is read as one occurrence with the same name and parameters exactly when
its texts are trimmed, its lists have two items or more, and each delimiter first stands where it
was written. -/
theorem reads_iff_placed (delimiters : Delimiters) (token : Token) :
    token.Reads delimiters ↔ token.Tidy ∧ token.Placed delimiters.toMarks := by
  rw [reads_iff_ofBody, ofBody_body_eq_iff, forall_fields_read_iff]
  simp only [Value.read_join_eq_iff delimiters.multivalue_ne_nil]
  constructor
  · rintro ⟨stop, name, parameters, keyless, keys, values⟩
    refine ⟨⟨?_, fun value member => (values value member).2.1⟩,
      ⟨parameters, keyless, fun key member => (keys key member).2,
        fun value member => (values value member).2.2, stop⟩⟩
    refine List.forall_mem_cons.mpr ⟨name, List.forall_mem_append.mpr
      ⟨fun key member => (keys key member).1, fun item member => ?_⟩⟩
    obtain ⟨value, inValues, inItems⟩ := List.mem_flatMap.mp member
    exact (values value inValues).1 item inItems
  · rintro ⟨tidy, placed⟩
    obtain ⟨name, rest⟩ := List.forall_mem_cons.mp tidy.trimmed
    obtain ⟨keys, items⟩ := List.forall_mem_append.mp rest
    refine ⟨placed.stop, name, placed.parameters, placed.keyless,
      fun key member => ⟨keys key member, placed.keys key member⟩, fun value member =>
        ⟨fun item inItems => items item (List.mem_flatMap.mpr ⟨value, member, inItems⟩),
          tidy.several value member, placed.items value member⟩⟩

/-- A value that ends with a closing brace holds no delimiter, but the two braces that end the
token first stand one character too early. -/
theorem not_reads_brace :
    let token : Token := ⟨"a".toList, [.single "b\x7d".toList], .empty⟩
    token.Tidy ∧ token.Undelimited Marks.standard ∧ ¬ token.Reads .standard := by
  refine ⟨⟨by decide, by decide⟩, by decide, fun reads => ?_⟩
  exact absurd (reads_iff_ofBody.mp reads).1 (by decide)

end Token
end PageTokens
