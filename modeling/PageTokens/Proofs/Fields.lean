import PageTokens.Proofs.Separation
import PageTokens.Token

/-!
# The parts of a token

`Token.Free` says what the name, the keys and the values of a token are apart
from. `ofBody_body` shows that such a token is read back as it was written,
when no two separators share a character. `free_ofBody` shows that whatever is
read between two delimiters is a token of this kind.

What being apart means is a parameter: to share no character with a separator,
or merely not to hold it. For separators of one character the two agree.
-/

namespace PageTokens

/-- A separator does not stand in a text. -/
def Text.Lacks (text separator : Text) : Prop := ¬ separator <:+: text

/-- A text without blanks at its ends that is apart from given separators. -/
structure Text.Free (apart : Text → Text → Prop) (separators : List Text) (text : Text) :
    Prop where
  trimmed : Text.trim text = text
  separated : ∀ separator ∈ separators, apart text separator

/-- A value whose items are free of given separators. A list has two items or more. -/
structure Value.Free (apart : Text → Text → Prop) (separators : List Text) (value : Value) :
    Prop where
  items : ∀ item ∈ value.items, item.Free apart separators
  several : value.isMulti = true → 2 ≤ value.items.length

/-- A token whose parts are free of the separators that would end them, and of some more
texts. The value of a key may hold the separator between key and value. -/
structure Token.Free (apart : Text → Text → Prop) (marks : Marks) (more : List Text)
    (token : Token) : Prop where
  name : token.name.Free apart (marks.parameter :: more)
  positional : ∀ value ∈ token.parameters.positional,
    value.Free apart (marks.parameter :: marks.keyValue :: marks.multivalue :: more)
  keys : ∀ entry ∈ token.parameters.named.entries,
    entry.1.Free apart (marks.parameter :: marks.keyValue :: more)
  values : ∀ entry ∈ token.parameters.named.entries,
    entry.2.Free apart (marks.parameter :: marks.multivalue :: more)

/-- Separators within a token of which no two share a character. -/
structure Marks.Separate (marks : Marks) : Prop where
  keyValue : marks.keyValue.Disjoint marks.parameter
  multivalue : marks.multivalue.Disjoint marks.parameter
  inner : marks.multivalue.Disjoint marks.keyValue

section Decide

variable (apart : Text → Text → Prop) [DecidableRel apart]

instance Text.decidableDisjoint (text mark : Text) : Decidable (text.Disjoint mark) :=
  decidable_of_iff (text.all (fun char => char ∉ mark) = true) (by simp [List.Disjoint])

instance (separators : List Text) (text : Text) : Decidable (text.Free apart separators) :=
  decidable_of_iff (Text.trim text = text ∧ ∀ separator ∈ separators, apart text separator)
    ⟨fun parts => ⟨parts.1, parts.2⟩, fun free => ⟨free.trimmed, free.separated⟩⟩

instance (separators : List Text) (value : Value) : Decidable (value.Free apart separators) :=
  decidable_of_iff ((∀ item ∈ value.items, item.Free apart separators) ∧
      (value.isMulti = true → 2 ≤ value.items.length))
    ⟨fun parts => ⟨parts.1, parts.2⟩, fun free => ⟨free.items, free.several⟩⟩

instance (marks : Marks) (more : List Text) (token : Token) :
    Decidable (token.Free apart marks more) :=
  decidable_of_iff (token.name.Free apart (marks.parameter :: more) ∧
      (∀ value ∈ token.parameters.positional,
        value.Free apart (marks.parameter :: marks.keyValue :: marks.multivalue :: more)) ∧
      (∀ entry ∈ token.parameters.named.entries,
        entry.1.Free apart (marks.parameter :: marks.keyValue :: more)) ∧
      ∀ entry ∈ token.parameters.named.entries,
        entry.2.Free apart (marks.parameter :: marks.multivalue :: more))
    ⟨fun parts => ⟨parts.1, parts.2.1, parts.2.2.1, parts.2.2.2⟩,
      fun free => ⟨free.name, free.positional, free.keys, free.values⟩⟩

end Decide

section Change

variable {apart other : Text → Text → Prop} {separators fewer : List Text}

/-- A text that is free of more is free of less. -/
theorem Text.Free.mono {text : Text} (free : text.Free apart separators)
    (weaker : ∀ separator ∈ fewer, separator ∈ separators ∧
      ∀ text, apart text separator → other text separator) : text.Free other fewer where
  trimmed := free.trimmed
  separated := fun separator listed =>
    (weaker separator listed).2 text (free.separated separator (weaker separator listed).1)

/-- The same for the items of a value. -/
theorem Value.Free.mono {value : Value} (free : value.Free apart separators)
    (weaker : ∀ separator ∈ fewer, separator ∈ separators ∧
      ∀ text, apart text separator → other text separator) : value.Free other fewer where
  items := fun item member => (free.items item member).mono weaker
  several := free.several

/-- A token stays free when being apart from the separators comes to mean less. -/
theorem Token.Free.mono {marks : Marks} {more : List Text} {token : Token}
    (free : token.Free apart marks more)
    (weaker : ∀ separator ∈ marks.parameter :: marks.keyValue :: marks.multivalue :: more,
      ∀ text, apart text separator → other text separator) : token.Free other marks more := by
  constructor
  · exact free.name.mono fun separator listed => ⟨listed, weaker separator (by grind)⟩
  · exact fun value member =>
      (free.positional value member).mono fun separator listed =>
        ⟨listed, weaker separator listed⟩
  · exact fun entry member =>
      (free.keys entry member).mono fun separator listed =>
        ⟨listed, weaker separator (by grind)⟩
  · exact fun entry member =>
      (free.values entry member).mono fun separator listed =>
        ⟨listed, weaker separator (by grind)⟩

/-- A part of a text that ends at its own separator is free, once trimmed, of this separator
and of all that the text lacks. -/
theorem Text.free_trim_of_infix {text part own : Text} (within : part <:+: text)
    (ended : part.Lacks own)
    (lacks : ∀ separator ∈ separators, separator ≠ own → text.Lacks separator) :
    (Text.trim part).Free Text.Lacks separators := by
  refine ⟨Text.trim_trim part, fun separator listed held => ?_⟩
  have inPart := held.trans (Text.trim_infix part)
  by_cases same : separator = own
  · exact ended (same ▸ inPart)
  · exact lacks separator listed same (inPart.trans within)

end Change

namespace Value

variable {multivalue mark : Text} {separators : List Text} {value : Value}

/-- Joining the items of a free value and reading them gives the value. -/
theorem read_join (solid : multivalue ≠ []) (listed : multivalue ∈ separators)
    (free : value.Free List.Disjoint separators) :
    read multivalue (value.join multivalue) = value := by
  cases value with
  | single text =>
    have item := free.items text (List.mem_singleton_self text)
    have absent : ¬ Text.contains multivalue text = true := by
      rw [Text.contains_iff_infix]
      exact Text.not_infix_of_disjoint solid (item.separated multivalue listed)
    rw [join, read, if_neg absent, item.trimmed]
  | multi items =>
    have several : 2 ≤ items.length := free.several rfl
    have nonempty : items ≠ [] := List.ne_nil_of_length_pos (by omega)
    have trimmed : items.map Text.trim = items :=
      (List.map_congr_left fun item member => (free.items item member).trimmed).trans
        (List.map_id items)
    have stands : Text.contains multivalue (Text.join multivalue items) = true :=
      Text.contains_iff_infix.mpr (Text.infix_join several)
    have again := Text.split_join solid nonempty fun item member =>
      (free.items item member).separated multivalue listed
    rw [join, read, if_pos stands, again, trimmed]

/-- A written value shares no character with a mark with which neither its items nor the
separator between them share one. -/
theorem disjoint_join (between : multivalue.Disjoint mark)
    (items : ∀ item ∈ value.items, item.Disjoint mark) : (value.join multivalue).Disjoint mark := by
  cases value with
  | single text => exact items text (List.mem_singleton_self text)
  | multi texts =>
    intro char inJoin inMark
    rcases Text.mem_join inJoin with inSeparator | ⟨item, member, inItem⟩
    · exact between inSeparator inMark
    · exact items item member inItem inMark

/-- What is read as a value is free of every separator that the field lacks, and of the
separator between items. -/
theorem free_read {field : Text} (solid : multivalue ≠ [])
    (lacks : ∀ separator ∈ separators, separator ≠ multivalue → field.Lacks separator) :
    (read multivalue field).Free Text.Lacks separators := by
  by_cases stands : multivalue <:+: field
  · rw [read, if_pos (Text.contains_iff_infix.mpr stands)]
    constructor
    · intro item member
      obtain ⟨piece, inSplit, rfl⟩ := List.mem_map.mp member
      obtain ⟨within, ended⟩ := Text.infix_of_mem_split solid inSplit
      exact Text.free_trim_of_infix within ended lacks
    · intro _
      simpa [items] using Text.two_le_length_split solid stands
  · rw [read, if_neg (mt Text.contains_iff_infix.mp stands)]
    constructor
    · intro item member
      obtain rfl := List.mem_singleton.mp member
      exact Text.free_trim_of_infix List.infix_rfl stands lacks
    · nofun

end Value

namespace Field

/-- The field of a positional value. -/
def ofValue (value : Value) : Field := ⟨none, value⟩

/-- The field of a key and its value. -/
def ofEntry (entry : Text × Value) : Field := ⟨some entry.1, entry.2⟩

variable {marks : Marks} {separators : List Text} {value : Value}

/-- A written value without a key is read as a field without a key. -/
theorem read_join (separate : marks.Separate) (solidKey : marks.keyValue ≠ [])
    (solidItem : marks.multivalue ≠ []) (listedKey : marks.keyValue ∈ separators)
    (listedItem : marks.multivalue ∈ separators) (free : value.Free List.Disjoint separators) :
    read marks (value.join marks.multivalue) = ofValue value := by
  have noKey : ¬ marks.keyValue <:+: value.join marks.multivalue :=
    Text.not_infix_of_disjoint solidKey <| Value.disjoint_join separate.inner
      fun item member => (free.items item member).separated _ listedKey
  rw [read, Text.cut?_eq_none_iff.mpr noKey]
  simp only [Value.read_join solidItem listedItem free, ofValue]

/-- A written key and value are read as a field with the key. -/
theorem read_append_join {key : Text} (solidKey : marks.keyValue ≠ [])
    (solidItem : marks.multivalue ≠ []) (trimmed : Text.trim key = key)
    (apart : key.Disjoint marks.keyValue) (listedItem : marks.multivalue ∈ separators)
    (free : value.Free List.Disjoint separators) :
    read marks (key ++ marks.keyValue ++ value.join marks.multivalue) = ofEntry (key, value) := by
  rw [read, Text.cut?_append (Text.leadsTo_of_disjoint solidKey apart)]
  simp only [trimmed, Value.read_join solidItem listedItem free, ofEntry]

/-- A field whose parts are free of separators. -/
structure Free (apart : Text → Text → Prop) (marks : Marks) (more : List Text) (field : Field) :
    Prop where
  positional : field.key = none →
    field.value.Free apart (marks.parameter :: marks.keyValue :: marks.multivalue :: more)
  named : ∀ key, field.key = some key → key.Free apart (marks.parameter :: marks.keyValue :: more) ∧
    field.value.Free apart (marks.parameter :: marks.multivalue :: more)

/-- What is read as a field is free of separators when no parameter separator stands in it. -/
theorem free_read {more : List Text} {text : Text} (solidKey : marks.keyValue ≠ [])
    (solidItem : marks.multivalue ≠ [])
    (lacks : ∀ mark ∈ marks.parameter :: more, text.Lacks mark) :
    (read marks text).Free Text.Lacks marks more := by
  unfold read
  split
  · next key value found =>
    obtain ⟨whole, leads⟩ := Text.cut?_eq_some_iff.mp found
    have keyWithin : key <:+: text := ⟨[], marks.keyValue ++ value, by simp [whole]⟩
    have valueWithin : value <:+: text := ⟨key ++ marks.keyValue, [], by simp [whole]⟩
    refine ⟨nofun, fun _ same => ?_⟩
    obtain rfl := Option.some.inj same
    constructor
    · refine Text.free_trim_of_infix keyWithin (Text.not_infix_of_leadsTo solidKey leads) ?_
      intro separator listed different
      exact lacks separator (by grind)
    · refine Value.free_read solidItem fun separator listed different held => ?_
      exact lacks separator (by grind) (held.trans valueWithin)
  · next absent =>
    refine ⟨fun _ => Value.free_read solidItem fun separator listed different => ?_, nofun⟩
    by_cases isKey : separator = marks.keyValue
    · exact isKey ▸ Text.cut?_eq_none_iff.mp absent
    · exact lacks separator (by grind)

end Field

/-- The parameters that the fields of positional and named values make. -/
theorem Parameters.ofFields_eq (parameters : Parameters) :
    ofFields (parameters.positional.map Field.ofValue ++
      parameters.named.entries.map Field.ofEntry) = parameters := by
  have positional : parameters.positional.filterMap (Field.positional? ∘ Field.ofValue) =
      parameters.positional := List.filterMap_some
  have unnamed : parameters.positional.filterMap (Field.named? ∘ Field.ofValue) = [] :=
    List.filterMap_eq_nil_iff.mpr fun _ _ => rfl
  have named : parameters.named.entries.filterMap (Field.named? ∘ Field.ofEntry) =
      parameters.named.entries := List.filterMap_some
  have placeless : parameters.named.entries.filterMap (Field.positional? ∘ Field.ofEntry) = [] :=
    List.filterMap_eq_nil_iff.mpr fun _ _ => rfl
  simp only [ofFields, List.filterMap_append, List.filterMap_map, positional, unnamed, named,
    placeless, List.append_nil, List.nil_append, Dictionary.ofList_entries]

/-- A positional value comes from a field without a key. -/
theorem Parameters.mem_positional_ofFields {fields : List Field} {value : Value}
    (member : value ∈ (ofFields fields).positional) :
    ∃ field ∈ fields, field.key = Option.none ∧ field.value = value := by
  obtain ⟨field, inFields, same⟩ := List.mem_filterMap.mp member
  refine ⟨field, inFields, ?_⟩
  unfold Field.positional? at same
  split at same
  · contradiction
  · next keyless => exact ⟨keyless, Option.some.inj same⟩

/-- A named value comes from a field with its key. -/
theorem Parameters.mem_entries_ofFields {fields : List Field} {entry : Text × Value}
    (member : entry ∈ (ofFields fields).named.entries) :
    ∃ field ∈ fields, field.key = some entry.1 ∧ field.value = entry.2 := by
  obtain ⟨field, inFields, same⟩ := List.mem_filterMap.mp (Dictionary.mem_of_mem_ofList member)
  obtain ⟨key, keyed, rfl⟩ := Option.map_eq_some_iff.mp same
  exact ⟨field, inFields, keyed, rfl⟩

namespace Token

/-- The texts of the parameters of a token: the positional values, and the keys with their
values. -/
def fieldTexts (marks : Marks) (token : Token) : List Text :=
  token.parameters.positional.map (Value.join marks.multivalue) ++
    token.parameters.named.entries.map fun entry =>
      entry.1 ++ marks.keyValue ++ entry.2.join marks.multivalue

/-- The body of a token is its name and its fields, each behind a separator. -/
theorem body_eq (marks : Marks) (token : Token) :
    token.body marks =
      token.name ++ (token.fieldTexts marks).flatMap (marks.parameter ++ ·) := by
  simp [body, fieldTexts, List.flatMap_append, List.flatMap_map]

variable {delimiters : Delimiters} {more : List Text} {token : Token}

/-- Reading the texts of the parameters gives the parameters. -/
theorem ofFields_fieldTexts (separate : delimiters.Separate)
    (free : token.Free List.Disjoint delimiters.toMarks more) :
    Parameters.ofFields ((token.fieldTexts delimiters.toMarks).map
      (Field.read delimiters.toMarks)) = token.parameters := by
  have positional : (token.parameters.positional.map
      (Value.join delimiters.multivalue)).map (Field.read delimiters.toMarks) =
        token.parameters.positional.map Field.ofValue := by
    rw [List.map_map]
    exact List.map_congr_left fun value member =>
      Field.read_join separate delimiters.keyValue_ne_nil delimiters.multivalue_ne_nil
        (by simp) (by simp) (free.positional value member)
  have named : (token.parameters.named.entries.map fun entry =>
      entry.1 ++ delimiters.keyValue ++ entry.2.join delimiters.multivalue).map
        (Field.read delimiters.toMarks) =
          token.parameters.named.entries.map Field.ofEntry := by
    rw [List.map_map]
    exact List.map_congr_left fun entry member =>
      Field.read_append_join delimiters.keyValue_ne_nil delimiters.multivalue_ne_nil
        (free.keys entry member).trimmed ((free.keys entry member).separated _ (by simp))
        (by simp) (free.values entry member)
  rw [fieldTexts, List.map_append, positional, named, Parameters.ofFields_eq]

/-- The text of a parameter shares no character with a mark that is apart from the parts of
the token and from the separators in it. -/
theorem disjoint_of_mem_fieldTexts {mark text : Text}
    (keyValue : delimiters.keyValue.Disjoint mark)
    (multivalue : delimiters.multivalue.Disjoint mark)
    (listed : mark = delimiters.parameter ∨ mark ∈ more)
    (free : token.Free List.Disjoint delimiters.toMarks more)
    (member : text ∈ token.fieldTexts delimiters.toMarks) : text.Disjoint mark := by
  rcases List.mem_append.mp member with inPositional | inNamed
  · obtain ⟨value, inValues, rfl⟩ := List.mem_map.mp inPositional
    exact Value.disjoint_join multivalue fun item inItems =>
      ((free.positional value inValues).items item inItems).separated mark (by grind)
  · obtain ⟨entry, inEntries, rfl⟩ := List.mem_map.mp inNamed
    rw [List.disjoint_append_left, List.disjoint_append_left]
    refine ⟨⟨(free.keys entry inEntries).separated mark (by grind), keyValue⟩, ?_⟩
    exact Value.disjoint_join multivalue fun item inItems =>
      ((free.values entry inEntries).items item inItems).separated mark (by grind)

/-- A free token is read back as it was written. -/
theorem ofBody_body (separate : delimiters.Separate)
    (free : token.Free List.Disjoint delimiters.toMarks more) :
    ofBody delimiters.toMarks (token.body delimiters.toMarks) = token := by
  have parameters := ofFields_fieldTexts separate free
  have nameApart := free.name.separated delimiters.parameter List.mem_cons_self
  rw [body_eq]
  cases texts : token.fieldTexts delimiters.toMarks with
  | nil =>
    have uncut := Text.cut?_eq_none_iff.mpr
      (Text.not_infix_of_disjoint delimiters.parameter_ne_nil nameApart)
    rw [texts] at parameters
    simp only [List.flatMap_nil, List.append_nil, ofBody, cutBody, uncut, free.name.trimmed]
    exact congrArg (Token.mk token.name) parameters
  | cons first rest =>
    have apart : ∀ text ∈ first :: rest, text.Disjoint delimiters.parameter := by
      intro text member
      exact disjoint_of_mem_fieldTexts separate.keyValue separate.multivalue (.inl rfl) free
        (texts ▸ member)
    have split := Text.split_join delimiters.parameter_ne_nil (List.cons_ne_nil first rest) apart
    rw [texts] at parameters
    rw [Text.flatMap_append_eq_join, ← List.append_assoc, ofBody, cutBody,
      Text.cut?_append (Text.leadsTo_of_disjoint delimiters.parameter_ne_nil nameApart)]
    simp only [Option.map_some, Option.getD_some, Parameters.read, split, parameters,
      free.name.trimmed]

/-- A written free token shares no character with a mark that is apart from its parts and from
the separators between them. -/
theorem disjoint_body {mark : Text} (parameter : delimiters.parameter.Disjoint mark)
    (keyValue : delimiters.keyValue.Disjoint mark)
    (multivalue : delimiters.multivalue.Disjoint mark) (listed : mark ∈ more)
    (free : token.Free List.Disjoint delimiters.toMarks more) :
    (token.body delimiters.toMarks).Disjoint mark := by
  rw [body_eq, List.disjoint_append_left]
  refine ⟨free.name.separated mark (by grind), fun char inFields inMark => ?_⟩
  obtain ⟨text, inTexts, inText⟩ := List.mem_flatMap.mp inFields
  rcases List.mem_append.mp inText with inParameter | inField
  · exact parameter inParameter inMark
  · exact disjoint_of_mem_fieldTexts keyValue multivalue (.inr listed) free inTexts inField inMark

/-- What is read between two delimiters is a free token. -/
theorem free_ofBody {body : Text} (lacks : ∀ mark ∈ more, body.Lacks mark) :
    (ofBody delimiters.toMarks body).Free Text.Lacks delimiters.toMarks more := by
  have lacksRest : ∀ separator ∈ delimiters.parameter :: more,
      separator ≠ delimiters.parameter → body.Lacks separator := by
    intro separator listed different
    exact lacks separator ((List.mem_cons.mp listed).resolve_left different)
  cases found : Text.cut? delimiters.parameter body with
  | none =>
    simp only [ofBody, cutBody, found, Option.map_none, Option.getD_none]
    have ended := Text.cut?_eq_none_iff.mp found
    exact ⟨Text.free_trim_of_infix List.infix_rfl ended lacksRest, nofun, nofun, nofun⟩
  | some parts =>
    obtain ⟨name, raw⟩ := parts
    obtain ⟨whole, leads⟩ := Text.cut?_eq_some_iff.mp found
    have nameWithin : name <:+: body := ⟨[], delimiters.parameter ++ raw, by simp [whole]⟩
    have rawWithin : raw <:+: body := ⟨name ++ delimiters.parameter, [], by simp [whole]⟩
    have fieldFree : ∀ field ∈ (Text.split delimiters.parameter raw).map
        (Field.read delimiters.toMarks), field.Free Text.Lacks delimiters.toMarks more := by
      intro field member
      obtain ⟨piece, inSplit, rfl⟩ := List.mem_map.mp member
      obtain ⟨within, absent⟩ := Text.infix_of_mem_split delimiters.parameter_ne_nil inSplit
      refine Field.free_read delimiters.keyValue_ne_nil delimiters.multivalue_ne_nil
        (List.forall_mem_cons.mpr ⟨absent, fun mark listed held => ?_⟩)
      exact lacks mark listed (held.trans (within.trans rawWithin))
    simp only [ofBody, cutBody, found, Option.map_some, Option.getD_some]
    have ended := Text.not_infix_of_leadsTo delimiters.parameter_ne_nil leads
    refine ⟨Text.free_trim_of_infix nameWithin ended lacksRest, ?_, ?_, ?_⟩
    · intro value member
      obtain ⟨field, inFields, keyless, rfl⟩ := Parameters.mem_positional_ofFields member
      exact (fieldFree field inFields).positional keyless
    · intro entry member
      obtain ⟨field, inFields, keyed, -⟩ := Parameters.mem_entries_ofFields member
      exact ((fieldFree field inFields).named entry.1 keyed).1
    · intro entry member
      obtain ⟨field, inFields, keyed, same⟩ := Parameters.mem_entries_ofFields member
      exact same ▸ ((fieldFree field inFields).named entry.1 keyed).2

end Token
end PageTokens
