import PageTokens.Proofs.Declared

/-!
# Passes one after the other

The text of a pass is cut at its tokens again when the next pass reads it. A
replacement that is not empty and shares no character with the start delimiter
bars this delimiter from the texts on both sides of it (`bars_of_leadsTo`), so
the tokens that stay are found again and no other. `Page.absorb` is the page
that is found.

`substitute_staged` says that a pass over the text of a pass gives what a single
pass with both registries gives.
-/

namespace PageTokens

namespace Text

/-- In every continuation of a text the mark stands only behind the text. -/
def Bars (mark text : Text) : Prop :=
  ∀ rest before after, text ++ rest = before ++ mark ++ after → ∃ inner, before = text ++ inner

variable {mark text other literal replacement : Text}

theorem bars_nil (mark : Text) : Bars mark [] :=
  fun _ before _ _ => ⟨before, rfl⟩

/-- Texts that bar a mark bar it one behind the other. -/
theorem Bars.append (first : Bars mark text) (second : Bars mark other) :
    Bars mark (text ++ other) := by
  intro rest before after equal
  rw [List.append_assoc] at equal
  obtain ⟨inner, rfl⟩ := first _ _ _ equal
  have equalRest : other ++ rest = inner ++ mark ++ after := by simpa using equal
  obtain ⟨innermost, rfl⟩ := second _ _ _ equalRest
  exact ⟨innermost, (List.append_assoc _ _ _).symm⟩

/-- What stands in front of a character that is not in a mark ends before this character. -/
theorem prefix_of_prefix_append_cons {char : Char} {rest : Text} (foreign : char ∉ mark)
    (stands : mark <+: text ++ char :: rest) : mark <+: text := by
  rcases List.prefix_or_prefix_of_prefix stands (List.prefix_append text (char :: rest)) with
    within | ⟨surplus, rfl⟩
  · exact within
  · rw [List.prefix_append_right_inj] at stands
    cases surplus with
    | nil => simp
    | cons head surplus =>
      obtain ⟨rfl, -⟩ := List.cons_prefix_cons.mp stands
      simp at foreign

/-- A text that leads to a mark keeps the mark behind a character that is not in it. -/
theorem bars_concat {char : Char} (solid : mark ≠ []) (foreign : char ∉ mark)
    (leads : LeadsTo literal mark) : Bars mark (literal ++ [char]) := by
  induction literal with
  | nil =>
    intro rest before after equal
    cases before with
    | nil =>
      have stands : mark <+: [] ++ char :: rest := ⟨after, by simpa using equal.symm⟩
      exact absurd (List.prefix_nil.mp (prefix_of_prefix_append_cons foreign stands)) solid
    | cons head before =>
      obtain ⟨rfl, -⟩ := List.cons.inj equal
      exact ⟨before, rfl⟩
  | cons first literal inductionHypothesis =>
    -- A mark at the first character would end before the foreign one, within the literal.
    obtain ⟨absent, leadsRest⟩ := leadsTo_cons_iff.mp leads
    intro rest before after equal
    cases before with
    | nil =>
      have stands : mark <+: (first :: literal) ++ char :: rest :=
        ⟨after, by simpa using equal.symm⟩
      have early := prefix_of_prefix_append_cons foreign stands
      exact absurd (early.trans (List.prefix_append _ mark)) absent
    | cons head before =>
      obtain ⟨rfl, equalRest⟩ := List.cons.inj equal
      obtain ⟨inner, rfl⟩ := inductionHypothesis leadsRest rest before after equalRest
      exact ⟨inner, rfl⟩

/-- A text that shares no character with a mark bars it. -/
theorem bars_of_disjoint (solid : mark ≠ []) (apart : text.Disjoint mark) : Bars mark text := by
  induction text with
  | nil => exact bars_nil mark
  | cons char rest inductionHypothesis =>
    obtain ⟨foreign, restApart⟩ := List.disjoint_cons_left.mp apart
    exact (bars_concat solid foreign (leadsTo_nil mark)).append (inductionHypothesis restApart)

/-- A text that leads to a mark, followed by characters that are not in the mark, keeps the mark
behind them. -/
theorem bars_of_leadsTo (solid : mark ≠ []) (leads : LeadsTo literal mark)
    (visible : replacement ≠ []) (apart : replacement.Disjoint mark) :
    Bars mark (literal ++ replacement) := by
  obtain ⟨char, rest, rfl⟩ := List.exists_cons_of_ne_nil visible
  obtain ⟨foreign, restApart⟩ := List.disjoint_cons_left.mp apart
  have bars := (bars_concat solid foreign leads).append (bars_of_disjoint solid restApart)
  rwa [List.append_assoc] at bars

/-- A text that bars a mark is clear of it in front of every text. -/
theorem Bars.clear (bars : Bars mark text) (rest : Text) : Clear mark text rest := by
  intro before after stands
  obtain ⟨inner, rfl⟩ := bars rest before after stands
  simp

/-- Behind a text that bars a mark the way to the mark goes on. -/
theorem Bars.leadsTo (bars : Bars mark text) (leads : LeadsTo other mark) :
    LeadsTo (text ++ other) mark :=
  (bars.clear (other ++ mark ++ [])).leadsTo leads

end Text

namespace Page

variable {marks : Marks} {fill : Text → Option Text} {tail carried text : Text}
variable {segment : Segment} {rest : List Segment}

/-- The page that is found when some tokens of segments have become ordinary text. The text
`carried` stands in front of the segments. -/
def absorb (fill : Text → Option Text) (tail : Text) : Text → List Segment → Page
  | carried, [] => ⟨[], carried ++ tail⟩
  | carried, segment :: rest =>
    match fill segment.body with
    | some text => absorb fill tail (carried ++ segment.literal ++ text) rest
    | none =>
      let page := absorb fill tail [] rest
      ⟨⟨carried ++ segment.literal, segment.body⟩ :: page.segments, page.tail⟩

/-- A filled token becomes text in front of the next segment. -/
theorem absorb_cons_some (filled : fill segment.body = some text) :
    absorb fill tail carried (segment :: rest) =
      absorb fill tail (carried ++ segment.literal ++ text) rest := by
  rw [absorb, filled]

/-- A token that stays takes the carried text into its literal. -/
theorem absorb_cons_none (kept : fill segment.body = none) :
    absorb fill tail carried (segment :: rest) =
      ⟨⟨carried ++ segment.literal, segment.body⟩ :: (absorb fill tail [] rest).segments,
        (absorb fill tail [] rest).tail⟩ := by
  rw [absorb, kept]

/-- Filling the tokens that stay gives what filling all of them at once gives. -/
theorem filled_absorb (marks : Marks) (fill other : Text → Option Text) (tail carried : Text)
    (segments : List Segment) :
    (absorb fill tail carried segments).filled marks other =
      carried ++ filled marks (fun body => (fill body).or (other body)) ⟨segments, tail⟩ := by
  induction segments generalizing carried with
  | nil => simp [absorb, filled]
  | cons segment rest inductionHypothesis =>
    cases replaced : fill segment.body with
    | some text =>
      rw [absorb_cons_some replaced, inductionHypothesis]
      simp [filled, Segment.filled, replaced]
    | none =>
      have remainder := inductionHypothesis []
      simp only [filled, List.nil_append] at remainder
      rw [absorb_cons_none replaced, filled, List.flatMap_cons, List.append_assoc, remainder]
      simp [filled, Segment.filled, Segment.token, replaced]

theorem filled_none (marks : Marks) (page : Page) :
    page.filled marks (fun _ => none) = page.toText marks := rfl

/-- The absorbed page is written as the filled one. -/
theorem toText_absorb (marks : Marks) (fill : Text → Option Text) (tail : Text)
    (segments : List Segment) :
    (absorb fill tail [] segments).toText marks = filled marks fill ⟨segments, tail⟩ := by
  rw [← filled_none, filled_absorb]
  simp

/-- When every replacement bars the start delimiter, the grammar allows the page that is found. -/
theorem formed_absorb {delimiters : Delimiters} {segments : List Segment}
    (formed : Formed delimiters.toMarks ⟨segments, tail⟩)
    (harmless : ∀ segment ∈ segments, ∀ text, fill segment.body = some text →
      text ≠ [] ∧ text.Disjoint delimiters.start)
    (bars : Text.Bars delimiters.start carried) :
    (absorb fill tail carried segments).Formed delimiters.toMarks := by
  induction segments generalizing carried with
  | nil =>
    exact ⟨List.forall_mem_nil _, List.forall_mem_nil _, formed.tail.of_clear (bars.clear tail)⟩
  | cons segment rest inductionHypothesis =>
    obtain ⟨leads, literals⟩ := List.forall_mem_cons.mp formed.literals
    obtain ⟨bodyLeads, bodies⟩ := List.forall_mem_cons.mp formed.bodies
    obtain ⟨harmlessHere, harmlessRest⟩ := List.forall_mem_cons.mp harmless
    have remainder : Formed delimiters.toMarks ⟨rest, tail⟩ := ⟨literals, bodies, formed.tail⟩
    cases replaced : fill segment.body with
    | some text =>
      -- What is carried on bars the mark again, so the next literal still leads to it.
      obtain ⟨visible, apart⟩ := harmlessHere text replaced
      have barsText := Text.bars_of_leadsTo delimiters.start_ne_nil leads visible apart
      rw [absorb_cons_some replaced, List.append_assoc]
      exact inductionHypothesis remainder harmlessRest (bars.append barsText)
    | none =>
      have formedRest :=
        inductionHypothesis remainder harmlessRest (Text.bars_nil delimiters.start)
      rw [absorb_cons_none replaced]
      exact ⟨List.forall_mem_cons.mpr ⟨bars.leadsTo leads, formedRest.literals⟩,
        List.forall_mem_cons.mpr ⟨bodyLeads, formedRest.bodies⟩, formedRest.tail⟩

/-- The tokens that are found are those that stay. -/
theorem bodies_absorb (fill : Text → Option Text) (tail carried : Text)
    (segments : List Segment) :
    (absorb fill tail carried segments).segments.map Segment.body =
      (segments.map Segment.body).filter fun body => (fill body).isNone := by
  induction segments generalizing carried with
  | nil => rfl
  | cons segment rest inductionHypothesis =>
    cases replaced : fill segment.body with
    | some text => simp [absorb_cons_some replaced, inductionHypothesis, replaced]
    | none => simp [absorb_cons_none replaced, inductionHypothesis, replaced]

/-- A token that stays is found behind what has become of the segments in front of it. -/
theorem getElem?_absorb (marks : Marks) (tail carried : Text) {segments : List Segment}
    {index : Nat} (inPage : segments[index]? = some segment) (kept : fill segment.body = none) :
    let page := absorb fill tail carried segments
    let count := (segments.take index).countP fun earlier => (fill earlier.body).isNone
    ∃ literal, page.segments[count]? = some ⟨literal, segment.body⟩ ∧
      page.before marks count ++ literal =
        carried ++ (segments.take index).flatMap (Segment.filled marks fill) ++
          segment.literal := by
  -- A segment in front is carried when its token is replaced, and counted when it stays.
  induction segments generalizing carried index with
  | nil => contradiction
  | cons first rest inductionHypothesis =>
    cases index with
    | zero =>
      obtain rfl := Option.some.inj inPage
      refine ⟨carried ++ first.literal, ?_, ?_⟩
      · simp [absorb_cons_none kept]
      · simp [before]
    | succ index =>
      rw [List.getElem?_cons_succ] at inPage
      cases replaced : fill first.body with
      | some text =>
        obtain ⟨literal, found, front⟩ :=
          inductionHypothesis (carried ++ first.literal ++ text) inPage
        refine ⟨literal, ?_, ?_⟩
        · simpa [absorb_cons_some replaced, replaced] using found
        · simpa [absorb_cons_some replaced, replaced, Segment.filled] using front
      | none =>
        obtain ⟨literal, found, front⟩ := inductionHypothesis [] inPage
        refine ⟨literal, ?_, ?_⟩
        · simpa [absorb_cons_none replaced, replaced] using found
        · simp only [absorb_cons_none replaced, List.take_succ_cons, List.countP_cons, replaced,
            Option.isNone_none, if_true, before, List.flatMap_cons, List.append_assoc,
            List.nil_append] at front ⊢
          rw [front]
          simp [Segment.filled, Segment.toText, Segment.token, replaced]

end Page

/-- An occurrence covers its token behind everything in front of it. -/
theorem covers_occurrence {delimiters : Delimiters} {text : Text} {index : Nat}
    {segment : Segment}
    (inPage : (Page.ofText delimiters text).segments[index]? = some segment) :
    (segment.occurrence delimiters.toMarks
        ((Page.ofText delimiters text).before delimiters.toMarks index).byteLength).Covers text
      ((Page.ofText delimiters text).before delimiters.toMarks index ++ segment.literal)
      (segment.token delimiters.toMarks) := by
  have lists := Page.lists_occurrencesFrom delimiters.toMarks (Page.ofText delimiters text)
  have covers := lists.covers index segment _ inPage
    ((getElem?_occurrences delimiters text index).trans (by rw [inPage, Option.map_some]))
  rwa [Page.toText_ofText] at covers

/-- An occurrence of one text is found again in another text, a number of bytes further on. -/
structure Occurrence.Moved (oldText newText : Text) (distance : Int) (old new : Occurrence) :
    Prop where
  token : new.token = old.token
  rawParameters : new.rawParameters = old.rawParameters
  literal : new.literal newText = old.literal oldText
  start : (new.span.start : Int) = old.span.start + distance
  stop : (new.span.stop : Int) = old.span.stop + distance

namespace Registry

/-- Both registries as one. A name that both know keeps the definition of the first. -/
def union (first second : Registry H) : Registry H :=
  ⟨first.definitions.entries.foldl (fun dictionary entry => dictionary.insert entry.1 entry.2)
    second.definitions⟩

/-- A union has the callbacks of the first registry, and those of the second one elsewhere. -/
theorem callback?_union (first second : Registry H) (name : Text) :
    (first.union second).callback? name =
      (first.callback? name).or (second.callback? name) := by
  have found : (first.union second).lookup name =
      (first.lookup name).or (second.lookup name) :=
    Dictionary.get?_foldl_insert second.definitions name first.definitions.ascending
  rw [callback?, found, Option.map_or]
  rfl

/-- A union of registries without host code is without host code. -/
theorem declared_union {first second : Registry H} (firstDeclared : first.Declared)
    (secondDeclared : second.Declared) : (first.union second).Declared := by
  intro name callback found
  rw [callback?_union, Option.or_eq_some_iff] at found
  rcases found with inFirst | ⟨-, inSecond⟩
  · exact firstDeclared name callback inFirst
  · exact secondDeclared name callback inSecond

end Registry

namespace Engine

variable (engine : Engine H σ) (request : Request)

/-- By how many bytes the replacements of occurrences are longer than their tokens. -/
def growth (site : Site H σ) : List Occurrence → Int
  | [] => 0
  | occurrence :: rest =>
    match engine.replacement? request site occurrence.token with
    | some text =>
      text.byteLength - (occurrence.span.stop - occurrence.span.start) + growth site rest
    | none => growth site rest

/-- The growth of a text is what its filled segments have more than its segments. -/
theorem growth_occurrencesFrom (site : Site H σ) (offset : Nat) (segments : List Segment) :
    engine.growth request site
        (Page.occurrencesFrom engine.delimiters.toMarks offset segments) =
      Text.byteLength (segments.flatMap
          (Segment.filled engine.delimiters.toMarks (engine.fill request site))) -
        Text.byteLength (segments.flatMap (Segment.toText engine.delimiters.toMarks)) := by
  induction segments generalizing offset with
  | nil => rfl
  | cons segment rest inductionHypothesis =>
    have here : (segment.occurrence engine.delimiters.toMarks offset).token =
        Token.ofBody engine.delimiters.toMarks segment.body := rfl
    rw [Page.occurrencesFrom, growth, inductionHypothesis, here]
    simp only [List.flatMap_cons, Text.byteLength_append, Segment.filled, Segment.toText, fill,
      Segment.occurrence]
    cases engine.replacement? request site (Token.ofBody engine.delimiters.toMarks segment.body)
    · simp only [Option.getD_none]
      omega
    · simp only [Option.getD_some]
      omega

variable {request}

/-- Both registries together replace the tokens that the first replaces, and those that the second
replaces of the others. -/
theorem replacement?_union {first second : Site H σ} (firstDeclared : first.registry.Declared)
    (secondDeclared : second.registry.Declared)
    (agree : ∀ name one other, first.registry.callback? name = some one →
      second.registry.callback? name = some other → one = other) (token : Token) :
    engine.replacement? request ⟨first.registry.union second.registry, first.memory⟩ token =
      (engine.replacement? request first token).or (engine.replacement? request second token) := by
  have declared := Registry.declared_union firstDeclared secondDeclared
  have union := Registry.callback?_union first.registry second.registry token.name
  cases known : first.registry.callback? token.name with
  | none =>
    rw [known, Option.none_or] at union
    rw [replacement?_of_unknown known, Option.none_or]
    exact replacement?_congr declared union
  | some callback =>
    rw [known, Option.some_or, ← known] at union
    rw [replacement?_congr declared union]
    cases replaced : engine.replacement? request first token with
    | some text => rfl
    | none =>
      -- The second registry either does not know the token or fails it in the same way.
      rw [Option.none_or]
      cases other : second.registry.callback? token.name with
      | none => exact (replacement?_of_unknown other).symm
      | some second =>
        obtain rfl := agree token.name callback second known other
        rw [← replaced]
        exact replacement?_congr firstDeclared (known.trans other.symm)

section Staged

variable {first : Site H σ} {text : Text}

/-- Without host code the diagnostics of the tokens that stay are those of the tokens without a
replacement. -/
theorem skipped_of_declared (declared : first.registry.Declared) (text : Text) :
    (engine.substitute request text first).skipped =
      ((occurrences engine.delimiters text).filter fun occurrence =>
        (engine.replacement? request first occurrence.token).isNone).map fun occurrence =>
          (engine.resolve occurrence.token request first).diagnostic occurrence := by
  rw [Pass.skipped, engine.substitute_diagnostics_of_declared declared, List.filter_map]
  congr 2
  funext occurrence
  simp [succeeded_eq_isSome, Option.not_isSome]

variable (declared : first.registry.Declared)
  (harmless : ∀ occurrence ∈ occurrences engine.delimiters text, ∀ replacement,
    engine.replacement? request first occurrence.token = some replacement →
      replacement ≠ [] ∧ replacement.Disjoint engine.delimiters.start)

include declared harmless

/-- The text of a pass is cut at the tokens that stay. -/
theorem ofText_staged :
    Page.ofText engine.delimiters (engine.substitute request text first).text =
      Page.absorb (engine.fill request first) (Page.ofText engine.delimiters text).tail []
        (Page.ofText engine.delimiters text).segments := by
  have harmlessBodies : ∀ segment ∈ (Page.ofText engine.delimiters text).segments,
      ∀ replacement, engine.fill request first segment.body = some replacement →
        replacement ≠ [] ∧ replacement.Disjoint engine.delimiters.start := by
    intro segment member replacement replaced
    obtain ⟨occurrence, inFound, same⟩ := exists_occurrence member
    exact harmless occurrence inFound replacement (same ▸ replaced)
  have formed := Page.formed_absorb (Page.formed_ofText engine.delimiters text) harmlessBodies
    (Text.bars_nil engine.delimiters.start)
  rw [engine.substitute_text_of_declared declared, ← Page.ofText_toText formed,
    Page.toText_absorb]

/-- The tokens in the text of a pass are those without a replacement. -/
theorem tokens_staged :
    (occurrences engine.delimiters (engine.substitute request text first).text).map
        Occurrence.token =
      ((occurrences engine.delimiters text).map Occurrence.token).filter fun token =>
        (engine.replacement? request first token).isNone := by
  rw [occurrences, Page.tokens_occurrencesFrom, engine.ofText_staged declared harmless,
    Page.bodies_absorb, occurrences, Page.tokens_occurrencesFrom]
  simp only [List.filter_map]
  rfl

/-- A token without a replacement is found again, further on by the length changes in front of
it. -/
theorem moved_staged {index : Nat} {old : Occurrence}
    (inText : (occurrences engine.delimiters text)[index]? = some old)
    (kept : engine.replacement? request first old.token = none) :
    ∃ new, (occurrences engine.delimiters (engine.substitute request text first).text)[
        ((occurrences engine.delimiters text).take index).countP fun occurrence =>
          (engine.replacement? request first occurrence.token).isNone]? = some new ∧
      old.Moved text (engine.substitute request text first).text
        (engine.growth request first ((occurrences engine.delimiters text).take index)) new := by
  rw [getElem?_occurrences] at inText
  obtain ⟨segment, inPage, rfl⟩ := Option.map_eq_some_iff.mp inText
  replace kept : engine.fill request first segment.body = none := kept
  obtain ⟨literal, inStaged, front⟩ := Page.getElem?_absorb engine.delimiters.toMarks
    (Page.ofText engine.delimiters text).tail [] inPage kept
  rw [← engine.ofText_staged declared harmless] at inStaged front
  have count : ((occurrences engine.delimiters text).take index).countP (fun occurrence =>
      (engine.replacement? request first occurrence.token).isNone) =
        ((Page.ofText engine.delimiters text).segments.take index).countP fun earlier =>
          (engine.fill request first earlier.body).isNone := by
    have tokens := congrArg
      (List.countP fun token => (engine.replacement? request first token).isNone)
      (Page.tokens_occurrencesFrom engine.delimiters.toMarks 0
        ((Page.ofText engine.delimiters text).segments.take index))
    rw [List.countP_map, List.countP_map, List.countP_map] at tokens
    rw [occurrences, Page.take_occurrencesFrom]
    exact tokens
  have oldCovers := covers_occurrence inPage
  have newCovers := covers_occurrence inStaged
  have growth := engine.growth_occurrencesFrom request first 0
    ((Page.ofText engine.delimiters text).segments.take index)
  rw [← Page.take_occurrencesFrom, ← occurrences] at growth
  have inNew := (getElem?_occurrences engine.delimiters
    (engine.substitute request text first).text _).trans (congrArg (Option.map _) inStaged)
  rw [Option.map_some] at inNew
  rw [count]
  refine ⟨_, inNew, rfl, rfl, ?_, ?_, ?_⟩
  · rw [newCovers.literal, oldCovers.literal]
    rfl
  · rw [newCovers.span, oldCovers.span, growth, front]
    simp only [List.nil_append, Text.byteLength_append, Page.before]
    omega
  · rw [newCovers.span, oldCovers.span, growth, front]
    simp only [List.nil_append, Text.byteLength_append, Page.before, Segment.token]
    omega

/-- The text of a pass has as many tokens as the pass has skipped. -/
theorem length_staged :
    (occurrences engine.delimiters (engine.substitute request text first).text).length =
      (engine.substitute request text first).skipped.length := by
  have lengths := congrArg List.length (engine.tokens_staged declared harmless)
  rw [List.filter_map, List.length_map, List.length_map] at lengths
  rw [lengths, engine.skipped_of_declared declared, List.length_map]
  rfl

/-- An occurrence that is reported as skipped is found again behind those skipped before it. -/
theorem moved_of_skipped {index : Nat} {old : Occurrence} {diagnostic : Diagnostic}
    (inText : (occurrences engine.delimiters text)[index]? = some old)
    (reported : (engine.substitute request text first).diagnostics[index]? = some diagnostic)
    (skipped : diagnostic.succeeded = false) :
    ∃ new, (occurrences engine.delimiters (engine.substitute request text first).text)[
        ((engine.substitute request text first).diagnostics.take index).countP fun earlier =>
          !earlier.succeeded]? = some new ∧
      old.Moved text (engine.substitute request text first).text
        (engine.growth request first ((occurrences engine.delimiters text).take index)) new := by
  rw [engine.substitute_diagnostics_of_declared declared, List.getElem?_map, inText,
    Option.map_some] at reported
  obtain rfl := Option.some.inj reported
  have kept : engine.replacement? request first old.token = none := by
    rwa [engine.succeeded_eq_isSome, Option.isSome_eq_false_iff,
      Option.isNone_iff_eq_none] at skipped
  have count : ((engine.substitute request text first).diagnostics.take index).countP
      (fun earlier => !earlier.succeeded) =
        ((occurrences engine.delimiters text).take index).countP fun occurrence =>
          (engine.replacement? request first occurrence.token).isNone := by
    rw [engine.substitute_diagnostics_of_declared declared, ← List.map_take, List.countP_map]
    congr 1
    funext occurrence
    simp [succeeded_eq_isSome]
  rw [count]
  exact engine.moved_staged declared harmless inText kept

/-- A second pass fills the page of the first text with what the first pass did not replace. -/
theorem text_staged {second : Site H σ} (secondDeclared : second.registry.Declared) :
    (engine.substitute request (engine.substitute request text first).text second).text =
      (Page.ofText engine.delimiters text).filled engine.delimiters.toMarks fun body =>
        (engine.fill request first body).or (engine.fill request second body) := by
  rw [engine.substitute_text_of_declared secondDeclared, engine.ofText_staged declared harmless,
    Page.filled_absorb]
  rfl

/-- The same registry does for each token that the first pass has left what it did before. -/
theorem outcomes_staged {second : Site H σ} (same : second.registry = first.registry) :
    (engine.substitute request (engine.substitute request text first).text
        second).diagnostics.map (fun diagnostic => (diagnostic.name, diagnostic.obstacle)) =
      (engine.substitute request text first).skipped.map fun diagnostic =>
        (diagnostic.name, diagnostic.obstacle) := by
  have secondDeclared : second.registry.Declared := same ▸ declared
  have obstacles (token : Token) : (engine.resolve token request second).obstacle? =
      (engine.resolve token request first).obstacle? :=
    Resolution.obstacle?_congr
      (engine.result_resolve_of_declared secondDeclared (by rw [same]))
  have outcomes := congrArg
    (List.map fun token : Token => (token.name, (engine.resolve token request first).obstacle?))
    (engine.tokens_staged declared harmless)
  rw [List.filter_map, List.map_map, List.map_map] at outcomes
  rw [engine.substitute_diagnostics_of_declared secondDeclared,
    engine.skipped_of_declared declared, List.map_map, List.map_map]
  simp only [Function.comp_def, Resolution.diagnostic, obstacles]
  exact outcomes

end Staged

/-- A pass over the text of a pass. When every replacement of the first pass is visible and keeps
the start delimiter out, the second pass finds exactly the tokens that the first left, each moved
by the length changes in front of it. It gives the text that a single pass with both registries
gives. With the same registry it changes nothing and reports the same obstacles again. -/
theorem substitute_staged (engine : Engine H σ) (request : Request) (text : Text)
    (first second : Site H σ) (firstDeclared : first.registry.Declared)
    (secondDeclared : second.registry.Declared)
    (agree : ∀ name one other, first.registry.callback? name = some one →
      second.registry.callback? name = some other → one = other)
    (harmless : ∀ occurrence ∈ occurrences engine.delimiters text, ∀ replacement,
      engine.replacement? request first occurrence.token = some replacement →
        replacement ≠ [] ∧ replacement.Disjoint engine.delimiters.start) :
    let found := occurrences engine.delimiters text
    let staged := engine.substitute request text first
    let again := engine.substitute request staged.text second
    let both : Site H σ := ⟨first.registry.union second.registry, first.memory⟩
    (occurrences engine.delimiters staged.text).length = staged.skipped.length ∧
      (∀ (index : Nat) (old : Occurrence) (diagnostic : Diagnostic), found[index]? = some old →
        staged.diagnostics[index]? = some diagnostic → diagnostic.succeeded = false →
          ∃ new, (occurrences engine.delimiters staged.text)[
              (staged.diagnostics.take index).countP fun earlier => !earlier.succeeded]? =
                some new ∧
            old.Moved text staged.text (engine.growth request first (found.take index)) new) ∧
      again.text = (engine.substitute request text both).text ∧
      (second.registry = first.registry → again.text = staged.text ∧
        again.diagnostics.map (fun diagnostic => (diagnostic.name, diagnostic.obstacle)) =
          staged.skipped.map fun diagnostic => (diagnostic.name, diagnostic.obstacle)) := by
  intro found staged again both
  have texts : again.text = (Page.ofText engine.delimiters text).filled engine.delimiters.toMarks
      fun body => (engine.fill request first body).or (engine.fill request second body) :=
    engine.text_staged firstDeclared harmless secondDeclared
  refine ⟨engine.length_staged firstDeclared harmless, ?_, ?_, fun same => ⟨?_, ?_⟩⟩
  · intro index old diagnostic inText reported skipped
    exact engine.moved_of_skipped firstDeclared harmless inText reported skipped
  · have bothDeclared : both.registry.Declared :=
      Registry.declared_union firstDeclared secondDeclared
    rw [texts, engine.substitute_text_of_declared bothDeclared]
    refine Page.filled_congr _ fun segment _ => ?_
    exact (engine.replacement?_union firstDeclared secondDeclared agree _).symm
  · have fills (body : Text) : engine.fill request second body = engine.fill request first body :=
      replacement?_congr secondDeclared (by rw [same])
    have unchanged : staged.text = (Page.ofText engine.delimiters text).filled
        engine.delimiters.toMarks (engine.fill request first) :=
      engine.substitute_text_of_declared firstDeclared text
    simp only [texts, unchanged, fills, Option.or_self]
  · exact engine.outcomes_staged firstDeclared harmless same

end Engine

/-- Delimiters around tokens that stand between the two characters of the start delimiter. -/
def Delimiters.barred : Delimiters :=
  ⟨⟨"|<".toList, ">".toList, ":".toList, "=".toList, ",".toList⟩, by decide⟩

/-- A site with one token that is a fixed text. -/
def Site.fixed (name text : Text) : Site Empty Unit :=
  ⟨Registry.empty.insert ⟨name, .fixed text, none⟩, ()⟩

/-- A site with one fixed text has no other callback. -/
theorem Site.callback?_fixed (name text other : Text) :
    (Site.fixed name text).registry.callback? other =
      if other = name then some (.fixed text) else none := by
  rw [Registry.callback?, Site.fixed, Registry.lookup_insert]
  split <;> rfl

/-- A token between the two characters of the start delimiter, a token that the second pass turns
into the text of a token, a token that neither pass knows, and one that does not end. -/
theorem Engine.substitute_staged_fixed :
    let engine : Engine Empty Unit := ⟨.none, .barred⟩
    let text := "||<a><|<b>|<c>|<open".toList
    let first := Site.fixed "a".toList "1".toList
    let second := Site.fixed "b".toList "|<a>".toList
    let staged := engine.substitute .plain text first
    staged.text = "|1<|<b>|<c>|<open".toList ∧
      (engine.substitute .plain staged.text second).text =
        (engine.substitute .plain text ⟨first.registry.union second.registry, ()⟩).text ∧
      (engine.substitute .plain staged.text first).text = staged.text := by
  intro engine text first second staged
  have declared (site : Site Empty Unit) : site.registry.Declared := fun _ _ _ code => nomatch code
  have harmless : ∀ occurrence ∈ occurrences engine.delimiters text, ∀ replacement,
      engine.replacement? .plain first occurrence.token = some replacement →
        replacement ≠ [] ∧ replacement.Disjoint engine.delimiters.start := by
    intro occurrence _ replacement replaced
    obtain ⟨callback, known, gives⟩ := Engine.callback_of_replacement? replaced
    rw [Site.callback?_fixed] at known
    split at known
    · obtain rfl := Option.some.inj known
      obtain rfl := Except.ok.inj gives
      exact ⟨by decide, List.singleton_disjoint.mpr (by decide)⟩
    · contradiction
  have agree : ∀ name one other, first.registry.callback? name = some one →
      second.registry.callback? name = some other → one = other := by
    intro name one other inFirst inSecond
    rw [Site.callback?_fixed] at inFirst inSecond
    split at inFirst
    · next called =>
      rw [called, if_neg (by decide)] at inSecond
      contradiction
    · contradiction
  have staging := engine.substitute_staged .plain text first second (declared first)
    (declared second) agree harmless
  have repeated := engine.substitute_staged .plain text first first (declared first)
    (declared first) (fun _ _ _ one other => Option.some.inj (one.symm.trans other)) harmless
  exact ⟨by decide +kernel, staging.2.2.1, (repeated.2.2.2 rfl).1⟩

end PageTokens
