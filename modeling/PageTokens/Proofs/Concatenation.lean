import PageTokens.Proofs.Pass

/-!
# Texts that are put together

What follows a text makes no difference to the tokens found in it: they are the
first tokens of every continuation (`ofText_append`). When the start delimiter
never begins in what the tokens of the first text leave, the tokens of the
second text are found behind them as they would be found in it alone
(`ofText_behind`), and a pass over both texts is a pass over the first followed
by a pass over the second.
-/

namespace PageTokens

variable {H σ : Type}

namespace Page

variable {delimiters : Delimiters} {marks : Marks}

/-- A page behind a text. -/
def behind (front : Text) : Page → Page
  | ⟨[], tail⟩ => ⟨[], front ++ tail⟩
  | ⟨segment :: rest, tail⟩ => ⟨⟨front ++ segment.literal, segment.body⟩ :: rest, tail⟩

/-- The segments of a text are the first ones of every continuation. -/
theorem ofText_append_eq (delimiters : Delimiters) (front back : Text) :
    let left := (ofText delimiters front).tail ++ back
    ofText delimiters (front ++ back) =
      ⟨(ofText delimiters front).segments ++ (ofText delimiters left).segments,
        (ofText delimiters left).tail⟩ := by
  fun_induction ofText delimiters front with
  | case1 text found => rfl
  | case2 text segment rest found _ page inductionHypothesis =>
    obtain ⟨rfl, literalLeads, bodyLeads⟩ := Segment.first?_eq_some_iff.mp found
    rw [List.append_assoc, ofText_append literalLeads bodyLeads, inductionHypothesis]
    rfl

/-- A text behind a front that is clear of the start delimiter is cut as it is alone. -/
theorem ofText_behind {front back : Text} (clear : Text.Clear delimiters.start front back) :
    ofText delimiters (front ++ back) = (ofText delimiters back).behind front := by
  cases found : Segment.first? delimiters.toMarks back with
  | none =>
    have unclosed := Segment.first?_eq_none_iff.mp found
    rw [ofText_of_unclosed unclosed, ofText_of_unclosed (unclosed.of_clear clear)]
    rfl
  | some step =>
    obtain ⟨segment, rest⟩ := step
    obtain ⟨rfl, literalLeads, bodyLeads⟩ := Segment.first?_eq_some_iff.mp found
    -- The front becomes part of the first literal, which still leads to the start delimiter.
    have opened : segment.toText delimiters.toMarks ++ rest =
        segment.literal ++ delimiters.start ++ (segment.body ++ delimiters.stop ++ rest) := by
      simp [Segment.toText, Segment.token]
    let moved : Segment := ⟨front ++ segment.literal, segment.body⟩
    have longer : front ++ (segment.toText delimiters.toMarks ++ rest) =
        moved.toText delimiters.toMarks ++ rest := by
      simp [moved, Segment.toText, Segment.token]
    rw [opened] at clear
    have leads : moved.literal.LeadsTo delimiters.start := clear.leadsTo literalLeads
    rw [longer, ofText_append leads bodyLeads, ofText_append literalLeads bodyLeads]
    rfl

/-- The occurrences of segments come after one another, each list behind the bytes in front of
it. -/
theorem occurrencesFrom_append (marks : Marks) (offset : Nat) (first second : List Segment) :
    occurrencesFrom marks offset (first ++ second) =
      occurrencesFrom marks offset first ++
        occurrencesFrom marks
          (offset + Text.byteLength (first.flatMap (Segment.toText marks))) second := by
  induction first generalizing offset with
  | nil => simp [occurrencesFrom]
  | cons segment rest inductionHypothesis =>
    simp [occurrencesFrom, inductionHypothesis, Nat.add_assoc]

/-- Text in front of a page moves its occurrences and adds none. -/
theorem occurrencesFrom_behind (marks : Marks) (offset : Nat) (front : Text) (page : Page) :
    occurrencesFrom marks offset (page.behind front).segments =
      occurrencesFrom marks (offset + front.byteLength) page.segments := by
  obtain ⟨segments, tail⟩ := page
  cases segments with
  | nil => rfl
  | cons segment rest =>
    simp [behind, occurrencesFrom, Segment.occurrence, Segment.toText, Segment.token, Nat.add_assoc]

end Page

/-- An occurrence some bytes further on. -/
def Occurrence.shift (count : Nat) (occurrence : Occurrence) : Occurrence :=
  { occurrence with span := ⟨occurrence.span.start + count, occurrence.span.stop + count⟩ }

/-- A diagnostic of a token some bytes further on. -/
def Diagnostic.shift (count : Nat) (diagnostic : Diagnostic) : Diagnostic :=
  { diagnostic with span := ⟨diagnostic.span.start + count, diagnostic.span.stop + count⟩ }

/-- Occurrences further behind are the same ones, moved. -/
theorem Page.occurrencesFrom_add (marks : Marks) (offset count : Nat) (segments : List Segment) :
    occurrencesFrom marks (offset + count) segments =
      (occurrencesFrom marks offset segments).map (Occurrence.shift count) := by
  induction segments generalizing offset with
  | nil => rfl
  | cons segment rest inductionHypothesis =>
    rw [occurrencesFrom, occurrencesFrom, List.map_cons, ← inductionHypothesis, Nat.add_right_comm]
    congr 1
    simp only [Segment.occurrence, Occurrence.shift, Nat.add_right_comm]

/-- What the tokens of a text leave of it: the text behind the last one, or the whole text. -/
def leftover (delimiters : Delimiters) (text : Text) : Text :=
  Text.dropBytes (((occurrences delimiters text).getLast?.map (·.span.stop)).getD 0) text

/-- The last of some occurrences ends with the segments. -/
theorem Page.stop_getLast?_occurrencesFrom (marks : Marks) (offset : Nat)
    (segments : List Segment) :
    ((occurrencesFrom marks offset segments).getLast?.map (·.span.stop)).getD offset =
      offset + Text.byteLength (segments.flatMap (Segment.toText marks)) := by
  induction segments generalizing offset with
  | nil => rfl
  | cons segment rest inductionHypothesis =>
    have later := inductionHypothesis (offset + (segment.toText marks).byteLength)
    rw [occurrencesFrom, List.getLast?_cons, Option.map_some, Option.getD_some, List.flatMap_cons,
      Text.byteLength_append, ← Nat.add_assoc, ← later]
    cases (occurrencesFrom marks (offset + (segment.toText marks).byteLength) rest).getLast? with
    | some last => rfl
    | none => simp [Segment.occurrence, Segment.toText, Nat.add_assoc]

/-- What the cursor has left at the end is the tail of the page. -/
theorem leftover_eq_tail (delimiters : Delimiters) (text : Text) :
    leftover delimiters text = (Page.ofText delimiters text).tail := by
  have whole := Page.toText_ofText delimiters text
  rw [leftover, occurrences, Page.stop_getLast?_occurrencesFrom, Nat.zero_add]
  nth_rewrite 2 [← whole]
  rw [Page.toText, Text.dropBytes_byteLength]

/-- The tokens of a text are the first tokens of every continuation, and the others are found
in what they leave of it together with the continuation. -/
theorem occurrences_append (delimiters : Delimiters) (front back : Text) :
    occurrences delimiters (front ++ back) =
      occurrences delimiters front ++
        Page.occurrencesFrom delimiters.toMarks
          (Text.byteLength ((Page.ofText delimiters front).segments.flatMap
            (Segment.toText delimiters.toMarks)))
          (Page.ofText delimiters (leftover delimiters front ++ back)).segments := by
  rw [occurrences, Page.ofText_append_eq, Page.occurrencesFrom_append, Nat.zero_add,
    leftover_eq_tail]
  rfl

/-- When no start delimiter begins in what the tokens of a text leave, the tokens of its
continuation follow them, each at its place in the continuation. -/
theorem occurrences_append_of_clear {delimiters : Delimiters} {front back : Text}
    (clear : Text.Clear delimiters.start (leftover delimiters front) back) :
    occurrences delimiters (front ++ back) =
      occurrences delimiters front ++
        (occurrences delimiters back).map (Occurrence.shift front.byteLength) := by
  have length := congrArg Text.byteLength (Page.toText_ofText delimiters front)
  rw [Page.toText, Text.byteLength_append, ← leftover_eq_tail] at length
  have shifted := Page.occurrencesFrom_add delimiters.toMarks 0 front.byteLength
    (Page.ofText delimiters back).segments
  rw [Nat.zero_add] at shifted
  rw [occurrences_append, Page.ofText_behind clear, Page.occurrencesFrom_behind, length, shifted]
  rfl

namespace Page

variable {front : Text} {page : Page} {first second : List Segment} {tail : Text}

/-- More text at the end of a page is more text at the end of the result. -/
theorem spliced_append_tail (segments : List Segment) (tail more : Text) (texts : List Text) :
    spliced ⟨segments, tail ++ more⟩ texts = spliced ⟨segments, tail⟩ texts ++ more := by
  simp [spliced]

/-- Segments behind others stand in the place of the tail of these. -/
theorem spliced_append {texts others : List Text} (lengths : first.length = texts.length) :
    spliced ⟨first ++ second, tail⟩ (texts ++ others) =
      spliced ⟨first, spliced ⟨second, tail⟩ others⟩ texts := by
  simp [spliced, List.zipWith_append lengths]

/-- A text in front of a page stays in front of it when the tokens are replaced. -/
theorem spliced_behind {Item : Type} {items : List Item} (replace : Text → Item → Text)
    (marks : Marks) (lengths : items.length = page.segments.length) :
    (page.behind front).spliced (List.zipWith (fun segment => replace (segment.token marks))
        (page.behind front).segments items) =
      front ++ page.spliced (List.zipWith (fun segment => replace (segment.token marks))
        page.segments items) := by
  obtain ⟨segments, tail⟩ := page
  cases segments with
  | nil => rfl
  | cons segment rest =>
    obtain ⟨item, items, rfl⟩ := List.exists_cons_of_length_eq_add_one lengths
    simp [behind, Segment.token]

end Page

namespace Engine

variable (engine : Engine H σ) (request : Request)

/-- The second list of occurrences begins at the site that the first one leaves. -/
theorem siteAfter_append (first second : List Occurrence) (site : Site H σ) :
    engine.siteAfter request (first ++ second) site =
      engine.siteAfter request second (engine.siteAfter request first site) :=
  List.foldl_append

/-- Occurrences are resolved one list after the other, the second one at the site that the first one
leaves. -/
theorem resolutions_append (first second : List Occurrence) (site : Site H σ) :
    engine.resolutions request (first ++ second) site =
      engine.resolutions request first site ++
        engine.resolutions request second (engine.siteAfter request first site) := by
  induction first generalizing site with
  | nil => rfl
  | cons occurrence rest inductionHypothesis =>
    rw [List.cons_append, resolutions, resolutions, inductionHypothesis]
    rfl

/-- The place of a token makes no difference to its resolution. -/
theorem resolutions_shift (count : Nat) (found : List Occurrence) (site : Site H σ) :
    engine.resolutions request (found.map (Occurrence.shift count)) site =
      engine.resolutions request found site := by
  induction found generalizing site with
  | nil => rfl
  | cons occurrence rest inductionHypothesis =>
    rw [List.map_cons, resolutions, resolutions, inductionHypothesis]
    rfl

/-- Where occurrences stand makes no difference to the site that they leave. -/
theorem siteAfter_shift (count : Nat) (found : List Occurrence) (site : Site H σ) :
    engine.siteAfter request (found.map (Occurrence.shift count)) site =
      engine.siteAfter request found site :=
  List.foldl_map

end Engine

/-- A pass that is made of two passes one after the other, of which the second is over a text
that begins at a byte position. -/
structure Pass.Joins (offset : Nat) (first second whole : Pass H σ) : Prop where
  text : whole.text = first.text ++ second.text
  diagnostics : whole.diagnostics =
    first.diagnostics ++ second.diagnostics.map (Diagnostic.shift offset)
  calls : whole.calls = first.calls ++ second.calls
  site : whole.site = second.site

namespace Engine

variable {engine : Engine H σ} {request : Request} {site : Site H σ} {front back : Text}

/-- Host code finds the site for the second text as the pass over the first has left it. -/
theorem joins_of_clear (clear : Text.Clear engine.delimiters.start
      (leftover engine.delimiters front) back) :
    let first := engine.substitute request front site
    let second := engine.substitute request back first.site
    first.Joins front.byteLength second (engine.substitute request (front ++ back) site) := by
  intro first second
  have found := occurrences_append_of_clear clear
  have between : first.site = engine.siteAfter request (occurrences engine.delimiters front) site :=
    engine.substitute_site request front site
  have resolved := engine.resolutions_append request (occurrences engine.delimiters front)
    ((occurrences engine.delimiters back).map (Occurrence.shift front.byteLength)) site
  rw [← found, resolutions_shift, ← between] at resolved
  have segments : ∀ text moment, (Page.ofText engine.delimiters text).segments.length =
      (engine.resolutions request (occurrences engine.delimiters text) moment).length := by
    simp [occurrences]
  constructor
  · -- The tail of the page of the first text is the text in front of the page of the second.
    rw [engine.substitute_text, resolved, Page.ofText_append_eq, ← leftover_eq_tail,
      Page.ofText_behind clear, List.zipWith_append (segments front site),
      Page.spliced_append (by simp [segments front site]),
      Page.spliced_behind (fun token resolution => Resolution.textOr token resolution)
        engine.delimiters.toMarks (segments back first.site).symm,
      Page.spliced_append_tail, leftover_eq_tail, ← engine.substitute_text,
      ← engine.substitute_text]
  · rw [engine.substitute_diagnostics, resolved, found, List.zipWith_append (by simp),
      List.zipWith_map_left, ← engine.substitute_diagnostics, engine.substitute_diagnostics request
        back, List.map_zipWith]
    rfl
  · rw [engine.substitute_invocations, resolved, List.flatMap_append,
      ← engine.substitute_invocations, ← engine.substitute_invocations]
  · rw [engine.substitute_site, found, siteAfter_append, siteAfter_shift, ← between,
      ← engine.substitute_site]

end Engine

/-- The tokens of a text are the first tokens of every continuation. When no start delimiter
begins in what they leave of the text, the tokens of the continuation follow in their places, and
replacing all tokens is replacing those of the text and then those of the continuation: the new
texts, the diagnostics and the calls follow each other, and the same site is left. -/
theorem substitute_append (delimiters : Delimiters) (front back : Text) :
    occurrences delimiters front <+: occurrences delimiters (front ++ back) ∧
      (Text.Clear delimiters.start (leftover delimiters front) back →
        occurrences delimiters (front ++ back) =
            occurrences delimiters front ++
              (occurrences delimiters back).map (Occurrence.shift front.byteLength) ∧
          ∀ (H σ : Type) (host : Host H σ) (request : Request) (site : Site H σ),
            let engine : Engine H σ := ⟨host, delimiters⟩
            let first := engine.substitute request front site
            let second := engine.substitute request back first.site
            first.Joins front.byteLength second
              (engine.substitute request (front ++ back) site)) := by
  constructor
  · rw [occurrences_append]
    exact List.prefix_append _ _
  · intro clear
    exact ⟨occurrences_append_of_clear clear, fun _ _ _ _ _ => Engine.joins_of_clear clear⟩

/-- Host code that counts its calls goes on counting behind the cut. -/
theorem substitute_append_counting :
    let engine : Engine Unit Nat := ⟨⟨fun _ _ _ count => ⟨.ok (Text.ofNat count), [], count + 1⟩⟩,
      .standard⟩
    let front := "\x7b\x7bn\x7d\x7d, \x7b".toList
    let back := " \x7b\x7bn\x7d\x7d".toList
    let site : Site Unit Nat := ⟨Registry.empty.insert ⟨"n".toList, .handler (), none⟩, 1⟩
    (engine.substitute .plain (front ++ back) site).text = "1, \x7b 2".toList := by
  intro engine front back site
  have joins := ((substitute_append .standard front back).2 (by decide +kernel)).2 Unit Nat
    engine.host .plain site
  exact joins.text.trans (by decide +kernel)

/-- A start delimiter on both sides of the cut opens a token that neither text has. -/
example :
    (occurrences .standard "\x7b".toList, occurrences .standard "\x7ba\x7d\x7d".toList) = ([], []) ∧
      occurrences .standard ("\x7b".toList ++ "\x7ba\x7d\x7d".toList) ≠ [] := by
  decide +kernel

end PageTokens
