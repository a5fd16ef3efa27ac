import TwinRender.Proofs.Markup.RawText
import TwinRender.Proofs.RoundTrip

/-!
# Raw text on both sides

A page of one element whose text is read raw, with one value in it, is rendered and hydrated with
the same data. A writer escapes the text of such an element, unless it knows that a parser would not
read it so; it knows this of scripts and styles only. There the value is written as it is, and is
found again if the element contains it. In the other elements what was escaped stays so, and the
value is found again if there was nothing to escape.

## Main definitions

* `rawTemplate`, `rawScope`: the page and its data.
* `rawMarkup`: what is written.
* `ReadsBack`: values that are found again.

## Main results

* `hydrateNodes_reports`: which passes make no record, and which are clean.
* `Document.parse_rawMarkup`: what becomes of the markup of the page.
* `roundTrip_rawText`: **which values come back from an element with raw text**.
-/

namespace TwinRender

open Markup (Contains Survives rawTextTags splitText textNodes)
open VNode (filledList mergedList parsedList)

namespace Document

/-- Live nodes that fit one node begin with one that fits it. -/
theorem Fits.of_fitsAll {d : Document} {id : NodeId} {ids : List NodeId} {n : VNode}
    {ns : List VNode} (h : d.FitsAll (id :: ids) (n :: ns)) : d.Fits id n := by
  obtain ⟨id', rest, heq, hfits, -⟩ := h
  obtain ⟨rfl, -⟩ := List.cons.inj heq
  exact hfits

/-- A node that is no comment is live. -/
theorem liveChildren_of_cell? {d : Document} {id first : NodeId} {c c' : Cell}
    {more : List NodeId} (h : d.cell? id = some c) (hchildren : c.children = first :: more)
    (hfirst : d.cell? first = some c') (hlive : c'.payload.isComment = false) :
    ∃ rest, d.liveChildren id = first :: rest := by
  rw [liveChildren, children_of_cell? h, hchildren, List.filter_cons_of_pos]
  · exact ⟨_, rfl⟩
  · rw [payload?_of_cell? hfirst, Option.any_some, hlive]
    rfl

/-- Where the first parsed element fits one with a text, it holds this text, as far as comparison
goes, whatever comes behind it. -/
theorem canonicalText_of_conforms {tag tag' : String} {cs : List Char} {more : List Markup.Node}
    {v : String} (h : (ofForest (.element tag .empty (textNodes cs) :: more)).Conforms root
      [.element tag' .empty [.text v]]) :
    cs ≠ [] ∧ canonicalText (String.ofList cs) = canonicalText v := by
  have hheld := holds_ofForest (.element tag .empty (textNodes cs) :: more)
  generalize ofForest (.element tag .empty (textNodes cs) :: more) = d at h hheld
  by_cases hcs : cs = []
  · -- the element is empty
    rw [textNodes, if_pos hcs] at hheld
    obtain ⟨hroot, ⟨helement, -⟩, -⟩ := hheld
    obtain ⟨rest, hlive⟩ : ∃ rest, d.liveChildren root = 1 :: rest :=
      liveChildren_of_cell? hroot rfl helement rfl
    rw [Conforms, hlive] at h
    obtain ⟨-, -, _, _, hnone, -⟩ := Fits.of_fitsAll h
    rw [liveChildren, children_of_cell? helement] at hnone
    cases hnone
  · rw [textNodes, if_neg hcs] at hheld
    obtain ⟨hroot, ⟨helement, ⟨htext, -⟩, -⟩, -⟩ := hheld
    obtain ⟨rest, hlive⟩ : ∃ rest, d.liveChildren root = 1 :: rest :=
      liveChildren_of_cell? hroot rfl helement rfl
    rw [Conforms, hlive] at h
    obtain ⟨-, -, hbelow⟩ := Fits.of_fitsAll h
    obtain ⟨rest', hlive'⟩ : ∃ rest, d.liveChildren 1 = 2 :: rest :=
      liveChildren_of_cell? helement rfl htext rfl
    rw [hlive'] at hbelow
    obtain ⟨found, hfound, hsame⟩ := Fits.of_fitsAll hbelow
    rw [payload?_of_cell? htext, Option.some.injEq, Payload.text.injEq] at hfound
    subst hfound
    exact ⟨hcs, hsame⟩

end Document

/-! ### Texts that are compared -/

/-- Texts are compared as equal if they are, or if both consist of placeholders only. -/
theorem eq_of_canonicalText_eq {s t : String} (h : canonicalText s = canonicalText t)
    (ht : t.toList.all (· == placeholder) = false) : s = t := by
  rw [canonicalText, canonicalText, if_neg (Bool.eq_false_iff.mp ht)] at h
  split at h
  · subst h
    cases ht
  · exact h

/-! ### Reports -/

/-- A pass makes no record exactly when the nodes conform, each record says what the options say. -/
theorem hydrateNodes_reports {d : Document} {root : NodeId} (o : HydrationOptions)
    (hd : d.Reachable) (hroot : d.IsRoot root) (expected : List VNode) :
    ∃ d' r, hydrateNodes o d root expected = .ok (d', r) ∧
      (r.records = [] ↔ d.Conforms root expected) ∧
      (r.isClean = true ↔
        ∀ record ∈ r.records, (o.classify record.mismatch).isReported = false) := by
  obtain ⟨payload, above, ts, hcontainer, hhas⟩ := hroot.exists_has hd.sound
  obtain ⟨p, hrun, hdid, -⟩ := hydrateNodes_carries o hd hroot hcontainer hhas expected
  have hrecords : p.records = (Plan.nodes o payload.describe [] d.cells.size 0 ts
      expected).effect.records := hdid.records
  refine ⟨p.document, p.report, hrun, ?_, ?_⟩
  · rw [← Plan.records_nodes_iff_conforms hhas expected, Pass.report, hrecords]
  · have haction (record : Record) (h : record ∈ p.records) :
        record.action = o.classify record.mismatch := by
      rw [hrecords] at h
      obtain ⟨j, -, hmade⟩ := Plan.isMadeAt_of_mem_nodes expected h
      exact hmade.action
    have hclean : p.report.isClean = true ↔
        (p.records.any fun record => record.action.isReported) = false := by
      rw [Report.isClean, Pass.report]
      cases p.records.any fun record => record.action.isReported with
      | false => exact iff_of_true rfl rfl
      | true => exact iff_of_false Bool.false_ne_true Bool.false_ne_true.symm
    rw [hclean, List.any_eq_false]
    refine forall₂_congr fun record h => ?_
    rw [← haction record h, Bool.not_eq_true]

/-! ### The page -/

/-- A page of one element with one value in it. -/
def rawTemplate (tag : String) : Template :=
  ⟨"raw", [.element tag [] [.expression (.identifier "x") .none] .none]⟩

/-- The data with the value. -/
def rawScope (v : String) : Scope := .ofData (.object [("x", .string v)])

/-- Nothing else is in the data. -/
theorem compiledFrom_rawScope (v : String) : (rawScope v).CompiledFrom fun _ => none :=
  Scope.compiledFrom_ofData _

/-- The text of a value as it is written, where an empty one is held by a placeholder. -/
def heldText (v : String) : String := if v.isEmpty then String.singleton placeholder else v

/-- The markup of the element: text that is not escaped may hold anything. -/
def rawMarkup (tag v : String) : String :=
  "<" ++ tag ++ ">" ++ Markup.characterData (Html.isRawText tag) (heldText v) ++ "</" ++ tag ++ ">"

/-- The value comes back from its element: it is written as it is, or escaped, but escaping leaves
it alone. -/
def ReadsBack (tag v : String) : Prop :=
  if Html.isRawText tag = true then Contains tag v.toList else Text.escape v = v

instance (tag v : String) : Decidable (ReadsBack tag v) :=
  inferInstanceAs (Decidable (ite _ _ _))

section

variable {tag : String} (htag : tag ∈ rawTextTags)

include htag

/-- The page is valid. -/
theorem validate_rawTemplate : (rawTemplate tag).validate = .ok () := by
  have hall : ∀ tag ∈ rawTextTags, (rawTemplate tag).validate = .ok () := by
    decide +kernel
  exact hall tag htag

/-- The page comes to the element with the value. -/
theorem evaluate_rawTemplate (v : String) :
    Template.Node.evaluateList (Template.projected (rawScope v).data fun _ => none)
      (Template.rootNames (rawScope v).data) (rawTemplate tag).nodes =
        .ok [.element tag .empty [.text v]] := by
  have heval : Template.Node.evaluateList (Template.projected (rawScope v).data fun _ => none)
      (Template.rootNames (rawScope v).data) (rawTemplate tag).nodes =
        .ok [.element tag.toLower .empty [.text v]] := rfl
  rw [heval, (Markup.name_of_rawTextTags htag).2]

/-- The element is written with its value between its tags. -/
theorem writeList_raw (v : String) :
    VNode.writeList false (filledList [.element tag .empty [.text v]]) = rawMarkup tag v := by
  have hall : ∀ tag ∈ rawTextTags, Html.isVoid tag = false ∧
      Html.dropsLeadingNewline tag = false := by decide +kernel
  obtain ⟨hvoid, hdrops⟩ := hall tag htag
  have hlower := (Markup.name_of_rawTextTags htag).2
  have hfilled : filledList [.element tag .empty [.text v]] =
      [.element tag .empty [.text (heldText v)]] := rfl
  have hattributes : (OrderedMap.lowerKeys .empty : OrderedMap String).toList = [] := rfl
  rw [hfilled, VNode.writeList, VNode.writeList, String.append_empty, VNode.write, VNode.writeList,
    VNode.writeList, String.append_empty, VNode.write]
  simp only [hlower, hattributes, Markup.elementText, hvoid, Markup.guardNewline, hdrops,
    Markup.openingTag, Markup.closingTag, rawMarkup]
  simp [String.join, String.append_assoc]

end

/-- The markup begins with the start tag and ends with the end tag. -/
theorem toList_rawMarkup (tag v : String) :
    (rawMarkup tag v).toList = '<' :: (tag.toList ++ '>' ::
      ((Markup.characterData (Html.isRawText tag) (heldText v)).toList ++
        '<' :: '/' :: (tag.toList ++ ['>']))) := by
  have hopen : "<".toList = ['<'] := by decide +kernel
  have hclose : ">".toList = ['>'] := by decide +kernel
  have hend : "</".toList = ['<', '/'] := by decide +kernel
  simp [rawMarkup, hopen, hclose, hend]

/-! ### Round trips -/

/-- The characters of the markup are read as they are. -/
theorem survives_written (tag : String) {v : String} (hv : Survives v) :
    Survives (Markup.characterData (Html.isRawText tag) (heldText v)) := by
  have hheld : Survives (heldText v) := by
    rw [heldText]
    split
    · exact ⟨by decide, by decide⟩
    · exact hv
  rw [Markup.characterData]
  split
  · exact hheld
  · rw [Survives, Text.escape, String.toList_ofList]
    exact ⟨fun h => hheld.1 (Markup.mem_of_mem_escapeChars h (by decide)),
      fun h => hheld.2 (Markup.mem_of_mem_escapeChars h (by decide))⟩

/-- A value that escaping leaves alone has no angle bracket. -/
theorem not_mem_of_escape_eq_self {v : String} (h : Text.escape v = v) : '<' ∉ v.toList := by
  intro hmem
  rw [← h, Text.escape, String.toList_ofList] at hmem
  exact (Text.not_mark_of_mem_escapeChars hmem).1 rfl

/-- A value that comes back is written as it is, and its element contains it. -/
theorem ReadsBack.written {tag v : String} (h : ReadsBack tag v) :
    Markup.characterData (Html.isRawText tag) (heldText v) = heldText v ∧
      Contains tag (heldText v).toList := by
  have hplaceholder : Text.escape (String.singleton placeholder) =
      String.singleton placeholder := by
    decide +kernel
  rw [ReadsBack] at h
  rw [Markup.characterData, heldText]
  by_cases hempty : v.isEmpty = true
  · rw [if_pos hempty, hplaceholder, ite_self]
    exact ⟨rfl, Markup.contains_of_not_mem tag (by decide)⟩
  · rw [if_neg hempty]
    split at h
    · next hraw =>
      rw [if_pos hraw]
      exact ⟨rfl, h⟩
    · next hraw =>
      rw [if_neg hraw]
      exact ⟨h, Markup.contains_of_not_mem tag (not_mem_of_escape_eq_self h)⟩

/-- An element contains a value that comes back, and escaped text. -/
theorem contains_written {tag v : String} (h : ReadsBack tag v ∨ Html.isRawText tag = false) :
    Contains tag (Markup.characterData (Html.isRawText tag) (heldText v)).toList := by
  rcases h with h | h
  · obtain ⟨hwritten, hcontains⟩ := h.written
    rw [hwritten]
    exact hcontains
  · refine Markup.contains_of_not_mem tag fun hmem => ?_
    rw [Markup.characterData, if_neg (Bool.eq_false_iff.mp h), Text.escape,
      String.toList_ofList] at hmem
    exact (Text.not_mark_of_mem_escapeChars hmem).1 rfl

/-- No text is written as nothing. -/
theorem written_ne_nil (tag v : String) :
    (Markup.characterData (Html.isRawText tag) (heldText v)).toList ≠ [] := by
  have hheld : (heldText v).toList ≠ [] := by
    rw [heldText]
    split
    · decide
    · next hempty =>
      rwa [ne_eq, String.toList_eq_nil_iff, ← String.isEmpty_iff]
  rw [Markup.characterData]
  split
  · exact hheld
  · rwa [Text.escape, String.toList_ofList, ne_eq, Text.escapeChars_eq_nil_iff]

/-- A value of placeholders comes back. -/
theorem readsBack_placeholders {tag v : String} (h : v.toList.all (· == placeholder) = true) :
    ReadsBack tag v := by
  simp only [List.all_eq_true, beq_iff_eq] at h
  rw [ReadsBack]
  split
  · exact Markup.contains_of_not_mem tag fun hmem => absurd (h _ hmem) (by decide)
  · have hescape : Text.escapeChars v.toList = v.toList.flatMap fun c => [c] :=
      List.flatMap_congr fun c hc => by
        rw [h c hc]
        decide
    rw [Text.escape, hescape, List.flatMap_singleton', String.ofList_toList]

/-- A value comes back if what is found in its element is compared as equal to it. -/
theorem readsBack_of_canonicalText_eq {tag : String} (htag : tag ∈ rawTextTags) {v : String}
    (h : canonicalText (String.ofList (splitText tag
      ((Markup.characterData (Html.isRawText tag) (heldText v)).toList ++
        '<' :: '/' :: (tag.toList ++ ['>']))).1) = canonicalText v) : ReadsBack tag v := by
  cases hall : v.toList.all (· == placeholder) with
  | true => exact readsBack_placeholders hall
  | false =>
      have hempty : ¬ v.isEmpty = true := by
        rw [String.isEmpty_iff]
        rintro rfl
        cases hall
      have hfound := eq_of_canonicalText_eq h hall
      rw [heldText, if_neg hempty, Markup.characterData] at hfound
      rw [ReadsBack]
      split
      · next hraw =>
        rw [if_pos hraw] at hfound
        rw [← Markup.splitText_closing htag]
        conv_rhs => rw [← hfound]
        rw [String.toList_ofList]
      · next hraw =>
        -- escaped text has no end tag in it, so that it is found as it was escaped
        rw [if_neg hraw] at hfound
        have hbracket : '<' ∉ (Text.escape v).toList := by
          rw [Text.escape, String.toList_ofList]
          exact fun hmem => (Text.not_mark_of_mem_escapeChars hmem).1 rfl
        rw [(Markup.splitText_closing htag _).mpr (Markup.contains_of_not_mem tag hbracket),
          String.ofList_toList] at hfound
        exact hfound

/-- **What becomes of the page's markup.** The document conforms to the element with the value just
if the value comes back, and then it holds the element with the value in it and nothing else. If
its text is escaped, it holds the element with the escaped text in any case. -/
theorem Document.parse_rawMarkup {tag : String} (htag : tag ∈ rawTextTags) {v : String}
    (hv : Survives v) :
    ((Document.parse (rawMarkup tag v)).Conforms Document.root [.element tag .empty [.text v]] ↔
        ReadsBack tag v) ∧
      (ReadsBack tag v ∨ Html.isRawText tag = false → Document.parse (rawMarkup tag v) =
        .ofForest [.element tag .empty
          [.text (Markup.characterData (Html.isRawText tag) (heldText v))]]) := by
  obtain ⟨hcarriage, hnull⟩ := survives_written tag hv
  obtain ⟨⟨more, hparse⟩, hexact⟩ :=
    Markup.parse_rawText htag hcarriage hnull (toList_rawMarkup tag v)
  have hfound (hcontains : Contains tag
      (Markup.characterData (Html.isRawText tag) (heldText v)).toList) :
      Markup.parse (rawMarkup tag v) = [.element tag .empty
        [.text (Markup.characterData (Html.isRawText tag) (heldText v))]] := by
    rw [hexact hcontains, textNodes, if_neg (written_ne_nil tag v), String.ofList_toList]
  refine ⟨⟨fun h => ?_, fun h => ?_⟩, fun h => ?_⟩
  · rw [Document.parse, hparse] at h
    exact readsBack_of_canonicalText_eq htag (Document.canonicalText_of_conforms h).2
  · have hforest : Markup.parse (rawMarkup tag v) =
        parsedList (filledList [.element tag .empty [.text v]]) := by
      rw [hfound (contains_written (.inl h)), h.written.1]
      rfl
    have hnames : VNode.HasLowercaseNames tag .empty :=
      ⟨(Markup.name_of_rawTextTags htag).2, fun _ hname => absurd hname List.not_mem_nil⟩
    exact Document.conforms_parse hforest ⟨⟨hnames, trivial, trivial⟩, trivial⟩
  · rw [Document.parse, hfound (contains_written h)]

/-- The page on its way: the markup is written, and its document is compared with the element. -/
theorem exists_compile_raw (config : PipelineConfig) {tag : String} (htag : tag ∈ rawTextTags)
    (v : String) :
    ∃ p, Pipeline.compile (rawTemplate tag) config = .ok p ∧
      p.renderServer (rawScope v) = .ok (rawMarkup tag v) ∧
      ∀ d report, hydrateNodes config.hydration (.parse (rawMarkup tag v)) Document.root
          [.element tag .empty [.text v]] = .ok (d, report) →
        p.roundTrip (rawScope v) (rawScope v) = .ok (d, report) := by
  obtain ⟨server, client, hserver, hclient, htree, hmarkup⟩ :=
    exists_compile_both (validate_rawTemplate htag) config.compile (compiledFrom_rawScope v)
  rw [evaluate_rawTemplate htag v] at htree hmarkup
  have hclientNodes : renderClient client (rawScope v) = .ok [.element tag .empty [.text v]] :=
    htree
  have hserverMarkup : renderToString server (rawScope v) = .ok (rawMarkup tag v) :=
    hmarkup.trans (congrArg Except.ok (writeList_raw htag v))
  have hrender : Pipeline.renderServer ⟨server, client, config.hydration⟩ (rawScope v) =
      .ok (rawMarkup tag v) := by
    rw [Pipeline.renderServer, hserverMarkup]
    rfl
  refine ⟨⟨server, client, config.hydration⟩, ?_, hrender, fun d report hrun => ?_⟩
  · simp only [Pipeline.compile, SlotContent.compile, hserver, hclient]
    rfl
  · rw [Pipeline.roundTrip, hrender]
    change Pipeline.hydrate _ _ _ _ = _
    rw [Pipeline.hydrate, hydrate_of_renderClient (target_of_compile hclient) hclientNodes, hrun]
    rfl

/-- **Which values come back from an element with raw text.** A page of one such element with one
value in it is rendered and hydrated with the same data, with any options. The pass makes no record
just if the value comes back: in a script or a style, if the element contains the value; in the
other elements, if escaping leaves the value alone. Then the pass is clean, and the document holds
the element with the value in it and nothing else. Where the text is escaped, the document holds the
element with the escaped text in any case. -/
theorem roundTrip_rawText (config : PipelineConfig) {tag : String} (htag : tag ∈ rawTextTags)
    {v : String} (hv : Survives v) :
    ∃ p markup d report, Pipeline.compile (rawTemplate tag) config = .ok p ∧
      p.renderServer (rawScope v) = .ok markup ∧
      p.roundTrip (rawScope v) (rawScope v) = .ok (d, report) ∧
      (report.records = [] ↔ ReadsBack tag v) ∧
      (ReadsBack tag v → report.isClean = true) ∧
      ((∀ m, (config.hydration.classify m).isReported = true) →
        (report.isClean = true ↔ ReadsBack tag v)) ∧
      (ReadsBack tag v →
        Document.parse markup = .ofForest [.element tag .empty [.text (heldText v)]]) ∧
      (Html.isRawText tag = false → Document.parse markup =
        .ofForest [.element tag .empty [.text (Text.escape (heldText v))]]) := by
  obtain ⟨p, hp, hrender, htrip⟩ := exists_compile_raw config htag v
  obtain ⟨hconforms, hholds⟩ := Document.parse_rawMarkup htag hv
  obtain ⟨d, report, hrun, hrecords, hclean⟩ := hydrateNodes_reports config.hydration
    (.parse (rawMarkup tag v)) (Document.isRoot_parse _) [.element tag .empty [.text v]]
  rw [hconforms] at hrecords
  refine ⟨p, rawMarkup tag v, d, report, hp, hrender, htrip d report hrun, hrecords,
    fun h => ?_, fun h => ?_, fun h => ?_, fun h => ?_⟩
  · rw [hclean, hrecords.mpr h]
    exact fun record hrecord => absurd hrecord List.not_mem_nil
  · rw [hclean, ← hrecords, List.eq_nil_iff_forall_not_mem]
    exact forall₂_congr fun record _ => by rw [h]; decide
  · rw [hholds (.inl h), h.written.1]
  · rw [hholds (.inr h), Markup.characterData, if_neg (Bool.eq_false_iff.mp h)]

/-- A script with angle brackets, and a second script in a comment, comes back. -/
theorem roundTrip_rawText_script :
    "script" ∈ rawTextTags ∧ Survives "<!--<script>a<b && c</script>-->" ∧
      ∃ p markup d report,
        Pipeline.compile (rawTemplate "script") ⟨.standard, .standard⟩ = .ok p ∧
        p.renderServer (rawScope "<!--<script>a<b && c</script>-->") = .ok markup ∧
        p.roundTrip (rawScope "<!--<script>a<b && c</script>-->")
          (rawScope "<!--<script>a<b && c</script>-->") = .ok (d, report) ∧
        report.records = [] ∧ report.isClean = true ∧
        Document.parse markup = .ofForest [.element "script" .empty
          [.text "<!--<script>a<b && c</script>-->"]] := by
  have htag : "script" ∈ rawTextTags := by decide
  have hv : Survives "<!--<script>a<b && c</script>-->" := by decide +kernel
  have hback : ReadsBack "script" "<!--<script>a<b && c</script>-->" := by decide +kernel
  have hheld : heldText "<!--<script>a<b && c</script>-->" =
      "<!--<script>a<b && c</script>-->" := by decide +kernel
  obtain ⟨p, markup, d, report, hp, hrender, htrip, hrecords, hclean, -, hholds, -⟩ :=
    roundTrip_rawText ⟨.standard, .standard⟩ htag hv
  exact ⟨htag, hv, p, markup, d, report, hp, hrender, htrip, hrecords.mpr hback, hclean hback,
    hheld ▸ hholds hback⟩

/-- A value with an angle bracket does not come back from a frame, where it is escaped, and one with
the end tag does not come back from a script. -/
theorem not_isClean_roundTrip :
    ((Pipeline.compile (rawTemplate "iframe") ⟨.standard, .standard⟩).bind fun p =>
      p.roundTrip (rawScope "<") (rawScope "<")).map (fun r => r.2.isClean) = .ok false ∧
    ((Pipeline.compile (rawTemplate "script") ⟨.standard, .standard⟩).bind fun p =>
      p.roundTrip (rawScope "</script>") (rawScope "</script>")).map (fun r => r.2.isClean) =
        .ok false := by
  decide +kernel

end TwinRender
