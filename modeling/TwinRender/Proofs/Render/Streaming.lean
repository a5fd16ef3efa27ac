import TwinRender.Proofs.Render.Splitting
import TwinRender.Proofs.Render.Unforgeable

/-!
# Streams are faithful

The same stream is read as one text or in chunks, and both readers hold the same text at every
moment, also when the stream ends in a failure. A chunk ends only behind a run of text, and a run of
text ends the start tag before it. So where no name and no escaped text holds a mark of markup, a
tag that begins in a chunk also ends in it.

## Main definitions

* `Markup.HasWholeTags`: every tag that begins in a text ends in it.
* `Markup.tagStep`, `Piece.tagStep`: whether a tag is open, read from left to right.
* `Event.Orderly`: attributes follow the beginning of an element, and names hold no marks.

## Main results

* `Writer.tags_feed`: the writer owes the end of a tag just while a tag is open.
* `renderChunks_faithful`: **chunks are the markup, and hold whole tags**.
-/

namespace TwinRender

open Template (Node rootNames)

/-! ### Two readers of a stream -/

namespace Chunks

/-- A cut makes no empty chunk. -/
theorem not_mem_cut {c : Chunks} (h : "" ∉ c.complete) : "" ∉ c.cut.complete := by
  rw [cut]
  split
  · exact h
  · next hcurrent =>
    rw [List.mem_append, List.mem_singleton, not_or]
    exact ⟨h, fun hempty => hcurrent (by rw [← hempty]; rfl)⟩

/-- No complete chunk is empty. -/
theorem not_mem_ofPieces (pieces : List Piece) : "" ∉ (ofPieces pieces).complete := by
  induction pieces using List.reverseRecOn with
  | nil => exact List.not_mem_nil
  | append_singleton pieces p ih =>
      rw [ofPieces_concat]
      cases p with
      | markup text => exact ih
      | boundary => exact not_mem_cut ih

end Chunks

/-! ### Tags in a text -/

namespace Markup

/-- Every mark that begins a tag is followed by one that ends it, before any other mark. -/
def HasWholeTags (s : String) : Prop :=
  ∀ before behind, s.toList = before ++ '<' :: behind →
    ∃ inside rest, behind = inside ++ '>' :: rest ∧ '<' ∉ inside ∧ '>' ∉ inside

/-- Whether a tag is open behind one more character. No tag begins in a tag, and none ends outside
of one. -/
def tagStep (inside : Bool) (c : Char) : Option Bool :=
  if c = '<' then if inside then none else some true
  else if c = '>' then if inside then some false else none
  else some inside

/-- Nothing begins or ends without marks. -/
theorem tags_of_no_marks {cs : List Char} (h : ∀ c ∈ cs, c ≠ '<' ∧ c ≠ '>') (inside : Bool) :
    cs.foldlM tagStep inside = some inside := by
  induction cs with
  | nil => rfl
  | cons c cs ih =>
      obtain ⟨hc, hcs⟩ := List.forall_mem_cons.mp h
      rw [List.foldlM_cons, tagStep, if_neg hc.1, if_neg hc.2]
      exact ih hcs

/-- A tag that is open ends, if no tag is open behind the text. -/
theorem exists_end_of_tags {cs : List Char} (h : cs.foldlM tagStep true = some false) :
    ∃ inside rest, cs = inside ++ '>' :: rest ∧ '<' ∉ inside ∧ '>' ∉ inside := by
  induction cs with
  | nil => cases h
  | cons c cs ih =>
      rw [List.foldlM_cons, tagStep] at h
      by_cases hopen : c = '<'
      · rw [if_pos hopen] at h
        cases h
      by_cases hclose : c = '>'
      · exact ⟨[], cs, by rw [hclose, List.nil_append], List.not_mem_nil, List.not_mem_nil⟩
      · rw [if_neg hopen, if_neg hclose] at h
        obtain ⟨inside, rest, rfl, hbegin, hend⟩ := ih h
        exact ⟨c :: inside, rest, rfl, by simp [Ne.symm hopen, hbegin],
          by simp [Ne.symm hclose, hend]⟩

/-- A text behind which no tag is open has whole tags. -/
theorem hasWholeTags_of_tags {s : String} (h : s.toList.foldlM tagStep false = some false) :
    HasWholeTags s := by
  intro before behind hs
  rw [hs, List.foldlM_append] at h
  obtain ⟨inside, -, h⟩ := Option.bind_eq_some_iff.mp h
  rw [List.foldlM_cons] at h
  obtain ⟨after, hbegin, h⟩ := Option.bind_eq_some_iff.mp h
  have hafter : after = true := by
    rw [tagStep, if_pos rfl] at hbegin
    split at hbegin
    · cases hbegin
    · exact (Option.some.inj hbegin).symm
  exact exists_end_of_tags (hafter ▸ h)

/-- No mark stands in a tag name. -/
theorem tags_tagName {tag : String} (h : Html.isTagName tag = true) (inside : Bool) :
    tag.toList.foldlM tagStep inside = some inside :=
  tags_of_no_marks (fun c hc => by
    have hchar := Html.isTagChar_of_mem h c hc
    constructor <;> rintro rfl <;> exact absurd hchar (by decide)) inside

/-- No mark stands in the name of an attribute. -/
theorem tags_attributeName {name : String} (h : Html.isAttributeName name = true)
    (inside : Bool) : name.toList.foldlM tagStep inside = some inside :=
  tags_of_no_marks (fun c hc => by
    have hchar := Html.not_endsAttributeName_of_mem h c hc
    constructor <;> rintro rfl <;> exact absurd hchar (by decide)) inside

/-- No mark stands in an escaped text. -/
theorem tags_escape (s : String) (inside : Bool) :
    (Text.escape s).toList.foldlM tagStep inside = some inside := by
  rw [Text.escape, String.toList_ofList]
  exact tags_of_no_marks (fun c hc => by
    have hmark := Text.not_mark_of_mem_escapeChars hc
    exact ⟨hmark.1, hmark.2.1⟩) inside

end Markup

namespace Piece

/-- Whether a tag is open behind one more piece. No boundary stands in a tag. -/
def tagStep (inside : Bool) : Piece → Option Bool
  | .markup text => text.toList.foldlM Markup.tagStep inside
  | .boundary => if inside then none else some false

end Piece

namespace Chunks

/-- Chunks in which all tags end, but perhaps for one in the current chunk. -/
structure TagsEnd (c : Chunks) (inside : Bool) : Prop where
  /-- All tags end in the complete chunks. -/
  complete : ∀ chunk ∈ c.complete, Markup.HasWholeTags chunk
  /-- A tag may be open in the current chunk. -/
  current : c.current.toList.foldlM Markup.tagStep false = some inside

namespace TagsEnd

variable {c : Chunks} {inside after : Bool}

/-- A cut outside of a tag leaves all tags whole. -/
theorem cut (h : c.TagsEnd false) : c.cut.TagsEnd false := by
  rw [Chunks.cut]
  split
  · exact h
  · refine ⟨fun chunk hchunk => ?_, rfl⟩
    rcases List.mem_append.mp hchunk with hchunk | hchunk
    · exact h.complete chunk hchunk
    · rw [List.mem_singleton.mp hchunk]
      exact Markup.hasWholeTags_of_tags h.current

/-- One more piece opens or ends a tag. -/
theorem push (h : c.TagsEnd inside) {p : Piece} (hp : p.tagStep inside = some after) :
    (c.push p).TagsEnd after := by
  cases p with
  | markup text =>
      refine ⟨h.complete, ?_⟩
      rw [Chunks.push, String.toList_append, List.foldlM_append, h.current]
      exact hp
  | boundary =>
      rw [Piece.tagStep] at hp
      split at hp
      · cases hp
      · next hinside =>
        obtain rfl : inside = false := by simpa using hinside
        obtain rfl : false = after := Option.some.inj hp
        exact h.cut

/-- Pieces open and end tags one behind the other. -/
theorem foldl (h : c.TagsEnd inside) {pieces : List Piece}
    (hpieces : pieces.foldlM Piece.tagStep inside = some after) :
    (pieces.foldl Chunks.push c).TagsEnd after := by
  induction pieces generalizing c inside with
  | nil => exact Option.some.inj hpieces ▸ h
  | cons p pieces ih =>
      rw [List.foldlM_cons] at hpieces
      obtain ⟨next, hp, hrest⟩ := Option.bind_eq_some_iff.mp hpieces
      exact ih (h.push hp) hrest

end TagsEnd

/-- If no tag is open behind a stream, all its chunks have whole tags. -/
theorem hasWholeTags_of_mem_finish {pieces : List Piece}
    (h : pieces.foldlM Piece.tagStep false = some false) :
    ∀ chunk ∈ (ofPieces pieces).finish, Markup.HasWholeTags chunk :=
  (TagsEnd.foldl ⟨fun _ hmem => absurd hmem List.not_mem_nil, rfl⟩ h).cut.complete

end Chunks

/-! ### Orderly events -/

namespace Event

/-- Whether a start tag is not over behind an event. -/
def leavesTag : Event → Bool
  | .openElement _ | .attribute _ _ => true
  | .closeElement _ | .text _ => false

/-- An event that writes no mark of its own: attributes come in a start tag, names are valid, and
the texts of elements are escaped. -/
def IsOrderly (inTag : Bool) : Event → Prop
  | .openElement tag => Html.isTagName tag = true ∧ Html.isRawText tag = false
  | .attribute name _ => inTag = true ∧ Html.isAttributeName name = true
  | .closeElement tag => Html.isTagName tag = true
  | .text _ => True

/-- Such events, given whether a start tag is not over before them. -/
def Orderly : Bool → List Event → Prop
  | _, [] => True
  | inTag, e :: es => e.IsOrderly inTag ∧ Orderly e.leavesTag es

/-- Orderly events one behind the other, where the second ones may stand anywhere. -/
theorem Orderly.append {a b : List Event} {inTag : Bool} (ha : Orderly inTag a)
    (hb : ∀ inTag, Orderly inTag b) : Orderly inTag (a ++ b) := by
  induction a generalizing inTag with
  | nil => exact hb inTag
  | cons e a ih => exact ⟨ha.1, ih ha.2⟩

end Event

namespace VNode

/-- An element that writes no mark of its own. -/
def HasNoMarks (tag : String) (attributes : OrderedMap String) (_ : List VNode) : Prop :=
  HasValidNames tag attributes ∧ Html.isRawText tag = false

/-- The attributes of an element are orderly in its start tag. -/
theorem orderly_attributes {entries : List (String × String)}
    (h : ∀ entry ∈ entries, Html.isAttributeName entry.1 = true) {b : List Event}
    (hb : Event.Orderly true b) :
    Event.Orderly true (entries.map (fun a => .attribute a.1 a.2) ++ b) := by
  induction entries with
  | nil => exact hb
  | cons entry entries ih =>
      obtain ⟨hentry, hrest⟩ := List.forall_mem_cons.mp h
      exact ⟨⟨rfl, hentry⟩, ih hrest⟩

mutual

/-- The events of a node are orderly anywhere. -/
theorem orderly_events (n : VNode) (h : n.AllElements HasNoMarks) (inTag : Bool) :
    Event.Orderly inTag n.events := by
  cases n with
  | text s => exact ⟨trivial, trivial⟩
  | element tag attributes children =>
      obtain ⟨⟨hnames, hescaped⟩, hchildren⟩ := h
      refine ⟨⟨hnames.tag, hescaped⟩, orderly_attributes
        (fun entry hentry => hnames.attributes _ (List.mem_map_of_mem hentry)) ?_⟩
      exact (orderly_listEvents children hchildren true).append
        fun _ => ⟨hnames.tag, trivial⟩

/-- The events of nodes are orderly anywhere. -/
theorem orderly_listEvents (ns : List VNode) (h : AllElementsIn HasNoMarks ns) (inTag : Bool) :
    Event.Orderly inTag (listEvents ns) := by
  cases ns with
  | nil => trivial
  | cons n ns =>
      rw [listEvents]
      exact (orderly_events n h.1 inTag).append (orderly_listEvents ns h.2)

end

end VNode

/-! ### What the writer writes for them -/

namespace Writer

variable {w w' : Writer} {e : Event} {events : List Event} {pieces : List Piece}

/-- The end that is owed ends the tag. -/
theorem tags_endOfTag (w : Writer) :
    w.endOfTag.foldlM Piece.tagStep w.tagPending = some false := by
  rw [endOfTag]
  cases w.tagPending <;> rfl

/-- A placeholder is no mark. -/
theorem tags_endOfRun (w : Writer) : w.endOfRun.foldlM Piece.tagStep false = some false := by
  rw [endOfRun]
  split <;> decide

/-- An attribute is written without marks. -/
theorem tags_attributePieces {name : String} (h : Html.isAttributeName name = true)
    (value : String) (inTag : Bool) :
    (attributePieces name value).foldlM Piece.tagStep inTag = some inTag := by
  have hname : Piece.tagStep inTag (.markup name) = some inTag := Markup.tags_attributeName h inTag
  have hvalue : Piece.tagStep inTag (.markup (Text.escape value)) = some inTag :=
    Markup.tags_escape value inTag
  obtain ⟨hspace, hbegin, hend⟩ : Piece.tagStep inTag (.markup " ") = some inTag ∧
      Piece.tagStep inTag (.markup "=\"") = some inTag ∧
      Piece.tagStep inTag (.markup "\"") = some inTag := by
    cases inTag <;> exact ⟨rfl, rfl, rfl⟩
  rw [attributePieces]
  split
  · simp [List.foldlM_cons, hspace, hname]
  · simp [List.foldlM_cons, hspace, hname, hbegin, hvalue, hend]

/-- Behind the tag and the run of text before it, an event is written outside of tags. -/
theorem tags_behind (w : Writer) (rest : List Piece) :
    (w.endOfTag ++ w.endOfRun ++ rest).foldlM Piece.tagStep w.tagPending =
      rest.foldlM Piece.tagStep false := by
  rw [List.foldlM_append, List.foldlM_append, tags_endOfTag]
  change (w.endOfRun.foldlM Piece.tagStep false).bind _ = _
  rw [tags_endOfRun]
  rfl

/-- Outside of raw text, an orderly event is written with no mark but those of its tag. -/
theorem tags_step (h : w.step e = .ok (w', pieces)) (he : e.IsOrderly w.tagPending)
    (hraw : ∀ tag ∈ w.openTags, Html.isRawText tag = false) :
    pieces.foldlM Piece.tagStep w.tagPending = some w'.tagPending ∧
      w'.tagPending = e.leavesTag ∧ ∀ tag ∈ w'.openTags, Html.isRawText tag = false := by
  cases e with
  | openElement tag =>
      obtain ⟨rfl, rfl⟩ := Prod.mk.inj (Except.ok.inj h)
      refine ⟨?_, rfl, List.forall_mem_cons.mpr ⟨he.2, hraw⟩⟩
      rw [tags_behind]
      change (tag.toList.foldlM Markup.tagStep true).bind _ = _
      rw [Markup.tags_tagName he.1]
      rfl
  | «attribute» name value =>
      obtain ⟨rfl, rfl⟩ := Prod.mk.inj (Except.ok.inj h)
      exact ⟨tags_attributePieces he.2 value w.tagPending, he.1, hraw⟩
  | closeElement tag =>
      rw [step] at h
      cases htags : w.openTags with
      | nil => rw [htags] at h; cases h
      | cons t ts =>
          simp only [htags] at h
          split at h
          · obtain ⟨rfl, rfl⟩ := Prod.mk.inj (Except.ok.inj h)
            refine ⟨?_, rfl, fun other hother => hraw other (htags ▸ List.mem_cons_of_mem t hother)⟩
            rw [tags_behind]
            split
            · rfl
            · change (tag.toList.foldlM Markup.tagStep true).bind _ = _
              rw [Markup.tags_tagName he]
              rfl
          · cases h
  | text text =>
      have hescaped : w.inRawText = false := by
        rw [inRawText]
        cases htags : w.openTags with
        | nil => rfl
        | cons t ts => exact hraw t (htags ▸ List.mem_cons_self ..)
      rw [step] at h
      split at h
      · obtain ⟨rfl, rfl⟩ := Prod.mk.inj (Except.ok.inj h)
        refine ⟨?_, rfl, hraw⟩
        rw [List.foldlM_append, tags_endOfTag]
        rfl
      · obtain ⟨rfl, rfl⟩ := Prod.mk.inj (Except.ok.inj h)
        refine ⟨?_, rfl, hraw⟩
        rw [List.append_assoc, List.foldlM_append, tags_endOfTag, hescaped]
        change ((_ ++ _ : List Piece).foldlM Piece.tagStep false) = _
        have hnewline : (if w.atLeadingNewline && text.toList.head? == some '\n' then
            [Piece.markup "\n"] else []).foldlM Piece.tagStep false = some false := by
          split
          · decide
          · rfl
        rw [List.foldlM_append, hnewline]
        change ((Text.escape text).toList.foldlM Markup.tagStep false).bind _ = _
        rw [Markup.tags_escape]
        rfl

/-- **The writer owes the end of a tag just while a tag is open**, when the events are orderly. -/
theorem tags_feed (h : w.feed events = (pieces, .ok w'))
    (hevents : Event.Orderly w.tagPending events)
    (hraw : ∀ tag ∈ w.openTags, Html.isRawText tag = false) :
    pieces.foldlM Piece.tagStep w.tagPending = some w'.tagPending := by
  induction events generalizing w pieces with
  | nil =>
      cases h
      rfl
  | cons e events ih =>
      rw [feed] at h
      cases hstep : w.step e with
      | error reason => rw [hstep] at h; cases h
      | ok result =>
          obtain ⟨next, first⟩ := result
          simp only [hstep, Prod.mk.injEq] at h
          obtain ⟨rfl, hrest⟩ := h
          obtain ⟨hfirst, hpending, hnext⟩ := tags_step hstep hevents.1 hraw
          rw [List.foldlM_append, hfirst]
          exact ih (Prod.ext rfl hrest) (hpending ▸ hevents.2) hnext

/-- What is owed at the end ends the tag. -/
theorem tags_finish (w : Writer) : w.finish.foldlM Piece.tagStep w.tagPending = some false := by
  rw [finish, List.foldlM_append, tags_endOfTag]
  exact w.tags_endOfRun

end Writer

/-- The chunks of a run whose events are orderly have whole tags. -/
theorem Run.hasWholeTags {r : Run} (hevents : Event.Orderly false r.events) {chunks : List String}
    (h : streamed (fun pieces => (Chunks.ofPieces pieces).finish) r.stream = .ok chunks) :
    ∀ chunk ∈ chunks, Markup.HasWholeTags chunk := by
  rw [Run.stream] at h
  rcases hfeed : Writer.start.feed r.events with ⟨pieces, reason | w⟩
  · rw [hfeed] at h
    cases h
  · rw [hfeed] at h
    cases hstate : r.state with
    | error reason => rw [hstate] at h; cases h
    | ok pending =>
        rw [hstate] at h
        cases h
        refine Chunks.hasWholeTags_of_mem_finish ?_
        have htags := Writer.tags_feed hfeed hevents fun _ hmem => absurd hmem List.not_mem_nil
        rw [List.foldlM_append, show false = Writer.start.tagPending from rfl, htags]
        exact w.tags_finish

/-- The events of a compiled program without raw text are orderly. -/
theorem Template.orderly_run {t : Template} (hv : t.validate = .ok ()) (hraw : t.HasNoRawText)
    {scope : Scope} {contents : String → Option Template} (hs : scope.CompiledFrom contents)
    (hcontents : ∀ slot content, contents slot = some content → content.HasNoRawText) {r : Run}
    {nodes : List VNode} (hr : r.Shows (.ok nodes))
    (hnodes : Node.evaluateList (Template.projected scope.data contents) (rootNames scope.data)
      t.nodes = .ok nodes) : Event.Orderly false r.events := by
  obtain ⟨-, forest, hevents, hforest⟩ := hr
  have hwritable := Template.isWritable_of_evaluateList hv hraw hs hcontents hnodes
  have hmarks : VNode.AllElementsIn VNode.HasNoMarks nodes :=
    VNode.AllElementsIn.imp (fun _ _ _ h => ⟨h.names, h.escaped⟩) _ hwritable
  rw [hevents]
  refine VNode.orderly_listEvents forest ?_ false
  rwa [← VNode.allElementsIn_mergedList (fun _ _ _ => Iff.rfl), hforest,
    VNode.allElementsIn_mergedList fun _ _ _ => Iff.rfl]

/-- **Streaming is faithful.** What is streamed for any program and any scope is the same text for a
reader of one text and for a reader of chunks, at every moment and also if the stream fails later;
and no chunk is empty. If the program was compiled from a valid template and the contents for its
slots as well, all without raw text, every tag that begins in a chunk ends in it. -/
theorem renderChunks_faithful :
    (∀ (p : Program) (scope : Scope),
      (renderChunks p scope).map String.join = renderToString p scope ∧
        ∀ pieces, pieces <+: (stream p scope).1 →
          (Chunks.ofPieces pieces).markup = Piece.join pieces ∧
            String.join (Chunks.ofPieces pieces).finish = Piece.join pieces ∧
            "" ∉ (Chunks.ofPieces pieces).complete ∧ "" ∉ (Chunks.ofPieces pieces).finish) ∧
      ∀ (t : Template) (o : CompileOptions) (scope : Scope) (contents : String → Option Template),
        t.validate = .ok () → t.HasNoRawText → scope.CompiledFrom contents →
        (∀ slot content, contents slot = some content → content.HasNoRawText) →
        ∃ p, compile t .server o = .ok p ∧ ∀ chunks, renderChunks p scope = .ok chunks →
          ∀ chunk ∈ chunks, Markup.HasWholeTags chunk := by
  refine ⟨fun p scope => ⟨map_join_renderChunks p scope, fun pieces _ =>
    ⟨Chunks.markup_ofPieces pieces, Chunks.join_finish pieces, Chunks.not_mem_ofPieces pieces,
      Chunks.not_mem_cut (Chunks.not_mem_ofPieces pieces)⟩⟩, ?_⟩
  intro t o scope contents hv hraw hs hcontents
  obtain ⟨p, hp, hshows⟩ := run_compile_shows hv o hs .server
  refine ⟨p, hp, fun chunks hchunks => ?_⟩
  cases hnodes : Node.evaluateList (Template.projected scope.data contents) (rootNames scope.data)
      t.nodes with
  | error reason =>
      have hstring := (map_join_renderChunks p scope).symm
      rw [hchunks, renderToString, stream, hshows.stream_eq (by simp [hnodes]), hnodes] at hstring
      cases hstring
  | ok nodes =>
      rw [hnodes] at hshows
      exact Run.hasWholeTags (Template.orderly_run hv hraw hs hcontents hshows hnodes) hchunks

/-- A list with content from outside is streamed in chunks that end behind its texts, also the empty
ones. -/
theorem renderChunks_faithful_list :
    listTemplate.validate = .ok () ∧ listTemplate.HasNoRawText ∧
      listScope.CompiledFrom listContents ∧
      ∃ p, compile listTemplate .server .standard = .ok p ∧
        renderChunks p listScope = .ok ["<li class=\"a\">x", "</li><li class=\"a\">",
          String.singleton placeholder ++ "</li>"] ∧
        Markup.HasWholeTags "<li class=\"a\">x" ∧
        renderToString p listScope = .ok (String.join ["<li class=\"a\">x",
          "</li><li class=\"a\">", String.singleton placeholder ++ "</li>"]) := by
  have hescaped : Html.isRawText "LI" = false := by decide +kernel
  have hraw : listTemplate.HasNoRawText :=
    ⟨⟨⟨hescaped, trivial, trivial, trivial⟩, trivial⟩, trivial⟩
  have hcontents (slot : String) (content : Template) (h : listContents slot = some content) :
      content.HasNoRawText := by
    rw [listContents] at h
    split at h
    · cases h
      exact ⟨trivial, trivial⟩
    · cases h
  obtain ⟨hboth, hwhole⟩ := renderChunks_faithful
  obtain ⟨p, hp, htags⟩ := hwhole listTemplate .standard listScope listContents
    validate_listTemplate hraw compiledFrom_listScope hcontents
  have hchunks : renderChunks p listScope = .ok ["<li class=\"a\">x", "</li><li class=\"a\">",
      String.singleton placeholder ++ "</li>"] := by
    have hrun : (compile listTemplate .server .standard).map (renderChunks · listScope) =
        .ok (.ok ["<li class=\"a\">x", "</li><li class=\"a\">",
          String.singleton placeholder ++ "</li>"]) := by cbv
    rw [hp] at hrun
    exact Except.ok.inj hrun
  refine ⟨validate_listTemplate, hraw, compiledFrom_listScope, p, hp, hchunks,
    htags _ hchunks _ (List.mem_cons_self ..), ?_⟩
  rw [← (hboth p listScope).1, hchunks]
  rfl

end TwinRender
