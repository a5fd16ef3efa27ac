import TwinRender.Proofs.Render.Events
import TwinRender.Proofs.Template.Plain
import TwinRender.Render.Stream

/-!
# The writer and the tree

The writer decides late: it holds back the end of a start tag, the placeholder of an empty run of
text, and the line feed that a parser drops. All that it remembers follows from three things: the
open tags, whether an element was written since the last of them began, and the run of text so
far. The markup it has written, with what it still owes, is the markup of the nodes so far, their
texts merged and their empty texts held by placeholders.

## Main definitions

* `VNode.filled`: a tree whose empty texts are held by placeholders.
* `Writer.within`: the state of the writer at a place of a tree.
* `Writer.Writes`: what is written for some events, and the state behind them.

## Main results

* `Writer.writes_listEvents`: what the writer writes for the events of plain nodes.
* `Writer.feed_prefix`: the writer does not fail at the beginning of such events.
-/

namespace TwinRender

namespace VNode

mutual

/-- A tree whose empty texts are held by placeholders. -/
def filled : VNode → VNode
  | .element tag attributes children => .element tag attributes (filledList children)
  | .text s => .text (if s.isEmpty then String.singleton placeholder else s)

/-- Trees whose empty texts are held by placeholders. -/
def filledList : List VNode → List VNode
  | [] => []
  | n :: ns => n.filled :: filledList ns

end

/-- Lists are filled part by part. -/
theorem filledList_append (ms ns : List VNode) :
    filledList (ms ++ ns) = filledList ms ++ filledList ns := by
  induction ms with
  | nil => rfl
  | cons m ms ih => rw [List.cons_append, filledList, filledList, ih, List.cons_append]

/-- Lists are filled node by node. -/
theorem filledList_eq_map (ns : List VNode) : filledList ns = ns.map filled := by
  induction ns with
  | nil => rfl
  | cons n ns ih => rw [filledList, ih, List.map_cons]

/-- Lists are written part by part. -/
theorem writeList_append (raw : Bool) (ms ns : List VNode) :
    writeList raw (ms ++ ns) = writeList raw ms ++ writeList raw ns := by
  induction ms with
  | nil => rw [List.nil_append, writeList, String.empty_append]
  | cons m ms ih => rw [List.cons_append, writeList, writeList, ih, String.append_assoc]

/-- Outside of elements, the markup of a list is the markup of its nodes. -/
theorem writeList_false (ns : List VNode) : writeList false ns = String.join (ns.map markup) := by
  induction ns with
  | nil => rfl
  | cons n ns ih => rw [writeList, ih, List.map_cons, String.join_cons, markup]

end VNode

namespace Piece

/-- An empty stream. -/
@[simp] theorem join_nil : join [] = "" := rfl

/-- Streams are joined part by part. -/
theorem join_append (a b : List Piece) : join (a ++ b) = join a ++ join b := by
  simp only [join, List.map_append, String.join_append]

/-- Some markup and what is behind it. -/
@[simp] theorem join_markup (text : String) (rest : List Piece) :
    join (.markup text :: rest) = text ++ join rest := by
  simp only [join, List.map_cons, String.join_cons]

/-- A boundary is not seen. -/
@[simp] theorem join_boundary (rest : List Piece) : join (.boundary :: rest) = join rest := by
  simp only [join, List.map_cons, String.join_cons, String.empty_append]

end Piece

namespace Markup

/-- Characters are written one behind the other. -/
theorem characterData_append (raw : Bool) (s t : String) :
    characterData raw (s ++ t) = characterData raw s ++ characterData raw t := by
  cases raw with
  | true => rfl
  | false =>
      simp only [characterData, Bool.false_eq_true, if_false, Text.escape, String.toList_append,
        Text.escapeChars_append, String.ofList_append]

/-- Nothing is written for an empty text. -/
@[simp] theorem characterData_empty (raw : Bool) : characterData raw "" = "" := by
  cases raw <;> rfl

/-- The placeholder is written as it is. -/
theorem characterData_placeholder (raw : Bool) :
    characterData raw (String.singleton placeholder) = String.singleton placeholder := by
  cases raw with
  | true => rfl
  | false => decide +kernel

/-- Only the first character of a content matters for the line feed before it. -/
theorem guardNewline_append (tag : String) {s : String} (hs : s ≠ "") (t : String) :
    guardNewline tag (some (s ++ t)) = guardNewline tag (some s) := by
  have hhead : (s ++ t).toList.head? = s.toList.head? := by
    rw [String.toList_append, List.head?_append_of_ne_nil _ (by simpa using hs)]
  simp only [guardNewline, Option.any_some, hhead]

/-- A placeholder is not a line feed. -/
theorem guardNewline_placeholder (tag : String) :
    guardNewline tag (some (String.singleton placeholder)) = guardNewline tag (some "") := by
  have hne : placeholder ≠ '\n' := by decide
  simp [guardNewline, hne]

end Markup

/-! ### Places in a tree -/

namespace Writer

/-- The state of the writer at a place of a tree, given by the open tags, whether only text was
written since the last of them began, and the run of text so far, if one has begun. -/
def within (tags : List String) (first : Bool) (run : Option String) : Writer where
  openTags := tags
  tagPending := first && run.isNone && !tags.isEmpty
  placeholderPending := run.any String.isEmpty
  runHasText := run.any fun text => !text.isEmpty
  atLeadingNewline :=
    first && run.all String.isEmpty && tags.head?.any Html.dropsLeadingNewline

/-- What stands before the content of an element, given the text that the content begins with. -/
def lead (tags : List String) (first : Bool) (text : Option String) : String :=
  match tags, first with
  | tag :: _, true => ">" ++ Markup.guardNewline tag text
  | _, _ => ""

/-- What is written for a run of text once it has begun. -/
def written (tags : List String) (first : Bool) : Option String → String
  | none => ""
  | some text =>
    lead tags first (some text) ++ Markup.characterData (tags.head?.any Html.isRawText) text

/-- The content of an element from a place on, with what stands before it. -/
def content (tags : List String) (first : Bool) (ns : List VNode) : String :=
  lead tags first (ns.head?.bind VNode.text?) ++
    VNode.writeList (tags.head?.any Html.isRawText) ns

/-- The run of text so far, as nodes. -/
def runNodes (run : Option String) : List VNode := run.toList.map .text

/-- What is owed at a place completes the run of text. -/
theorem written_owed (tags : List String) (first : Bool) (run : Option String) :
    written tags first run ++ Piece.join (within tags first run).finish =
      content tags first (VNode.filledList (runNodes run)) := by
  cases run with
  | none =>
      rcases tags with _ | ⟨tag, tags⟩ <;> cases first <;>
        simp [written, within, finish, endOfTag, endOfRun, content, lead, runNodes,
          VNode.filledList, VNode.writeList, Markup.guardNewline]
  | some text =>
      by_cases htext : text = ""
      · subst htext
        have hlead : lead tags first (some "") =
            lead tags first (some (String.singleton placeholder)) := by
          rcases tags with _ | ⟨tag, tags⟩ <;> cases first <;>
            simp [lead, Markup.guardNewline_placeholder]
        simp [written, within, finish, endOfTag, endOfRun, content, runNodes, VNode.filledList,
          VNode.filled, VNode.writeList, VNode.write, VNode.text?, hlead,
          Markup.characterData_placeholder]
      · have hne : text.isEmpty = false := String.isEmpty_eq_false_iff.mpr htext
        simp [written, within, finish, endOfTag, endOfRun, content, runNodes, VNode.filledList,
          VNode.filled, VNode.writeList, VNode.write, VNode.text?, hne]

/-- An element ends the run of text before it. -/
theorem content_append_element (tags : List String) (first : Bool) (run : Option String)
    (tag : String) (attributes : OrderedMap String) (children ns : List VNode) :
    content tags first (VNode.filledList (runNodes run) ++ .element tag attributes children :: ns) =
      content tags first (VNode.filledList (runNodes run)) ++
        VNode.write (tags.head?.any Html.isRawText) (.element tag attributes children) ++
        content tags false ns := by
  have hlead : lead tags false (ns.head?.bind VNode.text?) = "" := by
    rcases tags with _ | ⟨tag, tags⟩ <;> rfl
  rw [content, content, content, hlead, VNode.writeList_append, VNode.writeList]
  cases run with
  | none =>
      simp [runNodes, VNode.filledList, VNode.writeList, VNode.text?, String.append_assoc]
  | some text =>
      simp [runNodes, VNode.filledList, VNode.filled, VNode.text?, String.append_assoc]

/-! ### What is written -/

/-- For some events the writer writes a text and comes to a state. -/
def Writes (w : Writer) (events : List Event) (w' : Writer) (text : String) : Prop :=
  ∃ pieces, w.feed events = (pieces, .ok w') ∧ Piece.join pieces = text

namespace Writes

variable {w w' w'' : Writer} {a b : List Event} {s t : String}

/-- Nothing is written for no events. -/
theorem nil (w : Writer) : Writes w [] w "" := ⟨[], rfl, rfl⟩

/-- What is written for one event. -/
theorem step {e : Event} {pieces : List Piece} (h : w.step e = .ok (w', pieces)) :
    Writes w [e] w' (Piece.join pieces) := by
  refine ⟨pieces, ?_, rfl⟩
  simp only [feed, h, List.append_nil]

/-- What is written for events one behind the other. -/
theorem append (ha : Writes w a w' s) (hb : Writes w' b w'' t) :
    Writes w (a ++ b) w'' (s ++ t) := by
  obtain ⟨pieces, hpieces, rfl⟩ := ha
  obtain ⟨others, hothers, rfl⟩ := hb
  refine ⟨pieces ++ others, ?_, Piece.join_append pieces others⟩
  induction a generalizing w pieces with
  | nil =>
      cases hpieces
      exact hothers
  | cons e rest ih =>
      rw [List.cons_append, feed]
      rw [feed] at hpieces
      cases hstep : w.step e with
      | error reason => rw [hstep] at hpieces; cases hpieces
      | ok result =>
          obtain ⟨next, first⟩ := result
          simp only [hstep, Prod.mk.injEq] at hpieces
          obtain ⟨rfl, hrest⟩ := hpieces
          simp only [ih (feed next rest).1 (Prod.ext rfl hrest), List.append_assoc]

end Writes

/-- The writer does not fail at the beginning of events for which it does not fail. -/
theorem feed_prefix {w w' : Writer} {events more : List Event} {text : String}
    (h : events <+: more) (hmore : Writes w more w' text) :
    ∃ w'' s, Writes w events w'' s := by
  obtain ⟨rest, rfl⟩ := h
  obtain ⟨pieces, hpieces, -⟩ := hmore
  induction events generalizing w pieces with
  | nil => exact ⟨w, "", Writes.nil w⟩
  | cons e events ih =>
      rw [List.cons_append, feed] at hpieces
      cases hstep : w.step e with
      | error reason => rw [hstep] at hpieces; cases hpieces
      | ok result =>
          obtain ⟨next, first⟩ := result
          simp only [hstep, Prod.mk.injEq] at hpieces
          obtain ⟨w'', s, hs⟩ := ih (feed next (events ++ rest)).1 (Prod.ext rfl hpieces.2)
          exact ⟨w'', _, (Writes.step hstep).append hs⟩

/-- An empty text begins a run of text, or leaves it as it is. -/
theorem writes_empty (tags : List String) (first : Bool) (run : Option String) :
    ∃ text,
      Writes (within tags first run) [.text ""] (within tags first (some (run.getD ""))) text ∧
      written tags first run ++ text = written tags first (some (run.getD "")) := by
  have hnil : "".isEmpty = true := rfl
  refine ⟨Piece.join ((within tags first run).endOfTag ++ [.boundary]), Writes.step ?_, ?_⟩
  · cases run with
    | none => simp [Writer.step, within, hnil]
    | some text => simp [Writer.step, within]
  · rcases tags with _ | ⟨tag, tags⟩ <;> cases first <;> cases run <;>
      simp [written, within, endOfTag, lead, Markup.guardNewline]

/-- The line feed that the writer puts before a text. -/
def newline (w : Writer) (s : String) : String :=
  if w.atLeadingNewline && s.toList.head? == some '\n' then "\n" else ""

/-- What the writer puts before the first text with content completes what stands before it. -/
theorem lead_eq (tags : List String) (first : Bool) {run : Option String}
    (hrun : run.all String.isEmpty = true) (s : String) :
    written tags first run ++ Piece.join (within tags first run).endOfTag ++
      (within tags first run).newline s = lead tags first (some s) := by
  have hnil : "".isEmpty = true := rfl
  rcases run with _ | t
  · rcases tags with _ | ⟨tag, tags⟩ <;> cases first <;>
      simp [written, within, endOfTag, newline, lead, Markup.guardNewline]
  · obtain rfl : t = "" := by simpa [String.isEmpty_iff] using hrun
    rcases tags with _ | ⟨tag, tags⟩ <;> cases first <;>
      simp [written, within, endOfTag, newline, lead, Markup.guardNewline, hnil]

/-- A text with content begins a run of text, or continues it. -/
theorem writes_nonempty (tags : List String) (first : Bool) (run : Option String) {s : String}
    (hs : s ≠ "") :
    ∃ text, Writes (within tags first run) [.text s] (within tags first (some (run.getD "" ++ s)))
        text ∧
      written tags first run ++ text = written tags first (some (run.getD "" ++ s)) := by
  have hne : s.isEmpty = false := String.isEmpty_eq_false_iff.mpr hs
  have happend : (run.getD "" ++ s).isEmpty = false := by
    rw [String.isEmpty_eq_false_iff, ne_eq, String.append_eq_empty_iff, not_and]
    exact fun _ => hs
  have hnext : { (within tags first run).betweenRuns with runHasText := true } =
      within tags first (some (run.getD "" ++ s)) := by
    simp [within, betweenRuns, happend]
  have hraw : (within tags first run).inRawText = tags.head?.any Html.isRawText := rfl
  refine ⟨Piece.join (within tags first run).endOfTag ++ (within tags first run).newline s ++
    Markup.characterData (tags.head?.any Html.isRawText) s, ?_, ?_⟩
  · refine ⟨_, by simp only [feed, Writer.step, hne, hnext, hraw]; rfl, ?_⟩
    simp only [newline, Piece.join_append, Markup.characterData]
    split <;> simp
  · by_cases hrun : run.all String.isEmpty = true
    · have hlead := lead_eq tags first hrun s
      have hrest : run.getD "" = "" := by
        cases run with
        | none => rfl
        | some t => simpa [String.isEmpty_iff] using hrun
      rw [← String.append_assoc, ← String.append_assoc, hlead, hrest, String.empty_append]
      rfl
    · obtain ⟨t, rfl, ht⟩ : ∃ t, run = some t ∧ t ≠ "" := by
        cases run with
        | none => exact absurd rfl hrun
        | some t => exact ⟨t, rfl, by simpa [String.isEmpty_iff] using hrun⟩
      have hlead : lead tags first (some (t ++ s)) = lead tags first (some t) := by
        rcases tags with _ | ⟨tag, tags⟩ <;> cases first <;>
          simp [lead, Markup.guardNewline_append _ ht]
      have hfull : t.isEmpty = false := String.isEmpty_eq_false_iff.mpr ht
      simp [written, within, endOfTag, newline, hfull, hlead, Markup.characterData_append,
        String.append_assoc]

/-- A text continues the run of text, whether it is empty or not. -/
theorem writes_text (tags : List String) (first : Bool) (run : Option String) (s : String) :
    ∃ text, Writes (within tags first run) [.text s] (within tags first (some (run.getD "" ++ s)))
        text ∧
      written tags first run ++ text = written tags first (some (run.getD "" ++ s)) := by
  by_cases hs : s = ""
  · rw [hs, String.append_empty]
    exact writes_empty tags first run
  · exact writes_nonempty tags first run hs

/-- The attributes of a start tag. -/
theorem writes_attributes (w : Writer) {entries : List (String × String)}
    (h : ∀ a ∈ entries, Html.isBoolean a.1 = true → a.2 = "") :
    Writes w (entries.map fun a => .attribute a.1 a.2) w
      (String.join (entries.map fun a => Markup.attributeText a.1 a.2)) := by
  induction entries with
  | nil => exact Writes.nil w
  | cons a rest ih =>
      have hrest := ih fun other hmem => h other (List.mem_cons_of_mem _ hmem)
      have hfirst : Piece.join (attributePieces a.1 a.2) = Markup.attributeText a.1 a.2 := by
        have hboolean := h a (List.mem_cons_self ..)
        by_cases hvalue : a.2 = ""
        · simp [attributePieces, Markup.attributeText, hvalue]
        · have hne : a.2.isEmpty = false := String.isEmpty_eq_false_iff.mpr hvalue
          have hplain : Html.isBoolean a.1 = false := by
            rw [Bool.eq_false_iff]
            exact fun hb => hvalue (hboolean hb)
          simp [attributePieces, Markup.attributeText, hne, hplain, String.append_assoc]
      rw [List.map_cons, List.map_cons, String.join_cons, ← hfirst]
      exact (Writes.step (w := w) (e := .attribute a.1 a.2) rfl).append hrest

/-- The innermost element ends. -/
theorem step_closeElement {w : Writer} {tag : String} {tags : List String}
    (h : w.openTags = tag :: tags) :
    w.step (.closeElement tag) =
      .ok (within tags false none,
        w.finish ++ if Html.isVoid tag then [] else [.markup "</", .markup tag, .markup ">"]) := by
  simp [Writer.step, h, finish, within, betweenRuns]

/-! ### Events of trees -/

mutual

/-- The writer does not fail at the events of a node, and the same elements are open behind
them. -/
theorem exists_writes_events (n : VNode) (w : Writer) :
    ∃ w' text, Writes w n.events w' text ∧ w'.openTags = w.openTags := by
  cases n with
  | text s =>
      obtain ⟨w', pieces, hstep, htags⟩ : ∃ w' pieces,
          w.step (.text s) = .ok (w', pieces) ∧ w'.openTags = w.openTags := by
        rw [Writer.step]
        split
        · exact ⟨_, _, rfl, rfl⟩
        · exact ⟨_, _, rfl, rfl⟩
      exact ⟨w', _, Writes.step hstep, htags⟩
  | element tag attributes children =>
      have hattributes (entries : List (String × String)) (w : Writer) :
          ∃ text, Writes w (entries.map fun a => .attribute a.1 a.2) w text := by
        induction entries with
        | nil => exact ⟨_, Writes.nil w⟩
        | cons a rest ih =>
            obtain ⟨text, htext⟩ := ih
            exact ⟨_, (Writes.step (e := .attribute a.1 a.2) rfl).append htext⟩
      obtain ⟨w₁, hopen, htags⟩ : ∃ w₁, Writes w [.openElement tag] w₁ _ ∧
          w₁.openTags = tag :: w.openTags := ⟨_, Writes.step rfl, rfl⟩
      obtain ⟨_, hentries⟩ := hattributes attributes.toList w₁
      obtain ⟨w₂, _, hchildren, htags₂⟩ := exists_writes_listEvents children w₁
      rw [htags] at htags₂
      have hclose := Writes.step (step_closeElement htags₂)
      exact ⟨_, _, hopen.append (hentries.append (hchildren.append hclose)), rfl⟩

/-- The writer does not fail at the events of nodes, and the same elements are open behind
them. -/
theorem exists_writes_listEvents (ns : List VNode) (w : Writer) :
    ∃ w' text, Writes w (VNode.listEvents ns) w' text ∧ w'.openTags = w.openTags := by
  cases ns with
  | nil => exact ⟨w, _, Writes.nil w, rfl⟩
  | cons n ns =>
      obtain ⟨w₁, _, hfirst, htags⟩ := exists_writes_events n w
      obtain ⟨w₂, _, hrest, htags₂⟩ := exists_writes_listEvents ns w₁
      exact ⟨w₂, _, hfirst.append hrest, htags₂.trans htags⟩

end

/-! ### Trees -/

/-- The markup of an element around its content. -/
theorem write_element (raw : Bool) (tags : List String) {tag : String}
    {attributes : OrderedMap String} (hnames : VNode.HasLowercaseNames tag attributes)
    {ns : List VNode} (hvoid : Html.isVoid tag = true → ns = []) :
    VNode.write raw (.element tag attributes ns) =
      "<" ++ tag ++ String.join (attributes.toList.map fun a => Markup.attributeText a.1 a.2) ++
        content (tag :: tags) true ns ++ if Html.isVoid tag then "" else Markup.closingTag tag := by
  rw [VNode.write, hnames.tag, OrderedMap.lowerKeys_eq_self hnames.attributes, Markup.elementText]
  by_cases hv : Html.isVoid tag = true
  · rw [if_pos hv, if_pos hv, hvoid hv]
    simp [Markup.openingTag, content, lead, Markup.guardNewline, VNode.writeList,
      String.append_assoc]
  · rw [if_neg hv, if_neg hv]
    simp [Markup.openingTag, content, lead, String.append_assoc]

/-- What is written for an element, given what is written for its children. -/
theorem writes_around (tags : List String) (first : Bool) (run : Option String) {tag : String}
    {attributes : OrderedMap String} {children : List VNode}
    (hplain : VNode.IsPlain tag attributes children) {w : Writer} {text : String}
    (htags : w.openTags = tag :: tags)
    (hchildren : Writes (within (tag :: tags) true none) (VNode.listEvents children) w text)
    (htext : text ++ Piece.join w.finish =
      content (tag :: tags) true (VNode.filledList (VNode.mergedList children))) :
    Writes (within tags first run) (VNode.events (.element tag attributes children))
      (within tags false none)
      (Piece.join (within tags first run).finish ++
        VNode.write (tags.head?.any Html.isRawText)
          (VNode.filled (.element tag attributes (VNode.mergedList children)))) := by
  have hopen : (within tags first run).step (.openElement tag) =
      .ok (within (tag :: tags) true none,
        (within tags first run).finish ++ [.markup "<", .markup tag]) := by
    simp [Writer.step, finish, within, betweenRuns]
  have hclose := Writes.step (step_closeElement htags)
  have hall := (Writes.step hopen).append
    ((writes_attributes _ hplain.boolean).append (hchildren.append hclose))
  have hvoid (hv : Html.isVoid tag = true) :
      VNode.filledList (VNode.mergedList children) = [] := by
    rw [hplain.void hv]
    rfl
  have hend : Piece.join (if Html.isVoid tag then []
      else [.markup "</", .markup tag, .markup ">"]) =
      if Html.isVoid tag then "" else Markup.closingTag tag := by
    split <;> simp [Markup.closingTag, String.append_assoc]
  rw [VNode.filled, write_element _ tags hplain.names hvoid, ← htext, ← hend]
  simpa [VNode.events, Piece.join_append, String.append_assoc] using hall

/-- An element in a list stands by itself when texts are merged. -/
theorem mergedList_runNodes_element (run : Option String) (tag : String)
    (attributes : OrderedMap String) (children ns : List VNode) :
    VNode.mergedList (runNodes run ++ .element tag attributes children :: ns) =
      runNodes run ++
        .element tag attributes (VNode.mergedList children) :: VNode.mergedList ns := by
  cases run <;> rfl

/-- A text in a list joins the run of text before it. -/
theorem mergedList_runNodes_text (run : Option String) (s : String) (ns : List VNode) :
    VNode.mergedList (runNodes run ++ .text s :: ns) =
      VNode.mergedList (runNodes (some (run.getD "" ++ s)) ++ ns) := by
  cases run with
  | none => simp [runNodes]
  | some t => exact VNode.mergedList_text_text t s ns

/-- **What is written for plain nodes**: together with what is owed behind it, the content of the
nodes, their texts merged and their empty texts held by placeholders. -/
theorem writes_listEvents (ns : List VNode) (hns : VNode.ArePlain ns) (tags : List String)
    (first : Bool) (run : Option String) :
    ∃ w text, w.openTags = tags ∧ Writes (within tags first run) (VNode.listEvents ns) w text ∧
      written tags first run ++ text ++ Piece.join w.finish =
        content tags first (VNode.filledList (VNode.mergedList (runNodes run ++ ns))) := by
  match ns with
  | [] =>
      refine ⟨within tags first run, "", rfl, Writes.nil _, ?_⟩
      have hmerged : VNode.mergedList (runNodes run) = runNodes run := by cases run <;> rfl
      rw [String.append_empty, written_owed, List.append_nil, hmerged]
  | .text s :: rest =>
      obtain ⟨text, hfirst, hrun⟩ := writes_text tags first run s
      obtain ⟨w, others, htags, hrest, hall⟩ :=
        writes_listEvents rest hns.2 tags first (some (run.getD "" ++ s))
      refine ⟨w, text ++ others, htags, hfirst.append hrest, ?_⟩
      rw [mergedList_runNodes_text, ← hall, ← hrun]
      simp only [String.append_assoc]
  | .element tag attributes children :: rest =>
      -- the children begin behind a start tag that is not over
      obtain ⟨w', text, htags', hchildren, hcontent⟩ :=
        writes_listEvents children hns.1.2 (tag :: tags) true none
      have hinside : text ++ Piece.join w'.finish =
          content (tag :: tags) true (VNode.filledList (VNode.mergedList children)) := by
        simpa [written, runNodes] using hcontent
      have hfirst := writes_around tags first run hns.1.1 htags' hchildren hinside
      obtain ⟨w, others, htags, hrest, hall⟩ := writes_listEvents rest hns.2 tags false none
      refine ⟨w, _, htags, hfirst.append hrest, ?_⟩
      have hbehind : others ++ Piece.join w.finish =
          content tags false (VNode.filledList (VNode.mergedList rest)) := by
        simpa [written, runNodes] using hall
      rw [mergedList_runNodes_element, VNode.filledList_append, VNode.filledList]
      simp only [VNode.filled, content_append_element, ← written_owed, ← hbehind]
      simp only [String.append_assoc]

end Writer

end TwinRender
