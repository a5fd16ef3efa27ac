import TwinRender.Pipeline
import TwinRender.Proofs.Document.Parsed
import TwinRender.Proofs.Hydration.Conformity
import TwinRender.Proofs.Hydration.Fixpoint
import TwinRender.Proofs.Render.Unforgeable

/-!
# The same data on both sides

A page that is rendered and hydrated with the same data needs no repair. What the server writes is
the markup of the tree that the client expects, with placeholders for its empty texts; a parser
makes the same tree of it again, if it leaves every element where it is written and every character
as it is; and a pass finds that the document conforms.

## Main results

* `Document.conforms_parse`: a document of written trees conforms to them.
* `hydrate_renderServer`: **with the same data, hydration leaves no trace**.
-/

namespace TwinRender

open Markup (IsClean)
open VNode (AllElementsIn AllTextsIn StaysInPlace filledList mergedList mountedList parsedList)

/-! ### Placeholders -/

namespace VNode

variable {p : String → Prop}

mutual

/-- The texts of a filled tree are those of the tree, and placeholders. -/
theorem AllTexts.filled (hp : p (String.singleton placeholder)) (n : VNode) (h : n.AllTexts p) :
    n.filled.AllTexts p := by
  cases n with
  | element tag attributes children => exact ⟨h.1, AllTextsIn.filledList hp children h.2⟩
  | text s =>
      rw [VNode.filled, AllTexts]
      split
      · exact hp
      · exact h

/-- The texts of filled trees are those of the trees, and placeholders. -/
theorem AllTextsIn.filledList (hp : p (String.singleton placeholder)) (ns : List VNode)
    (h : AllTextsIn p ns) : AllTextsIn p (filledList ns) := by
  cases ns with
  | nil => trivial
  | cons n ns => exact ⟨AllTexts.filled hp n h.1, AllTextsIn.filledList hp ns h.2⟩

end

/-- Placeholders do not move an element. -/
theorem StaysInPlace.filledList {tag : String} {attributes : OrderedMap String}
    {children : List VNode} (h : StaysInPlace tag attributes children) :
    StaysInPlace tag attributes (filledList children) := by
  cases h with
  | flow h => exact .flow h
  | paragraph htag h =>
      exact .paragraph htag (AllElementsIn.filledList (fun _ _ _ h => h) children h)

end VNode

/-! ### Conforming documents -/

namespace Document

variable {d : Document}

mutual

/-- Placeholders are not seen when a node is compared. -/
theorem fits_filled {id : NodeId} (n : VNode) : d.Fits id n.filled ↔ d.Fits id n := by
  cases n with
  | element tag attributes children =>
      rw [VNode.filled, Fits, Fits, fitsAll_filledList children]
  | text s => rw [VNode.filled, Fits, Fits, VNode.canonicalText_placeholder]

/-- Placeholders are not seen when nodes are compared. -/
theorem fitsAll_filledList {ids : List NodeId} (ns : List VNode) :
    d.FitsAll ids (filledList ns) ↔ d.FitsAll ids ns := by
  cases ns with
  | nil => rfl
  | cons n ns =>
      rw [VNode.filledList, FitsAll, FitsAll]
      simp only [fits_filled n, fitsAll_filledList ns]

end

/-- The document of any markup can be hydrated from its top on. -/
theorem isRoot_parse (markup : String) : (Document.parse markup).IsRoot root := by
  refine ⟨?_, ?_⟩
  · rw [Document.parse, payload?_of_cell? (holds_ofForest (Markup.parse markup)).1]
    rfl
  · rw [isAttached, List.contains_iff_mem]
    exact mem_climb_self _ _ _

/-- **A document of written trees conforms to them**, whether their empty texts are held by
placeholders or not. -/
theorem conforms_parse {markup : String} {ns : List VNode}
    (h : Markup.parse markup = parsedList (filledList ns))
    (hns : VNode.AreLowercase (filledList ns)) :
    (Document.parse markup).Conforms root ns := by
  obtain ⟨hcell, hheld⟩ := ofForest_holds (filledList ns)
  have hdocument : Document.parse markup = ofForest (parsedList (filledList ns)) := by
    rw [Document.parse, h]
  -- what a pass would have to say about the nodes does not depend on its options
  have hkeep : (Plan.nodes .standard "" [] 0 0 (mountedList 1 (filledList ns))
      (filledList ns)).effect.records = [] := by
    rw [Plan.nodes_mounted _ hns]
    rfl
  rw [Conforms, hdocument, Pass.liveChildren_eq (children_of_cell? hcell) hheld,
    ← fitsAll_filledList]
  exact (Plan.records_nodes_iff_fitsAll hheld _).mp hkeep

end Document

/-! ### Round trips -/

/-- **Trees that were written are found again**: where a parser leaves all elements in place and
drops nothing, a pass over the document of their markup leaves no trace. -/
theorem hydrateNodes_written (o : HydrationOptions) {ns : List VNode}
    (hwritable : AllElementsIn VNode.IsWritable ns)
    (hstay : AllElementsIn StaysInPlace (mergedList ns))
    (hclean : AllTextsIn IsClean (mergedList ns)) :
    ∃ r, hydrateNodes o (.parse (VNode.writeList false (filledList (mergedList ns))))
        Document.root (mergedList ns) =
          .ok (.parse (VNode.writeList false (filledList (mergedList ns))), r) ∧
      r.records = [] ∧ r.state = .cleanFinish ∧ r.diagnostics.entries = [] ∧ r.replaced = 0 ∧
      r.patched = 0 := by
  obtain ⟨hread, hseparated⟩ := VNode.isReadable_filledList hwritable
  obtain ⟨hparse, -⟩ := VNode.parse_writeList hread hseparated
    (AllTextsIn.filledList ⟨by decide, by decide, by decide⟩ _ hclean)
    (AllElementsIn.filledList (fun _ _ _ h => h.filledList) _ hstay)
  have hlower : VNode.AreLowercase (filledList (mergedList ns)) :=
    AllElementsIn.imp (fun _ _ _ h => h.lowercase) _ hread
  exact hydrateNodes_of_conforms o (.parse _) (Document.isRoot_parse _)
    (Document.conforms_parse hparse hlower)

/-- The tree of a valid template can be read back from its markup if its elements stay in place. -/
theorem Template.isWritable_of_staysInPlace {t : Template} (hv : t.validate = .ok ())
    {scope : Scope} {contents : String → Option Template} (hs : scope.CompiledFrom contents)
    {nodes : List VNode}
    (h : Template.Node.evaluateList (Template.projected scope.data contents)
      (Template.rootNames scope.data) t.nodes = .ok nodes)
    (hstay : AllElementsIn StaysInPlace (mergedList nodes)) :
    AllElementsIn VNode.IsWritable nodes := by
  have hplain := Template.Node.arePlain_evaluateList (arePlain_projected hs scope.data) t.nodes
    (Template.validate_eq_ok_iff.mp hv) h
  have hlower := AllElementsIn.imp (fun _ _ _ h => h.names) _
    ((VNode.arePlain_mergedList nodes).mpr hplain)
  have hescaped : AllElementsIn (fun tag _ _ => Html.isRawText tag = false) (mergedList nodes) :=
    AllElementsIn.imp (fun _ _ _ h => h.1.escaped h.2.tag) _ (hstay.and _ hlower)
  exact isWritable_of_escaped hv hs h
    ((VNode.allElementsIn_mergedList (fun _ _ _ => Iff.rfl) nodes).mp hescaped)

/-- A compiled program is for the target that it was compiled for. -/
theorem target_of_compile {t : Template} {target : Target} {o : CompileOptions} {p : Program}
    (h : compile t target o = .ok p) : p.target = target := by
  obtain ⟨p', hp', htarget, -⟩ := compile_shows (validate_of_compile h) target o
  rw [h] at hp'
  cases hp'
  exact htarget

/-- Hydration is a pass over the nodes that a client program describes. -/
theorem hydrate_of_renderClient {o : HydrationOptions} {d : Document} {root : NodeId}
    {p : Program} {scope : Scope} {nodes : List VNode} (htarget : p.target = .client)
    (h : renderClient p scope = .ok nodes) :
    hydrate o d root p scope = hydrateNodes o d root nodes := by
  have hexpected : expectedNodes p scope = .ok nodes := by
    rw [expectedNodes, if_pos htarget, h]
    rfl
  rw [hydrate, hydrateInPlace, hexpected, hydrateNodes]

/-- **With the same data on both sides, hydration leaves no trace.** A valid template is compiled
for both targets, with any options. In every scope whose content was compiled, where the client
describes a tree of elements that a parser leaves in place, with texts and values that hold nothing
a parser drops, the server writes markup, and the document of this markup is hydrated without any
record: the pass is clean, says nothing and leaves the document as it was. -/
theorem hydrate_renderServer {t : Template} (ht : t.validate = .ok ()) (config : PipelineConfig)
    {scope : Scope} {contents : String → Option Template} (hs : scope.CompiledFrom contents) :
    ∃ p, Pipeline.compile t config = .ok p ∧
      ∀ nodes, renderClient p.client scope = .ok nodes → AllElementsIn StaysInPlace nodes →
        AllTextsIn IsClean nodes →
        ∃ markup report, p.renderServer scope = .ok markup ∧
          p.hydrate (.parse markup) Document.root scope = .ok (.parse markup, report) ∧
          report.isClean = true ∧ report.records = [] ∧ report.diagnostics.entries = [] ∧
          report.replaced = 0 ∧ report.patched = 0 := by
  obtain ⟨server, client, hserver, hclient, htree, hmarkup⟩ :=
    exists_compile_both ht config.compile hs
  refine ⟨⟨server, client, config.hydration⟩, ?_, fun nodes hnodes hstay hclean => ?_⟩
  · simp only [Pipeline.compile, SlotContent.compile, hserver, hclient]
    rfl
  cases heval : Template.Node.evaluateList (Template.projected scope.data contents)
      (Template.rootNames scope.data) t.nodes with
  | error e =>
      rw [heval] at htree
      rw [htree] at hnodes
      cases hnodes
  | ok raw =>
      rw [heval] at htree hmarkup
      obtain rfl : mergedList raw = nodes := Except.ok.inj (htree.symm.trans hnodes)
      obtain ⟨report, hrun, hrecords, hstate, hentries, hreplaced, hpatched⟩ :=
        hydrateNodes_written config.hydration
          (Template.isWritable_of_staysInPlace ht hs heval hstay) hstay hclean
      refine ⟨VNode.writeList false (filledList (mergedList raw)), report, ?_, ?_, ?_, hrecords,
        hentries, hreplaced, hpatched⟩
      · rw [Pipeline.renderServer, hmarkup]
        rfl
      · rw [Pipeline.hydrate, hydrate_of_renderClient (target_of_compile hclient) hnodes, hrun]
        rfl
      · rw [Report.isClean, hstate]
        rfl

/-! ### A page with content from outside -/

/-- A page with a value that is shown and written as an attribute, an empty text, a place for
content, and text that begins with a line feed. -/
def pageTemplate : Template :=
  ⟨"page", [
    .element "P" [⟨"title", .expression (.identifier "x"), .none⟩]
      [.expression (.identifier "x") .none, .element "br" [] [] .none,
        .element "span" [] [.expression (.identifier "y") .none] .none] .none,
    .element "pre" [] [.text (.literal "\n&") .none] .none,
    .element "x-note" [⟨"hidden", .boolean, .none⟩] [.slot none [] .none] .none]⟩

/-- A value with marks of markup, and content that has some too. -/
def pageScope : Scope :=
  (Scope.ofData (.object [("x", .string "<\"&'>")])).withSlot none markedContent

/-- The nodes that the client expects. -/
def pageNodes : List VNode :=
  [.element "p" (.ofList [("title", "<\"&'>")])
      [.text "<\"&'>", .element "br" .empty [], .element "span" .empty [.text ""]],
    .element "pre" .empty [.text "\n&"],
    .element "x-note" (.ofList [("hidden", "")]) [.text "<b>"]]

/-- The page needs no repair. -/
theorem hydrate_renderServer_page :
    pageTemplate.validate = .ok () ∧
      pageScope.CompiledFrom (fun name => if name = "" then some markedTemplate else none) ∧
      AllElementsIn StaysInPlace pageNodes ∧ AllTextsIn IsClean pageNodes ∧
      ∃ p markup report,
        Pipeline.compile pageTemplate ⟨.standard, .standard⟩ = .ok p ∧
        renderClient p.client pageScope = .ok pageNodes ∧ p.renderServer pageScope = .ok markup ∧
        p.hydrate (.parse markup) Document.root pageScope = .ok (.parse markup, report) ∧
        report.isClean = true ∧ report.records = [] ∧ report.diagnostics.entries = [] ∧
        report.replaced = 0 ∧ report.patched = 0 := by
  have hvalid : pageTemplate.validate = .ok () := by cbv
  have hcompiled : markedContent.CompiledFrom markedTemplate := ⟨.standard, by cbv⟩
  have hscope := (Scope.compiledFrom_ofData (.object [("x", .string "<\"&'>")])).withSlot
    hcompiled none
  obtain ⟨p, hp, hpage⟩ := hydrate_renderServer hvalid ⟨.standard, .standard⟩ hscope
  have hnodes : renderClient p.client pageScope = .ok pageNodes := by
    have hrun : (Pipeline.compile pageTemplate ⟨.standard, .standard⟩).map
        (fun p => renderClient p.client pageScope) = .ok (.ok pageNodes) := by cbv
    rw [hp] at hrun
    exact Except.ok.inj hrun
  have hspan : Markup.IsPhrasing "span" := .span rfl
  have hbreak : Markup.IsPhrasing "br" := .void (by decide)
  have hnote : Markup.IsPhrasing "x-note" := .custom (by decide +kernel)
  have hstay : AllElementsIn StaysInPlace pageNodes :=
    ⟨⟨.paragraph rfl ⟨trivial, ⟨hbreak, trivial⟩, ⟨hspan, trivial, trivial⟩, trivial⟩, trivial,
      ⟨.flow (.phrasing hbreak), trivial⟩, ⟨.flow (.phrasing hspan), trivial, trivial⟩, trivial⟩,
      ⟨.flow (.preformatted rfl), trivial, trivial⟩,
      ⟨.flow (.phrasing hnote), trivial, trivial⟩, trivial⟩
  have hmark : IsClean "<\"&'>" := by decide +kernel
  have hempty : IsClean "" := by decide +kernel
  have hline : IsClean "\n&" := by decide +kernel
  have hcontent : IsClean "<b>" := by decide +kernel
  have hclean : AllTextsIn IsClean pageNodes :=
    ⟨⟨by decide +kernel, hmark, ⟨by decide +kernel, trivial⟩,
        ⟨by decide +kernel, hempty, trivial⟩, trivial⟩,
      ⟨by decide +kernel, hline, trivial⟩, ⟨by decide +kernel, hcontent, trivial⟩, trivial⟩
  obtain ⟨markup, report, hdone⟩ := hpage pageNodes hnodes hstay hclean
  exact ⟨hvalid, hscope, hstay, hclean, p, markup, report, hp, hnodes, hdone⟩

end TwinRender
