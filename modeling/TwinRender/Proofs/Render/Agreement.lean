import TwinRender.Proofs.Lowering.Correctness
import TwinRender.Proofs.Render.Writer

/-!
# The two targets agree

A template is compiled once for the server and once for the client. The runs of both programs show
the same evaluation, so what the server writes is the markup of the tree that the client expects,
byte for byte, with a placeholder for every empty text; and both fail alike.

## Main results

* `Run.Shows.stream_eq`: the markup of a run that shows plain nodes.
* `exists_compile_both`: what the two programs of a template come to.
* `renderToString_compile`: **the server writes the tree of the client**.
-/

namespace TwinRender

open Template (Node Projection rootNames)

/-- The stream of a run is the markup of what the run shows, its empty texts held by
placeholders. -/
theorem Run.Shows.stream_eq {r : Run} {a : Except RenderError (List VNode)} (h : r.Shows a)
    (hplain : ∀ nodes, a = .ok nodes → VNode.ArePlain nodes) :
    streamed Piece.join r.stream =
      a.map fun nodes => VNode.writeList false (VNode.filledList (VNode.mergedList nodes)) := by
  cases a with
  | error e =>
      obtain ⟨hstate, forest, hevents⟩ := h
      obtain ⟨_, _, hall, -⟩ := Writer.exists_writes_listEvents forest .start
      obtain ⟨w, _, pieces, hfeed, -⟩ := Writer.feed_prefix hevents hall
      simp only [Run.stream, hfeed, hstate]
      rfl
  | ok nodes =>
      obtain ⟨hstate, forest, hevents, hforest⟩ := h
      have hforestPlain : VNode.ArePlain forest := by
        rw [← VNode.arePlain_mergedList, hforest, VNode.arePlain_mergedList]
        exact hplain nodes rfl
      obtain ⟨w, text, -, ⟨pieces, hfeed, rfl⟩, htext⟩ :=
        Writer.writes_listEvents forest hforestPlain [] false none
      have hstart : Writer.within [] false none = .start := rfl
      have hjoin : Piece.join (pieces ++ w.finish) =
          VNode.writeList false (VNode.filledList (VNode.mergedList nodes)) := by
        rw [← hforest, Piece.join_append]
        simpa [Writer.written, Writer.content, Writer.lead, Writer.runNodes] using htext
      rw [hstart] at hfeed
      simp only [Run.stream, hevents, hfeed, hstate, streamed, Except.map, hjoin]

/-- What holds of every element of the templates behind the content from outside holds of what the
content comes to. -/
theorem all_projected {q : Template.ElementProperty}
    {p : String → OrderedMap String → List VNode → Prop} (hgives : Template.Gives q p)
    {contents : String → Option Template}
    (hcontents : ∀ slot t, contents slot = some t → t.AllElements q) (data : Value) :
    (Template.projected data contents).All p := by
  intro slot nodes hnodes
  obtain ⟨t, ht, heval⟩ := Option.map_eq_some_iff.mp hnodes
  exact Node.allElementsIn_evaluateList hgives (fun _ _ h => by cases h) t.nodes
    (hcontents slot t ht) heval

/-- No element of a valid template has faults. -/
theorem Template.hasNoFaults_of_validate {t : Template} (hv : t.validate = .ok ()) :
    t.AllElements Node.HasNoFaults :=
  Node.allElementsIn_of_listFaults t.nodes (Template.validate_eq_ok_iff.mp hv)

/-- The content in a scope was compiled from valid templates. -/
theorem Scope.CompiledFrom.validate {scope : Scope} {contents : String → Option Template}
    (hs : scope.CompiledFrom contents) {slot : String} {t : Template}
    (ht : contents slot = some t) : t.validate = .ok () := by
  have hcontent := hs slot
  rw [ht] at hcontent
  cases hslot : scope.slots.get? slot with
  | none => rw [hslot] at hcontent; cases hcontent
  | some content =>
      rw [hslot] at hcontent
      cases hcontent with
      | some hcompiled =>
          obtain ⟨o, ho⟩ := SlotContent.CompiledFrom.program hcompiled .client
          exact validate_of_compile ho

/-- Content that was compiled comes to plain nodes. -/
theorem arePlain_projected {scope : Scope} {contents : String → Option Template}
    (hs : scope.CompiledFrom contents) (data : Value) :
    (Template.projected data contents).ArePlain :=
  all_projected Template.gives_isPlain
    (fun _ _ ht => Template.hasNoFaults_of_validate (hs.validate ht)) data

/-- A valid template is compiled for both targets, and both programs show its evaluation: one
describes the merged tree, and the other one writes it with its empty texts held by
placeholders. -/
theorem exists_compile_both {t : Template} (hv : t.validate = .ok ()) (o : CompileOptions)
    {scope : Scope} {contents : String → Option Template} (hs : scope.CompiledFrom contents) :
    ∃ server client, compile t .server o = .ok server ∧ compile t .client o = .ok client ∧
      renderClient client scope =
        (Node.evaluateList (Template.projected scope.data contents) (rootNames scope.data)
          t.nodes).map VNode.mergedList ∧
      renderToString server scope =
        (Node.evaluateList (Template.projected scope.data contents) (rootNames scope.data)
          t.nodes).map fun nodes =>
            VNode.writeList false (VNode.filledList (VNode.mergedList nodes)) := by
  obtain ⟨server, hserver, hshows⟩ := run_compile_shows hv o hs .server
  obtain ⟨client, hclient, hclientShows⟩ := run_compile_shows hv o hs .client
  refine ⟨server, client, hserver, hclient, hclientShows.tree_eq, hshows.stream_eq ?_⟩
  exact fun nodes h => Node.arePlain_evaluateList (arePlain_projected hs scope.data) t.nodes
    (Template.validate_eq_ok_iff.mp hv) h

/-- **The two targets agree.** A valid template is compiled for both targets, with any options. In
every scope whose content was compiled, the server program fails as the client program fails, or
writes the nodes that the client program describes, one behind the other, with a placeholder in
each empty text. -/
theorem renderToString_compile {t : Template} (hv : t.validate = .ok ()) (o : CompileOptions)
    {scope : Scope} {contents : String → Option Template} (hs : scope.CompiledFrom contents) :
    ∃ server client, compile t .server o = .ok server ∧ compile t .client o = .ok client ∧
      renderToString server scope = (renderClient client scope).map fun nodes =>
        String.join (nodes.map fun n => n.filled.markup) := by
  obtain ⟨server, hserver, hshows⟩ := run_compile_shows hv o hs .server
  obtain ⟨client, hclient, hclientShows⟩ := run_compile_shows hv o hs .client
  refine ⟨server, client, hserver, hclient, ?_⟩
  have hplain (nodes : List VNode) (h : Node.evaluateList (Template.projected scope.data contents)
      (rootNames scope.data) t.nodes = .ok nodes) : VNode.ArePlain nodes :=
    Node.arePlain_evaluateList (arePlain_projected hs scope.data) t.nodes
      (Template.validate_eq_ok_iff.mp hv) h
  rw [renderToString, stream, hshows.stream_eq hplain, renderClient, hclientShows.tree_eq]
  cases Node.evaluateList (Template.projected scope.data contents) (rootNames scope.data)
      t.nodes with
  | error e => rfl
  | ok nodes =>
      simp only [Except.map, VNode.writeList_false, VNode.filledList_eq_map, List.map_map]
      rfl

/-- The two targets agree on a list whose items have a slot. -/
theorem renderToString_compile_list :
    listTemplate.validate = .ok () ∧ listScope.CompiledFrom listContents ∧
      ∃ server client, compile listTemplate .server .standard = .ok server ∧
        compile listTemplate .client .standard = .ok client ∧
        renderToString server listScope = (renderClient client listScope).map fun nodes =>
          String.join (nodes.map fun n => n.filled.markup) :=
  ⟨validate_listTemplate, compiledFrom_listScope,
    renderToString_compile validate_listTemplate .standard compiledFrom_listScope⟩

end TwinRender
