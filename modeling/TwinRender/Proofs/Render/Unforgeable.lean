import TwinRender.Proofs.Markup.Reading
import TwinRender.Proofs.Render.Agreement

/-!
# Markup that data cannot forge

Where a template has no raw text, what the server writes determines the tree that the client
expects: two templates with two scopes write the same only if they stand for the same tree. So no
text and no value in the data makes the server write an element or an attribute that the template
does not have there. Only an empty text and one of placeholders are written alike, and they are
compared as the same text.

## Main definitions

* `VNode.canonicalList`: trees with their texts as they are compared.
* `Template.HasNoRawText`: a template whose texts are all escaped.

## Main results

* `VNode.canonicalList_eq_of_writeList`: equal markup, equal trees.
* `renderToString_determines`: **what the server writes determines what the client expects**.
-/

namespace TwinRender

open Template (Node rootNames)

namespace VNode

/-! ### Texts as they are compared -/

mutual

/-- A tree with its texts as they are compared. -/
def canonical : VNode → VNode
  | .element tag attributes children => .element tag attributes (canonicalList children)
  | .text s => .text (canonicalText s)

/-- Trees with their texts as they are compared. -/
def canonicalList : List VNode → List VNode
  | [] => []
  | n :: ns => n.canonical :: canonicalList ns

end

/-- A placeholder is compared as the empty text that it holds. -/
theorem canonicalText_placeholder (s : String) :
    canonicalText (if s.isEmpty then String.singleton placeholder else s) = canonicalText s := by
  split
  · next hs =>
    rw [String.isEmpty_iff] at hs
    rw [hs]
    decide +kernel
  · rfl

mutual

/-- Placeholders are not seen when a tree is compared. -/
theorem canonical_filled (n : VNode) : n.filled.canonical = n.canonical := by
  cases n with
  | text s => rw [filled, canonical, canonical, canonicalText_placeholder]
  | element tag attributes children =>
      rw [filled, canonical, canonical, canonicalList_filledList children]

/-- Placeholders are not seen when trees are compared. -/
theorem canonicalList_filledList (ns : List VNode) :
    canonicalList (filledList ns) = canonicalList ns := by
  cases ns with
  | nil => rfl
  | cons n ns =>
      rw [filledList, canonicalList, canonicalList, canonical_filled n,
        canonicalList_filledList ns]

end

/-- **Equal markup, equal trees**, up to what is not compared in texts. -/
theorem canonicalList_eq_of_writeList {ms ns : List VNode} (hms : AllElementsIn IsWritable ms)
    (hns : AllElementsIn IsWritable ns)
    (h : writeList false (filledList (mergedList ms)) =
      writeList false (filledList (mergedList ns))) :
    canonicalList (mergedList ms) = canonicalList (mergedList ns) := by
  obtain ⟨hread, hseparated⟩ := isReadable_filledList hms
  obtain ⟨hread', hseparated'⟩ := isReadable_filledList hns
  obtain ⟨hequal, -⟩ := writeList_inj _ _ hread hread' hseparated hseparated'
    (show Markup.beginning [] = .nothing from rfl) (show Markup.beginning [] = .nothing from rfl)
    (by rw [h])
  rw [← canonicalList_filledList, hequal, canonicalList_filledList]

end VNode

namespace Template

/-- The texts of a template are all escaped: no element, also in the fallbacks of slots, has raw
text. -/
def HasNoRawText (t : Template) : Prop :=
  t.AllElements fun tag _ _ _ => Html.isRawText tag = false

/-- Elements with escaped text are evaluated to such elements. -/
theorem gives_escaped :
    Gives (fun tag _ _ _ => Html.isRawText tag = false) fun tag _ _ => Html.isRawText tag = false :=
  fun tag _ _ _ h _ _ _ => (Html.isRawText_toLower tag).trans h

/-- The tree of a valid template can be read back from its markup if its texts are all escaped. -/
theorem isWritable_of_escaped {t : Template} (hv : t.validate = .ok ()) {scope : Scope}
    {contents : String → Option Template} (hs : scope.CompiledFrom contents) {nodes : List VNode}
    (h : Node.evaluateList (Template.projected scope.data contents) (rootNames scope.data)
      t.nodes = .ok nodes)
    (hescaped : VNode.AllElementsIn (fun tag _ _ => Html.isRawText tag = false) nodes) :
    VNode.AllElementsIn VNode.IsWritable nodes := by
  have hfaults := Template.hasNoFaults_of_validate hv
  have hvalid (slot : String) (content : Template) (hc : contents slot = some content) :
      content.AllElements Node.HasNoFaults := hasNoFaults_of_validate (hs.validate hc)
  have hplain := Node.allElementsIn_evaluateList gives_isPlain
    (all_projected gives_isPlain hvalid scope.data) t.nodes hfaults h
  have hnames := Node.allElementsIn_evaluateList gives_hasValidNames
    (all_projected gives_hasValidNames hvalid scope.data) t.nodes hfaults h
  exact VNode.AllElementsIn.imp (fun _ _ _ h => ⟨h.1.names, h.1.void, h.2.1, h.2.2⟩) _
    (hplain.and _ (hnames.and _ hescaped))

/-- The tree of a valid template without raw text can be read back from its markup. -/
theorem isWritable_of_evaluateList {t : Template} (hv : t.validate = .ok ())
    (hraw : t.HasNoRawText) {scope : Scope} {contents : String → Option Template}
    (hs : scope.CompiledFrom contents)
    (hcontents : ∀ slot content, contents slot = some content → content.HasNoRawText)
    {nodes : List VNode} (h : Node.evaluateList (Template.projected scope.data contents)
      (rootNames scope.data) t.nodes = .ok nodes) :
    VNode.AllElementsIn VNode.IsWritable nodes :=
  isWritable_of_escaped hv hs h (Node.allElementsIn_evaluateList gives_escaped
    (all_projected gives_escaped hcontents scope.data) t.nodes hraw h)

end Template

/-- **What the server writes determines what the client expects.** Two valid templates without raw
text are compiled, each with its options, and run in two scopes whose content has no raw text
either. If the server programs write the same, the client programs describe the same nodes, with
the same tags and attributes in the same order, and texts that are compared as the same. -/
theorem renderToString_determines {t u : Template} (ht : t.validate = .ok ())
    (hu : u.validate = .ok ()) (hraw : t.HasNoRawText) (hraw' : u.HasNoRawText)
    (o o' : CompileOptions) {scope scope' : Scope} {contents contents' : String → Option Template}
    (hs : scope.CompiledFrom contents) (hs' : scope'.CompiledFrom contents')
    (hcontents : ∀ slot content, contents slot = some content → content.HasNoRawText)
    (hcontents' : ∀ slot content, contents' slot = some content → content.HasNoRawText) :
    ∃ server client server' client',
      compile t .server o = .ok server ∧ compile t .client o = .ok client ∧
      compile u .server o' = .ok server' ∧ compile u .client o' = .ok client' ∧
      ∀ markup, renderToString server scope = .ok markup →
        renderToString server' scope' = .ok markup →
        ∃ nodes nodes', renderClient client scope = .ok nodes ∧
          renderClient client' scope' = .ok nodes' ∧
          VNode.canonicalList nodes = VNode.canonicalList nodes' := by
  obtain ⟨server, client, hserver, hclient, htree, hmarkup⟩ := exists_compile_both ht o hs
  obtain ⟨server', client', hserver', hclient', htree', hmarkup'⟩ := exists_compile_both hu o' hs'
  refine ⟨server, client, server', client', hserver, hclient, hserver', hclient',
    fun markup h h' => ?_⟩
  rw [hmarkup] at h
  rw [hmarkup'] at h'
  cases heval : Node.evaluateList (Template.projected scope.data contents)
      (rootNames scope.data) t.nodes with
  | error e => rw [heval] at h; cases h
  | ok nodes =>
      cases heval' : Node.evaluateList (Template.projected scope'.data contents')
          (rootNames scope'.data) u.nodes with
      | error e => rw [heval'] at h'; cases h'
      | ok nodes' =>
          rw [heval] at h htree
          rw [heval'] at h' htree'
          refine ⟨_, _, htree, htree', ?_⟩
          exact VNode.canonicalList_eq_of_writeList
            (Template.isWritable_of_evaluateList ht hraw hs hcontents heval)
            (Template.isWritable_of_evaluateList hu hraw' hs' hcontents' heval')
            (Except.ok.inj (h.trans h'.symm))

/-! ### One paragraph from two sources -/

/-- A paragraph that shows a value. -/
def shownTemplate : Template :=
  ⟨"shown", [.element "p" [] [.expression (.identifier "x") .none] .none]⟩

/-- A paragraph with a slot. -/
def slottedTemplate : Template := ⟨"slotted", [.element "P" [] [.slot none [] .none] .none]⟩

/-- Content with marks of markup in its text. -/
def markedTemplate : Template := ⟨"marked", [.text (.literal "<b>") .none]⟩

/-- The content, compiled. -/
def markedContent : SlotContent :=
  ⟨⟨"marked", .server, [.bufferText (.fixed "<b>"), .yieldText], [.escape]⟩,
    ⟨"marked", .client, [.bufferText (.fixed "<b>"), .yieldText], []⟩⟩

/-- The same text in the data and in the content of a slot is written alike, and both trees are the
same. -/
theorem renderToString_determines_escaped :
    shownTemplate.validate = .ok () ∧ slottedTemplate.validate = .ok () ∧
      ∃ server client server' client' nodes nodes',
        compile shownTemplate .server .standard = .ok server ∧
        compile shownTemplate .client .standard = .ok client ∧
        compile slottedTemplate .server .standard = .ok server' ∧
        compile slottedTemplate .client .standard = .ok client' ∧
        renderToString server (.ofData (.object [("x", .string "<b>")])) =
          .ok "<p>&lt;b&gt;</p>" ∧
        renderToString server' ((Scope.ofData .null).withSlot none markedContent) =
          .ok "<p>&lt;b&gt;</p>" ∧
        renderClient client (.ofData (.object [("x", .string "<b>")])) = .ok nodes ∧
        renderClient client' ((Scope.ofData .null).withSlot none markedContent) = .ok nodes' ∧
        VNode.canonicalList nodes = VNode.canonicalList nodes' := by
  have hshown : shownTemplate.validate = .ok () := by cbv
  have hslotted : slottedTemplate.validate = .ok () := by cbv
  have hescaped : Html.isRawText "p" = false ∧ Html.isRawText "P" = false := by decide +kernel
  have hcompiled : markedContent.CompiledFrom markedTemplate := ⟨.standard, by cbv⟩
  have hcontents (slot : String) (content : Template)
      (h : (if slot = "" then some markedTemplate else none) = some content) :
      content.HasNoRawText := by
    split at h
    · cases h
      exact ⟨trivial, trivial⟩
    · cases h
  obtain ⟨server, client, server', client', hserver, hclient, hserver', hclient', hsame⟩ :=
    renderToString_determines hshown hslotted ⟨⟨hescaped.1, trivial, trivial⟩, trivial⟩
      ⟨⟨hescaped.2, trivial, trivial⟩, trivial⟩ .standard .standard
      (Scope.compiledFrom_ofData (.object [("x", .string "<b>")]))
      ((Scope.compiledFrom_ofData .null).withSlot hcompiled none)
      (fun _ _ h => by cases h) hcontents
  have hmarkup : renderToString server (.ofData (.object [("x", .string "<b>")])) =
      .ok "<p>&lt;b&gt;</p>" := by
    have hrun : (compile shownTemplate .server .standard).map (fun p =>
        renderToString p (.ofData (.object [("x", .string "<b>")]))) =
          .ok (.ok "<p>&lt;b&gt;</p>") := by cbv
    rw [hserver] at hrun
    exact Except.ok.inj hrun
  have hmarkup' : renderToString server' ((Scope.ofData .null).withSlot none markedContent) =
      .ok "<p>&lt;b&gt;</p>" := by
    have hrun : (compile slottedTemplate .server .standard).map (fun p =>
        renderToString p ((Scope.ofData .null).withSlot none markedContent)) =
          .ok (.ok "<p>&lt;b&gt;</p>") := by cbv
    rw [hserver'] at hrun
    exact Except.ok.inj hrun
  obtain ⟨nodes, nodes', hnodes, hnodes', hequal⟩ := hsame _ hmarkup hmarkup'
  exact ⟨hshown, hslotted, server, client, server', client', nodes, nodes', hserver, hclient,
    hserver', hclient', hmarkup, hmarkup', hnodes, hnodes', hequal⟩

end TwinRender
