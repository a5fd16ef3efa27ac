import TwinRender.Proofs.Render.Agreement
import TwinRender.Proofs.Template.Scoping

/-!
# A render sees what its templates name

The programs of a template look up names at run time, in the frames of the loops around an
instruction and then in the data. They agree with the scopes of the template: only names that are
free in the template, or in the content of its slots, are looked up in the data, and what a loop
binds is seen by nothing outside of its body.

## Main results

* `renders_of_compile`: what compiled programs come to.
* `renders_see_free_names`: **a render sees only the data that its templates name**.
-/

namespace TwinRender

open Template (Node mapError_map projected rootNames)

variable {t : Template} {scope scope' : Scope} {contents contents' : String → Option Template}

/-- What the programs of a template come to, in a scope whose content was compiled. -/
theorem renders_of_compile {server client : Program} {o : CompileOptions}
    (hserver : compile t .server o = .ok server) (hclient : compile t .client o = .ok client)
    (hs : scope.CompiledFrom contents) :
    renderClient client scope =
        (Node.evaluateList (projected scope.data contents) (rootNames scope.data) t.nodes).map
          VNode.mergedList ∧
      renderToString server scope =
        (Node.evaluateList (projected scope.data contents) (rootNames scope.data) t.nodes).map
          fun nodes => VNode.writeList false (VNode.filledList (VNode.mergedList nodes)) := by
  obtain ⟨server', client', hserver', hclient', hrenders⟩ :=
    exists_compile_both (validate_of_compile hserver) o hs
  rw [hserver, Except.ok.injEq] at hserver'
  rw [hclient, Except.ok.injEq] at hclient'
  rw [hserver', hclient']
  exact hrenders

/-- The content of a scope was compiled whatever its data are. -/
theorem Scope.CompiledFrom.of_slots_eq (hs : scope.CompiledFrom contents)
    (h : scope'.slots = scope.slots) : scope'.CompiledFrom contents := fun name => by
  rw [h]
  exact hs name

namespace Template

/-- Projected content comes to the same with data that have the same members under the names that
are free in it. -/
theorem projected_congr {data data' : Value} (h : ∀ slot content, contents slot = some content →
      ∀ name ∈ content.freeNames, rootNames data name = rootNames data' name) (slot : String) :
    projected data contents slot = projected data' contents slot := by
  rw [projected, projected]
  cases hc : contents slot with
  | none => rfl
  | some content =>
      exact congrArg some (Node.evaluateList_congr (h slot content hc) fun _ => rfl)

/-- A template comes to the same with data that agree on what the template and its content see. -/
theorem evaluateList_projected_congr {data data' : Value}
    (h : ∀ name, t.Sees contents name → rootNames data name = rootNames data' name) :
    Node.evaluateList (projected data contents) (rootNames data) t.nodes =
      Node.evaluateList (projected data' contents) (rootNames data') t.nodes :=
  Node.evaluateList_congr (fun name hname => h name (.inl hname)) <|
    projected_congr fun slot content hc name hname => h name (.inr ⟨slot, content, hc, hname⟩)

/-- Projected content comes to the same with other names in its loops. -/
theorem projected_renamed (h : ∀ slot, Option.Rel Renamed (contents slot) (contents' slot))
    (data : Value) (slot : String) :
    (projected data contents slot).map (Except.mapError RenderError.anonymous) =
      (projected data contents' slot).map (Except.mapError RenderError.anonymous) := by
  have hslot := h slot
  rw [projected, projected]
  generalize contents slot = content, contents' slot = content' at hslot ⊢
  cases hslot with
  | none => rfl
  | some hrenamed => exact congrArg some (hrenamed.evaluate_eq (fun _ => rfl) (rootNames data))

end Template

/-- **A render sees only the data that its templates name.** A valid template is compiled for both
targets. In two scopes with the same content, whose data have the same members under the names
that are free in the template or in the content, both programs give the same output, or fail
alike. And what a loop binds is seen in its body alone: if the loops of the template and of the
content bind other names, with which only the expressions in their bodies are written, the programs
give the same output, or fail alike up to the text of a collection. -/
theorem renders_see_free_names (hv : t.validate = .ok ()) (o : CompileOptions)
    (hs : scope.CompiledFrom contents) :
    ∃ server client, compile t .server o = .ok server ∧ compile t .client o = .ok client ∧
      (∀ scope', scope'.slots = scope.slots →
        (∀ name, t.Sees contents name →
          rootNames scope'.data name = rootNames scope.data name) →
        renderToString server scope' = renderToString server scope ∧
          renderClient client scope' = renderClient client scope) ∧
      ∀ t' o' server' client' scope' contents', t.Renamed t' →
        (∀ slot, Option.Rel Template.Renamed (contents slot) (contents' slot)) →
        scope'.CompiledFrom contents' → scope'.data = scope.data →
        compile t' .server o' = .ok server' → compile t' .client o' = .ok client' →
        (renderToString server' scope').mapError RenderError.anonymous =
            (renderToString server scope).mapError RenderError.anonymous ∧
          (renderClient client' scope').mapError RenderError.anonymous =
            (renderClient client scope).mapError RenderError.anonymous := by
  obtain ⟨server, client, hserver, hclient, -⟩ := exists_compile_both hv o hs
  obtain ⟨htree, hmarkup⟩ := renders_of_compile hserver hclient hs
  refine ⟨server, client, hserver, hclient, fun scope' hslots hdata => ?_, ?_⟩
  · obtain ⟨htree', hmarkup'⟩ := renders_of_compile hserver hclient (hs.of_slots_eq hslots)
    rw [htree, hmarkup, htree', hmarkup', Template.evaluateList_projected_congr hdata]
    exact ⟨rfl, rfl⟩
  · intro t' o' server' client' scope' contents' ht hcontents hs' hdata hserver' hclient'
    obtain ⟨htree', hmarkup'⟩ := renders_of_compile hserver' hclient' hs'
    have heval := ht.evaluate_eq (Template.projected_renamed hcontents scope.data)
      (rootNames scope.data)
    rw [htree, hmarkup, htree', hmarkup', hdata, mapError_map, mapError_map, mapError_map,
      mapError_map, heval]
    exact ⟨rfl, rfl⟩

/-! ### A list that calls its items otherwise -/

/-- The list with another name for its items. -/
def entryTemplate : Template :=
  ⟨"list", [.each (.identifier "items") "entry" none
    [.element "LI" [⟨"class", .literal "a", .none⟩]
      [.expression (.identifier "entry") .none, .slot none [] .none] .none] .none]⟩

/-- The data of the list with one more member, which nothing shows. -/
def unseenScope : Scope :=
  { listScope with
    data := .object [("items", .array [.string "x", .null]), ("unseen", .bool true)] }

/-- The list and its content see its items, and a name that the content does not get from the
list. -/
theorem sees_listTemplate {name : String} (h : listTemplate.Sees listContents name) :
    name = "items" ∨ name = "item" := by
  obtain hname | ⟨slot, content, hc, hname⟩ := h
  · have hfree : listTemplate.freeNames = ["items"] := by decide +kernel
    rw [hfree] at hname
    exact .inl (List.mem_singleton.mp hname)
  · rw [listContents] at hc
    split at hc
    · obtain rfl := Option.some.inj hc
      have hfree : footTemplate.freeNames = ["item"] := by decide +kernel
      rw [hfree] at hname
      exact .inr (List.mem_singleton.mp hname)
    · cases hc

/-- The list is renamed in the body of its loop. -/
theorem renamed_listTemplate : listTemplate.Renamed entryTemplate := by
  refine .cons (.each (.identifier (.free "items")) trivial ?_) .nil
  refine .cons (.element (.cons ⟨rfl, .same _ nofun, rfl⟩ .nil) ?_) .nil
  exact .cons (.expression (.identifier (.item ⟨"item", none⟩ ⟨"entry", none⟩)))
    (.cons (.slot .nil) .nil)

/-- The content of the list binds no names. -/
theorem renamed_listContents (slot : String) :
    Option.Rel Template.Renamed (listContents slot) (listContents slot) := by
  rw [listContents]
  split
  · exact .some (.cons (.expression (.identifier (.free "item"))) .nil)
  · exact .none

/-- The list shows the same with a member that it does not see, and with another name for its
items. -/
theorem renders_see_free_names_list :
    listTemplate.validate = .ok () ∧ listScope.CompiledFrom listContents ∧
      ∃ server client server' client', compile listTemplate .server .standard = .ok server ∧
        compile listTemplate .client .standard = .ok client ∧
        compile entryTemplate .server .standard = .ok server' ∧
        compile entryTemplate .client .standard = .ok client' ∧
        renderToString server unseenScope = renderToString server listScope ∧
        renderClient client unseenScope = renderClient client listScope ∧
        (renderToString server' listScope).mapError RenderError.anonymous =
          (renderToString server listScope).mapError RenderError.anonymous ∧
        (renderClient client' listScope).mapError RenderError.anonymous =
          (renderClient client listScope).mapError RenderError.anonymous := by
  obtain ⟨server, client, hserver, hclient, hdata, hnames⟩ :=
    renders_see_free_names validate_listTemplate .standard compiledFrom_listScope
  have hvalid : entryTemplate.validate = .ok () := by cbv
  obtain ⟨server', client', hserver', hclient', -⟩ :=
    exists_compile_both hvalid .standard compiledFrom_listScope
  have hunseen (name : String) (h : listTemplate.Sees listContents name) :
      rootNames unseenScope.data name = rootNames listScope.data name := by
    obtain rfl | rfl := sees_listTemplate h <;> cbv
  obtain ⟨hmarkup, htree⟩ := hdata unseenScope rfl hunseen
  obtain ⟨hmarkup', htree'⟩ := hnames _ _ _ _ listScope _ renamed_listTemplate renamed_listContents
    compiledFrom_listScope rfl hserver' hclient'
  exact ⟨validate_listTemplate, compiledFrom_listScope, server, client, server', client', hserver,
    hclient, hserver', hclient', hmarkup, htree, hmarkup', htree'⟩

end TwinRender
