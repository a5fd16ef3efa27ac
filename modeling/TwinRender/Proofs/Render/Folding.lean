import TwinRender.Proofs.Render.Scoping

/-!
# Folding agrees with the run

A literal in a template is folded: an attribute gets its canonical value, or no instruction, when
the template is compiled. A name is looked up, and its value is made canonical, when the program is
run. Both ways come to the same: literals may be moved out of a template into the data.

## Main definitions

* `Template.Likeness.lifting`: a template and another one in which names stand for literals.
* `Template.Lifted`: names stand for literals anywhere in a template.

## Main results

* `Template.Lifted.evaluate_eq`: a template comes to the same with names that have the values of its
  literals.
* `renders_lifted`: **folding agrees with evaluation at run time**.
-/

namespace TwinRender

open Template (Node rootNames projected)

namespace Template

/-! ### Names for literals -/

/-- Names may stand for literals where no loop binds them; collections stay. -/
def Likeness.lifting (stands : String → Literal → Prop) : Likeness where
  expression around e e' := e = e' ∨ ∃ l name, e = .literal l ∧ e' = .identifier name ∧
    stands name l ∧ ¬ BoundBy around name
  collection _ c c' := c = c'
  loop l l' := l = l'

/-- Names stand for literals at some places of a template: in attributes and texts, as expressions
that are shown, and in conditions. -/
def Lifted (stands : String → Literal → Prop) (t t' : Template) : Prop :=
  Node.AlikeList (.lifting stands) [] t.nodes t'.nodes

variable {stands : String → Literal → Prop} {t t' : Template}

/-- Names that have the values of the literals for which they stand may replace them. -/
theorem Likeness.isFaithful_lifting {outer : String → Value}
    (h : ∀ name l, stands name l → outer name = l.value) :
    (Likeness.lifting stands).IsFaithful id outer outer where
  expression := by
    intro around names names' e e' hnames he
    have hsame : names = names' := hnames.eq_of_loops fun _ _ hloop => hloop
    subst hsame
    obtain rfl | ⟨l, name, rfl, rfl, hstands, hbound⟩ := he
    · rfl
    · calc Expression.eval names (.literal l) = l.value := rfl
        _ = outer name := (h name l hstands).symm
        _ = names name := (hnames.eq_outer hbound).symm
  collection := by
    rintro around names names' c _ hnames rfl
    rw [hnames.eq_of_loops fun _ _ hloop => hloop]
  message := by
    rintro around c _ rfl kind
    rfl

/-- **A template comes to the same with names that have the values of its literals.** -/
theorem Lifted.evaluate_eq (ht : t.Lifted stands t') {names : String → Value}
    (h : ∀ name l, stands name l → names name = l.value) (contents : Projection) :
    Node.evaluateList contents names t.nodes = Node.evaluateList contents names t'.nodes := by
  have hsame (slot : String) : (contents slot).map (Except.mapError id) =
      (contents slot).map (Except.mapError id) := rfl
  have heval := Node.AlikeList.evaluate_eq (Likeness.isFaithful_lifting h) hsame .outside ht
  simpa only [mapError_id] using heval

/-- A template with names for its literals is as valid as the template. -/
theorem Lifted.validate_eq (ht : t.Lifted stands t') : t.validate = t'.validate := by
  rw [validate, validate, faults, faults, Node.AlikeList.faults_eq (fun _ _ h => h) ht]

end Template

/-! ### Renders -/

variable {t t' : Template} {scope : Scope} {contents : String → Option Template}
  {stands : String → Literal → Prop}

/-- **Folding agrees with evaluation at run time.** In a valid template, names that no loop around
them binds are put in the place of any literals that are shown, given to attributes, or decide
between branches. Both templates are compiled for both targets. In a scope with the same content,
whose data have the values of the literals under these names and the same members under all names
that the template and its content see, the programs give the same output as before, or the same
error. -/
theorem renders_lifted (hv : t.validate = .ok ()) (o : CompileOptions)
    (hs : scope.CompiledFrom contents) (ht : t.Lifted stands t') :
    ∃ server client server' client',
      compile t .server o = .ok server ∧ compile t .client o = .ok client ∧
      compile t' .server o = .ok server' ∧ compile t' .client o = .ok client' ∧
      ∀ scope', scope'.slots = scope.slots →
        (∀ name l, stands name l → scope'.data.field? name = some l.value) →
        (∀ name, t.Sees contents name →
          rootNames scope'.data name = rootNames scope.data name) →
        renderToString server' scope' = renderToString server scope ∧
          renderClient client' scope' = renderClient client scope := by
  have hv' : t'.validate = .ok () := ht.validate_eq.symm.trans hv
  obtain ⟨server, client, hserver, hclient, -⟩ := exists_compile_both hv o hs
  obtain ⟨server', client', hserver', hclient', -⟩ := exists_compile_both hv' o hs
  refine ⟨server, client, server', client', hserver, hclient, hserver', hclient', ?_⟩
  intro scope' hslots hstands hdata
  obtain ⟨htree, hmarkup⟩ := renders_of_compile hserver hclient hs
  obtain ⟨htree', hmarkup'⟩ := renders_of_compile hserver' hclient' (hs.of_slots_eq hslots)
  have hvalues (name : String) (l : Literal) (h : stands name l) :
      rootNames scope'.data name = l.value := by
    rw [rootNames, hstands name l h, Option.getD_some]
  have heval := calc
    Node.evaluateList (projected scope'.data contents) (rootNames scope'.data) t'.nodes
      = Node.evaluateList (projected scope'.data contents) (rootNames scope'.data) t.nodes :=
        (ht.evaluate_eq hvalues _).symm
    _ = Node.evaluateList (projected scope.data contents) (rootNames scope.data) t.nodes :=
        Template.evaluateList_projected_congr hdata
  rw [htree, hmarkup, htree', hmarkup', heval]
  exact ⟨rfl, rfl⟩

/-! ### Labels -/

/-- A label for each item, with literals in each kind of place. -/
def labelTemplate : Template :=
  ⟨"labels", [.each (.identifier "items") "item" none
    [.element "p" [⟨"class", .expression (.literal (.string " b  a")), .none⟩,
        ⟨"hidden", .expression (.literal (.bool false)), .none⟩]
      [.text (.expression (.literal (.number (.int 3)))) .none,
        .chain [(some (.literal .null), []), (none, [.expression (.identifier "item") .none])]
          .none] .none] .none]⟩

/-- The labels with names for their literals. -/
def namedLabelTemplate : Template :=
  ⟨"labels", [.each (.identifier "items") "item" none
    [.element "p" [⟨"class", .expression (.identifier "tone"), .none⟩,
        ⟨"hidden", .expression (.identifier "off"), .none⟩]
      [.text (.expression (.identifier "size")) .none,
        .chain [(some (.identifier "never"), []), (none, [.expression (.identifier "item") .none])]
          .none] .none] .none]⟩

/-- The names and the literals for which they stand. -/
def labelNames : List (String × Literal) :=
  [("tone", .string " b  a"), ("off", .bool false), ("size", .number (.int 3)), ("never", .null)]

/-- One item. -/
def labelScope : Scope := .ofData (.object [("items", .array [.string "x"])])

/-- One item, and the values of the literals. -/
def namedLabelScope : Scope :=
  .ofData (.object [("items", .array [.string "x"]), ("never", .null), ("off", .bool false),
    ("size", .number (.int 3)), ("tone", .string " b  a")])

/-- Names stand for the literals of the labels. -/
theorem lifted_labelTemplate :
    labelTemplate.Lifted (fun name l => (name, l) ∈ labelNames) namedLabelTemplate := by
  have hlift {e e' : Expression} (l : Literal) (name : String) (he : e = .literal l)
      (he' : e' = .identifier name) (hmem : (name, l) ∈ labelNames) (hname : name ≠ "item") :
      (Template.Likeness.lifting fun name l => (name, l) ∈ labelNames).expression
        [(⟨"item", none⟩, ⟨"item", none⟩)] e e' := by
    refine .inr ⟨l, name, he, he', hmem, ?_⟩
    simpa [Template.BoundBy, Template.Loop.Binds] using hname
  refine .cons (.each rfl rfl (.cons (.element ?_ (.cons ?_ (.cons ?_ .nil))) .nil)) .nil
  · refine .cons ⟨rfl, .expression ?_, rfl⟩ (.cons ⟨rfl, .expression ?_, rfl⟩ .nil)
    · exact hlift (.string " b  a") "tone" rfl rfl (by decide) (by decide)
    · exact hlift (.bool false) "off" rfl rfl (by decide) (by decide)
  · exact .text (.expression (hlift (.number (.int 3)) "size" rfl rfl (by decide) (by decide)))
  · refine .chain (.cons (.some ?_) .nil (.cons .none (.cons (.expression (.inl rfl)) .nil) .nil))
    exact hlift .null "never" rfl rfl (by decide) (by decide)

/-- The labels show the same when their literals are values in the data. -/
theorem renders_lifted_labels :
    labelTemplate.validate = .ok () ∧ labelScope.CompiledFrom (fun _ => none) ∧
      labelTemplate.Lifted (fun name l => (name, l) ∈ labelNames) namedLabelTemplate ∧
      ∃ server client server' client',
        compile labelTemplate .server .standard = .ok server ∧
        compile labelTemplate .client .standard = .ok client ∧
        compile namedLabelTemplate .server .standard = .ok server' ∧
        compile namedLabelTemplate .client .standard = .ok client' ∧
        renderToString server' namedLabelScope = renderToString server labelScope ∧
        renderClient client' namedLabelScope = renderClient client labelScope := by
  have hvalid : labelTemplate.validate = .ok () := by cbv
  have hcompiled : labelScope.CompiledFrom fun _ => none := Scope.compiledFrom_ofData _
  obtain ⟨server, client, server', client', hserver, hclient, hserver', hclient', hrenders⟩ :=
    renders_lifted hvalid .standard hcompiled lifted_labelTemplate
  have hstands (name : String) (l : Literal) (h : (name, l) ∈ labelNames) :
      namedLabelScope.data.field? name = some l.value := by
    simp only [labelNames, List.mem_cons, List.not_mem_nil, or_false, Prod.mk.injEq] at h
    obtain ⟨rfl, rfl⟩ | ⟨rfl, rfl⟩ | ⟨rfl, rfl⟩ | ⟨rfl, rfl⟩ := h <;> cbv
  have hdata (name : String) (h : labelTemplate.Sees (fun _ => none) name) :
      rootNames namedLabelScope.data name = rootNames labelScope.data name := by
    obtain hname | ⟨_, _, hc, -⟩ := h
    · have hfree : labelTemplate.freeNames = ["items"] := by decide +kernel
      rw [hfree] at hname
      obtain rfl := List.mem_singleton.mp hname
      cbv
    · cases hc
  obtain ⟨hmarkup, htree⟩ := hrenders namedLabelScope rfl hstands hdata
  exact ⟨hvalid, hcompiled, lifted_labelTemplate, server, client, server', client', hserver,
    hclient, hserver', hclient', hmarkup, htree⟩

end TwinRender
