import TwinRender.Pipeline
import TwinRender.Proofs.Lowering.Computes
import TwinRender.Proofs.Template.Plain

/-!
# Compiled templates show what templates stand for

The compiler turns a tree into a flat program whose bodies are given by their lengths, folds what
the template fixes, and gives texts out at the ends of their runs. Whatever it lowers computes the
evaluation of the node it was lowered from; so a compiled program describes the tree of its
template, in every scope whose content was compiled from templates.

## Main results

* `lowerNodes_computes`: lowered nodes compute their evaluation.
* `compile_shows`: a template without faults is compiled, and every run shows its evaluation.
* `renderClient_compile`: **the tree of a compiled template is the tree of the template.**
-/

namespace TwinRender

open Step (ofInstructions)
open Template (Node Projection TextValue AttributeValue bindLoop rootNames)

/-! ### Attributes and texts -/

/-- The source of an attribute has the canonical value that the attribute is given. -/
theorem attributeSource_bind_value {env : Environment} {contents : Projection}
    {names : String → Value} (henv : env.Represents contents names) (a : Template.Attribute) :
    ((attributeSource a.name.toLower a.value).bind fun source =>
      source.value env a.name.toLower) = canonicalAttribute a.name.toLower (a.given names) := by
  obtain ⟨name, value, location⟩ := a
  cases value with
  | literal raw =>
      simp only [attributeSource, Template.Attribute.given]
      cases canonicalAttribute name.toLower (some raw) <;> rfl
  | boolean =>
      simp only [attributeSource, Template.Attribute.given, canonicalAttribute_empty]
      split <;> rfl
  | expression e =>
      cases e with
      | literal l =>
          simp only [attributeSource, Template.Attribute.given, Expression.eval]
          cases canonicalAttribute name.toLower (attributeOfValue name.toLower l.value) <;> rfl
      | identifier other =>
          simp only [attributeSource, Template.Attribute.given, Option.bind_some,
            AttributeSource.value, henv.eval_eq]
      | member object property =>
          simp only [attributeSource, Template.Attribute.given, Option.bind_some,
            AttributeSource.value, henv.eval_eq]

/-- The instructions of an attribute: none if it is known to be absent. -/
theorem instructions_lowerAttribute (c : Context) (a : Template.Attribute) :
    (lowerAttribute c a).instructions =
      ((attributeSource a.name.toLower a.value).map fun source =>
        if Text.sameIgnoringCase a.name "style" then .setStyle source
        else .setAttribute a.name.toLower source).toList := by
  rw [lowerAttribute]
  cases attributeSource a.name.toLower a.value with
  | none => rfl
  | some source => simp only [Option.map_some, Option.toList_some]; rfl

/-- A lowered attribute gives out the attribute. -/
theorem lowerAttribute_attributes (c : Context) (a : Template.Attribute) :
    Computes.Attributes (lowerAttribute c a).instructions fun names =>
      (a.evaluate names).toList := by
  have hvalue {env : Environment} {contents : Projection} {names : String → Value}
      (henv : env.Represents contents names) := attributeSource_bind_value henv a
  rw [instructions_lowerAttribute]
  cases hs : attributeSource a.name.toLower a.value with
  | none =>
      refine ⟨IsBlock.nil, fun henv index pending => ?_⟩
      have habsent := hvalue henv
      rw [hs, Option.bind_none] at habsent
      rw [Template.Attribute.evaluate, ← habsent]
      simp [ofInstructions, runSteps, Run.idle]
  | some source =>
      -- both forms of the instruction are read as one step
      have hstep (index : Nat) : ofInstructions index
          [if Text.sameIgnoringCase a.name "style" then Instruction.setStyle source
            else .setAttribute a.name.toLower source] = [.attribute a.name.toLower source] := by
        by_cases hstyle : Text.sameIgnoringCase a.name "style" = true
        · have hname : a.name.toLower = "style" :=
            (Text.sameIgnoringCase_iff.mp hstyle).trans (by decide +kernel)
          rw [if_pos hstyle, ofInstructions, ofInstructions, hname]
        · rw [if_neg hstyle, ofInstructions, ofInstructions]
      rw [Option.map_some, Option.toList_some]
      refine ⟨?_, fun henv index pending => ?_⟩
      · split
        · exact IsBlock.setStyle source
        · exact IsBlock.setAttribute a.name.toLower source
      · have hpresent := hvalue henv
        rw [hs, Option.bind_some] at hpresent
        rw [hstep, runSteps, runStep, Template.Attribute.evaluate, ← hpresent]
        cases source.value _ a.name.toLower <;> rfl

/-- Lowered attributes give out the attributes in order. -/
theorem lowerAttributes_attributes (c : Context) (attributes : List Template.Attribute) :
    Computes.Attributes (lowerAttributes c attributes).instructions fun names =>
      attributes.filterMap (Template.Attribute.evaluate names) := by
  induction attributes with
  | nil =>
      refine ⟨IsBlock.nil, fun _ _ _ => ?_⟩
      simp [lowerAttributes, Fragment.empty, ofInstructions, runSteps, Run.idle]
  | cons a rest ih =>
      have ha := lowerAttribute_attributes c a
      refine ⟨ha.isBlock.append ih.isBlock, fun {env contents names} henv index pending => ?_⟩
      have hcode : (lowerAttributes c (a :: rest)).instructions =
          (lowerAttribute c a).instructions ++ (lowerAttributes c rest).instructions := rfl
      rw [hcode, ha.isBlock.runSteps_append, ha.run henv, Run.andThen_ok, ih.run henv,
        ← List.map_append, List.filterMap_cons]
      cases a.evaluate names <;> rfl

/-- The content of a text is its source. -/
theorem content_textSource {env : Environment} {contents : Projection} {names : String → Value}
    (henv : env.Represents contents names) (value : TextValue) :
    (textSource value).content env = value.evaluate names := by
  cases value with
  | literal s => rfl
  | expression e =>
      cases e with
      | literal l => rfl
      | identifier name => simp only [textSource, Source.content, henv.eval_eq, TextValue.evaluate]
      | member object property =>
          simp only [textSource, Source.content, henv.eval_eq, TextValue.evaluate]

/-- The instructions of a text. -/
theorem instructions_lowerText (c : Context) (value : TextValue) :
    (lowerText c value).instructions =
      [.bufferText (textSource value)] ++ if c.lastInRun then [.yieldText] else [] := by
  rw [lowerText]
  cases c.lastInRun <;> rfl

/-! ### Nodes -/

namespace Template.Node

/-- The text of a node that is part of a run of text. -/
def textValue : Node → TextValue
  | .text value _ => value
  | .expression e _ => .expression e
  | _ => .literal ""

/-- A node of a run of text is lowered to its text. -/
theorem lowerNode_isTextLike {n : Node} (h : n.isTextLike = true) (c : Context) :
    lowerNode c n = .ok (lowerText c n.textValue) := by
  cases n with
  | text value location => rw [lowerNode]; rfl
  | expression e location => rw [lowerNode]; rfl
  | element _ _ _ _ | slot _ _ _ | cond _ _ _ _ | chain _ _ | each _ _ _ _ _ => cases h

/-- A node of a run of text comes to its text. -/
theorem evaluate_isTextLike {n : Node} (h : n.isTextLike = true) (contents : Projection)
    (names : String → Value) :
    n.evaluate contents names = .ok [.text (n.textValue.evaluate names)] := by
  cases n with
  | text value location => rw [evaluate]; rfl
  | expression e location => rw [evaluate]; rfl
  | element _ _ _ _ | slot _ _ _ | cond _ _ _ _ | chain _ _ | each _ _ _ _ _ => cases h

/-- Nodes that begin with a text come to nodes that begin with a text. -/
theorem evaluateList_isTextLike {ns : List Node} (h : ns.head?.any isTextLike = true)
    {contents : Projection} {names : String → Value} {nodes : List VNode}
    (hnodes : evaluateList contents names ns = .ok nodes) : ∃ t rest, nodes = .text t :: rest := by
  cases ns with
  | nil => exact absurd h (by simp)
  | cons n ns =>
      have htext : n.isTextLike = true := by simpa using h
      rw [evaluateList, evaluate_isTextLike htext] at hnodes
      cases hrest : evaluateList contents names ns with
      | error e => rw [hrest] at hnodes; cases hnodes
      | ok rest =>
          rw [hrest] at hnodes
          cases hnodes
          exact ⟨_, rest, rfl⟩

end Template.Node

/-- A text and the nodes behind it. -/
theorem computes_text {n : Node} (hn : n.isTextLike = true) {c : Context} {ns : List Node}
    {rest : List Instruction}
    (hrest : Computes rest (ns.head?.any Node.isTextLike) fun contents names =>
      Node.evaluateList contents names ns) :
    Computes ((lowerText (c.position !(ns.head?.any Node.isTextLike)) n.textValue).instructions ++
        rest) true fun contents names => Node.evaluateList contents names (n :: ns) := by
  have hmeaning : (fun contents names => Node.evaluateList contents names (n :: ns)) =
      fun contents names => do
        let nodes ← Node.evaluateList contents names ns
        return .text (n.textValue.evaluate names) :: nodes := by
    funext contents names
    rw [Node.evaluateList, Node.evaluate_isTextLike hn]
    rfl
  have hsource {env : Environment} {contents : Projection} {names : String → Value}
      (henv : env.Represents contents names) := content_textSource henv n.textValue
  rw [hmeaning, instructions_lowerText]
  by_cases hlast : (c.position !(ns.head?.any Node.isTextLike)).lastInRun = true
  · rw [if_pos hlast]
    exact Computes.flushed hsource hrest
  · rw [if_neg hlast]
    -- a text that is not given out has a text behind it
    have hnext : ns.head?.any Node.isTextLike = true := by
      simp only [Context.position, Bool.or_eq_true, not_or, Bool.not_eq_true',
        Bool.not_eq_false] at hlast
      exact hlast.1
    rw [hnext] at hrest
    exact Computes.buffered hsource hrest fun contents names nodes hnodes =>
      Node.evaluateList_isTextLike hnext hnodes

/-- A branch of a chain has the rest of the chain as its alternative. -/
theorem computes_chain {condition : Expression} {children : List Node} {inRun : Bool}
    {rest : List (Option Expression × List Node)} {body alternate : Fragment}
    (hbody : Computes body.instructions inRun fun contents names =>
      Node.evaluateList contents names children)
    (halternate : Computes alternate.instructions false fun contents names =>
      Node.evaluateChain contents names rest) :
    Computes (branchFragment condition false body alternate).instructions false
      fun contents names =>
        Node.evaluateChain contents names ((some condition, children) :: rest) := by
  have hmeaning : (fun contents names =>
        Node.evaluateChain contents names ((some condition, children) :: rest)) =
      fun contents names =>
        if (condition.eval names).truthy != false then Node.evaluateList contents names children
        else Node.evaluateChain contents names rest := by
    funext contents names
    rw [Node.evaluateChain, Option.all_some, Bool.bne_false]
  rw [hmeaning]
  exact Computes.branch condition false hbody halternate

/-- An element without faults is lowered with its children, also where it is void. -/
theorem lowerNode_element {tag : String} {attributes : List Template.Attribute}
    {children : List Node} {location : Location}
    (h : Template.elementFaults tag attributes (!children.isEmpty) location = []) {c : Context}
    {body : Fragment} (hbody : lowerNodes (c.within tag) children = .ok body) :
    lowerNode c (.element tag attributes children location) =
      .ok (.instruction (.openElement tag.toLower) ++ lowerAttributes c attributes ++ body ++
        .instruction (.closeElement tag.toLower)) := by
  rw [lowerNode]
  by_cases hvoid : Html.isVoid tag = true
  · rw [Template.children_eq_nil_of_elementFaults h hvoid, lowerNodes, Except.ok.injEq] at hbody
    simp only [Html.isVoid_toLower, hvoid, if_true, ← hbody]
    rfl
  · simp only [Html.isVoid_toLower, hvoid, hbody]
    rfl

mutual

/-- A lowered node outside of runs of text computes its evaluation. -/
theorem lowerNode_computes (c : Context) (n : Node) (hn : n.isTextLike = false)
    (hv : n.faults = []) :
    ∃ f, lowerNode c n = .ok f ∧
      Computes f.instructions false fun contents names => n.evaluate contents names := by
  cases n with
  | text value location => cases hn
  | expression e location => cases hn
  | element tag attributes children location =>
      rw [Node.faults, List.append_eq_nil_iff] at hv
      obtain ⟨body, hbody, hcomputes⟩ := lowerNodes_computes (c.within tag) children hv.2
      have hattributes : Computes.Attributes (lowerAttributes c attributes).instructions
          fun names => (Template.attributeValues names attributes).toList := by
        have hlist (names : String → Value) := Template.toList_attributeValues names
          (Template.repeated_eq_nil_of_elementFaults hv.1)
        simp only [hlist]
        exact lowerAttributes_attributes c attributes
      refine ⟨_, lowerNode_element hv.1 hbody, ?_⟩
      change Computes ([.openElement tag.toLower] ++ (lowerAttributes c attributes).instructions ++
        body.instructions ++ [.closeElement tag.toLower]) false _
      rw [List.append_assoc, List.append_assoc]
      simp only [Node.evaluate]
      exact Computes.element hattributes hcomputes
  | slot name fallback location =>
      rw [Node.faults, List.append_eq_nil_iff] at hv
      obtain ⟨body, hbody, hcomputes⟩ := lowerNodes_computes c fallback hv.2
      simp only [Node.evaluate]
      rcases name with _ | ⟨name | e | _⟩
      · refine ⟨_, by rw [lowerNode, hbody]; rfl, ?_⟩
        exact Computes.slot none hcomputes
      · refine ⟨_, by rw [lowerNode, hbody]; rfl, ?_⟩
        exact Computes.slot (some name) hcomputes
      · exact absurd hv.1 (by simp [Template.slotFaults])
      · exact absurd hv.1 (by simp [Template.slotFaults])
  | cond condition negated children location =>
      rw [Node.faults] at hv
      obtain ⟨body, hbody, hcomputes⟩ := lowerNodes_computes c children hv
      refine ⟨branchFragment condition negated body .empty, by rw [lowerNode, hbody]; rfl, ?_⟩
      simp only [Node.evaluate]
      exact Computes.branch condition negated hcomputes Computes.nil
  | chain branches location =>
      rw [Node.faults, List.append_eq_nil_iff] at hv
      obtain ⟨f, hf, hcomputes⟩ := lowerChain_computes c branches hv.2
      refine ⟨f, by rw [lowerNode, hf], ?_⟩
      simp only [Node.evaluate]
      exact hcomputes
  | each collection item index children location =>
      rw [Node.faults, List.append_eq_nil_iff] at hv
      obtain ⟨body, hbody, hcomputes⟩ := lowerNodes_computes c children hv.2
      refine ⟨_, by rw [lowerNode, hbody]; rfl, ?_⟩
      simp only [Node.evaluate]
      exact Computes.iterate collection item index hcomputes

/-- **Lowered nodes compute their evaluation.** -/
theorem lowerNodes_computes (c : Context) (ns : List Node) (hv : Node.listFaults ns = []) :
    ∃ f, lowerNodes c ns = .ok f ∧
      Computes f.instructions (ns.head?.any Node.isTextLike) fun contents names =>
        Node.evaluateList contents names ns := by
  cases ns with
  | nil => exact ⟨.empty, by rw [lowerNodes], Computes.nil⟩
  | cons n ns =>
      rw [Node.listFaults, List.append_eq_nil_iff] at hv
      obtain ⟨rest, hrest, hcomputes⟩ := lowerNodes_computes c ns hv.2
      by_cases hn : n.isTextLike = true
      · refine ⟨_, by rw [lowerNodes, Node.lowerNode_isTextLike hn, hrest]; rfl, ?_⟩
        rw [List.head?_cons, Option.any_some, hn]
        exact computes_text hn hcomputes
      · rw [Bool.not_eq_true] at hn
        obtain ⟨first, hfirst, hnode⟩ := lowerNode_computes
          (c.position !(ns.head?.any Node.isTextLike)) n hn hv.1
        refine ⟨_, by rw [lowerNodes, hfirst, hrest]; rfl, ?_⟩
        rw [List.head?_cons, Option.any_some, hn]
        simp only [Node.evaluateList]
        exact hnode.append hcomputes

/-- A lowered chain computes its evaluation. -/
theorem lowerChain_computes (c : Context) (branches : List (Option Expression × List Node))
    (hv : Node.branchFaults branches = []) :
    ∃ f, lowerChain c branches = .ok f ∧
      Computes f.instructions false fun contents names =>
        Node.evaluateChain contents names branches := by
  cases branches with
  | nil => exact ⟨.empty, by rw [lowerChain], Computes.nil⟩
  | cons branch rest =>
      obtain ⟨condition, children⟩ := branch
      rw [Node.branchFaults, List.append_eq_nil_iff] at hv
      obtain ⟨body, hbody, hcomputes⟩ := lowerNodes_computes c children hv.1
      obtain ⟨alternate, halternate, hchain⟩ := lowerChain_computes c rest hv.2
      cases condition with
      | some condition =>
          refine ⟨branchFragment condition false body alternate, ?_,
            computes_chain hcomputes hchain⟩
          rw [lowerChain, halternate, hbody]
          rfl
      | none =>
          refine ⟨body, ?_, ?_⟩
          · rw [lowerChain, halternate, hbody]
            rfl
          · simp only [Node.evaluateChain, Option.all_none, if_true]
            exact hcomputes.outside

end

/-! ### Templates -/

/-- A template is valid exactly when it has no faults. -/
theorem Template.validate_eq_ok_iff {t : Template} : t.validate = .ok () ↔ t.faults = [] := by
  rw [validate]
  cases t.faults <;> simp

/-- **A template without faults is compiled, and every run of the program shows the evaluation of
the template**, in any environment that represents the names and the content from outside. -/
theorem compile_shows {t : Template} (hv : t.validate = .ok ()) (target : Target)
    (o : CompileOptions) :
    ∃ p, compile t target o = .ok p ∧ p.target = target ∧
      ∀ {env : Environment} {contents : Projection} {names : String → Value},
        env.Represents contents names →
          (runSteps env "" p.steps).Shows (Node.evaluateList contents names t.nodes) := by
  obtain ⟨body, hbody, hcomputes⟩ := lowerNodes_computes (.root target o) t.nodes
    (Template.validate_eq_ok_iff.mp hv)
  refine ⟨⟨t.name, target, body.instructions, body.imports⟩, ?_, rfl, fun henv => ?_⟩
  · simp only [compile, hv, hbody]
    rfl
  · exact hcomputes.shows_empty henv 0

/-- A template that was compiled is valid. -/
theorem validate_of_compile {t : Template} {target : Target} {o : CompileOptions} {p : Program}
    (h : compile t target o = .ok p) : t.validate = .ok () := by
  rw [compile] at h
  cases hv : t.validate with
  | error f => rw [hv] at h; cases h
  | ok _ => rfl

/-- Content from outside was compiled from a template, with some options. -/
def SlotContent.CompiledFrom (content : SlotContent) (t : Template) : Prop :=
  ∃ o, SlotContent.compile t o = .ok content

/-- The content in a scope was compiled from these templates, and there is no other. -/
def Scope.CompiledFrom (scope : Scope) (contents : String → Option Template) : Prop :=
  ∀ name, Option.Rel SlotContent.CompiledFrom (scope.slots.get? name) (contents name)

/-- Data without content for slots. -/
theorem Scope.compiledFrom_ofData (data : Value) :
    (Scope.ofData data).CompiledFrom fun _ => none :=
  fun _ => Option.Rel.none

/-- Compiled content for one more slot. -/
theorem Scope.CompiledFrom.withSlot {scope : Scope} {contents : String → Option Template}
    (hs : Scope.CompiledFrom scope contents) {content : SlotContent} {t : Template}
    (h : content.CompiledFrom t) (slot : Option String) :
    (scope.withSlot slot content).CompiledFrom
      fun name => if name = slot.getD "" then some t else contents name := by
  intro name
  simp only [Scope.withSlot, OrderedMap.get?_insert]
  by_cases hname : name = slot.getD ""
  · rw [if_pos hname, if_pos hname]
    exact Option.Rel.some h
  · rw [if_neg hname, if_neg hname]
    exact hs name

/-- Content that is given for a slot was compiled. -/
theorem Scope.CompiledFrom.of_slot {scope : Scope} {contents : String → Option Template}
    (hs : scope.CompiledFrom contents) {name : Option String} {content : SlotContent}
    (h : scope.slot? name = some content) : ∃ t, content.CompiledFrom t := by
  have hcontent := hs (name.getD "")
  rw [← Scope.slot?, h] at hcontent
  cases hcontents : contents (name.getD "") with
  | none => rw [hcontents] at hcontent; cases hcontent
  | some t =>
      rw [hcontents] at hcontent
      cases hcontent with
      | some hcompiled => exact ⟨t, hcompiled⟩

/-- The program of compiled content for a target is the compiled template. -/
theorem SlotContent.CompiledFrom.program {content : SlotContent} {t : Template}
    (h : content.CompiledFrom t) (target : Target) :
    ∃ o, TwinRender.compile t target o = .ok (content.program target) := by
  obtain ⟨o, h⟩ := h
  rw [SlotContent.compile] at h
  cases hserver : TwinRender.compile t .server o with
  | error f => rw [hserver] at h; cases h
  | ok server =>
      cases hclient : TwinRender.compile t .client o with
      | error f => rw [hserver, hclient] at h; cases h
      | ok client =>
          rw [hserver, hclient] at h
          cases h
          cases target with
          | server => exact ⟨o, hserver⟩
          | client => exact ⟨o, hclient⟩

/-- Running compiled content from outside shows its evaluation with the data alone. -/
theorem SlotContent.CompiledFrom.shows {content : SlotContent} {t : Template}
    (h : content.CompiledFrom t) (target : Target) (data : Value) :
    ((content.program target).runProjected data).Shows
      (Node.evaluateList (fun _ => none) (rootNames data) t.nodes) := by
  obtain ⟨o, ho⟩ := SlotContent.CompiledFrom.program h target
  obtain ⟨p, hp, -, hshows⟩ := compile_shows (validate_of_compile ho) target o
  rw [ho, Except.ok.injEq] at hp
  subst hp
  exact hshows ⟨rfl, fun _ => Option.Rel.none⟩

/-- What content from outside comes to, given the templates from which it was compiled. -/
def Template.projected (data : Value) (contents : String → Option Template) : Projection :=
  fun slot => (contents slot).map fun content =>
    Node.evaluateList (fun _ => none) (rootNames data) content.nodes

/-- **Runs for both targets show the evaluation of the template** in every scope whose content was
compiled. -/
theorem run_compile_shows {t : Template} (hv : t.validate = .ok ()) (o : CompileOptions)
    {scope : Scope} {contents : String → Option Template} (hs : scope.CompiledFrom contents)
    (target : Target) :
    ∃ p, compile t target o = .ok p ∧
      (p.run target scope).Shows (Node.evaluateList (Template.projected scope.data contents)
        (rootNames scope.data) t.nodes) := by
  obtain ⟨p, hp, htarget, hshows⟩ := compile_shows hv target o
  refine ⟨p, hp, ?_⟩
  rw [Program.run, if_pos htarget]
  refine hshows ⟨rfl, fun name => ?_⟩
  have hcontent := hs (name.getD "")
  simp only [Scope.slot?, Template.projected]
  cases hc : contents (name.getD "") with
  | none =>
      rw [hc] at hcontent
      cases hslot : scope.slots.get? (name.getD "") with
      | some content => rw [hslot] at hcontent; cases hcontent
      | none => exact Option.Rel.none
  | some template =>
      rw [hc] at hcontent
      cases hslot : scope.slots.get? (name.getD "") with
      | none => rw [hslot] at hcontent; cases hcontent
      | some content =>
          rw [hslot] at hcontent
          cases hcontent with
          | some hcompiled =>
              exact Option.Rel.some
                (SlotContent.CompiledFrom.shows hcompiled target scope.data)

/-- **Compiler correctness.** A valid template is compiled for the client, with any options, and in
every scope whose content was compiled the program describes the tree of the template, or fails as
its evaluation fails. -/
theorem renderClient_compile {t : Template} (hv : t.validate = .ok ()) (o : CompileOptions)
    {scope : Scope} {contents : String → Option Template} (hs : scope.CompiledFrom contents) :
    ∃ p, compile t .client o = .ok p ∧ renderClient p scope = t.evaluate scope.data contents := by
  obtain ⟨p, hp, hshows⟩ := run_compile_shows hv o hs .client
  exact ⟨p, hp, hshows.tree_eq⟩

/-! ### A list with content from outside -/

/-- A list whose items have a slot. -/
def listTemplate : Template :=
  ⟨"list", [.each (.identifier "items") "item" none
    [.element "LI" [⟨"class", .literal "a", .none⟩]
      [.expression (.identifier "item") .none, .slot none [] .none] .none] .none]⟩

/-- Content that shows a name which the list binds, and which it does not see. -/
def footTemplate : Template := ⟨"foot", [.expression (.identifier "item") .none]⟩

/-- The content, compiled. -/
def footContent : SlotContent :=
  ⟨⟨"foot", .server, [.bufferText (.computed (.identifier "item")), .yieldText],
      [.content, .escape]⟩,
    ⟨"foot", .client, [.bufferText (.computed (.identifier "item")), .yieldText], [.content]⟩⟩

/-- Two items, of which one is empty, and the content for the slot. -/
def listScope : Scope :=
  (Scope.ofData (.object [("items", .array [.string "x", .null])])).withSlot none footContent

/-- The templates behind the content. -/
def listContents (name : String) : Option Template :=
  if name = "" then some footTemplate else none

/-- The list has no faults. -/
theorem validate_listTemplate : listTemplate.validate = .ok () := by cbv

/-- The content of the slot was compiled. -/
theorem compiledFrom_listScope : listScope.CompiledFrom listContents :=
  (Scope.compiledFrom_ofData _).withSlot ⟨.standard, by cbv⟩ none

/-- The compiled list is rendered as it is evaluated, with the content in its slot. -/
theorem renderClient_compile_list :
    listTemplate.validate = .ok () ∧ listScope.CompiledFrom listContents ∧
      ∃ p, compile listTemplate .client .standard = .ok p ∧
        renderClient p listScope = listTemplate.evaluate listScope.data listContents :=
  ⟨validate_listTemplate, compiledFrom_listScope,
    renderClient_compile validate_listTemplate .standard compiledFrom_listScope⟩

end TwinRender
