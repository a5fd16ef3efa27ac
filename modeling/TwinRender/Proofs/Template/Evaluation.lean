import TwinRender.Proofs.VNode
import TwinRender.Render
import TwinRender.Template.Fault

/-!
# The direct evaluation of templates

A template says which tree it stands for without being compiled: each node comes to a list of
nodes, given the values of names and what content from outside comes to. This module defines that
tree by recursion on the template. Texts stand by themselves at first; in the tree of a whole
template the adjacent texts of one parent are one text.

## Main definitions

* `Template.Node.evaluate`: the nodes that a node of a template comes to.
* `Template.evaluate`: the tree of a template.

## Main results

* `Template.toList_attributeValues`: the attributes of an element keep their order.
-/

namespace TwinRender

namespace Template

/-! ### Evaluation -/

/-- What content from outside comes to, by the name of its slot. -/
abbrev Projection := String → Option (Except RenderError (List VNode))

/-- The values of names in the body of a loop: its item, its position, and the names around it. -/
def bindLoop (names : String → Value) (item : String) (index : Option String) (value : Value)
    (position : Nat) : String → Value :=
  fun name =>
    if name = item then value
    else if index = some name then Value.ofNat position
    else names name

/-- The value that an attribute is given, before it is made canonical. -/
def Attribute.given (names : String → Value) (a : Attribute) : Option String :=
  match a.value with
  | .literal raw => some raw
  | .expression e => attributeOfValue a.name.toLower (e.eval names)
  | .boolean => some ""

/-- An attribute with its canonical value; none if it is absent. -/
def Attribute.evaluate (names : String → Value) (a : Attribute) : Option (String × String) :=
  (canonicalAttribute a.name.toLower (a.given names)).map fun value => (a.name.toLower, value)

/-- The attributes of an element with their canonical values; absent ones are left out. -/
def attributeValues (names : String → Value) (attributes : List Attribute) : OrderedMap String :=
  .ofList (attributes.filterMap (Attribute.evaluate names))

/-- The text of a text node. -/
def TextValue.evaluate (names : String → Value) : TextValue → String
  | .literal s => s
  | .expression e => (e.eval names).content

/-- The name under which content for a slot is found; the slot without a name has the empty
one. -/
def slotName : Option AttributeValue → String
  | some (.literal name) => name
  | _ => ""

namespace Node

mutual

/-- The nodes that a node of a template comes to. -/
def evaluate (contents : Projection) (names : String → Value) :
    Node → Except RenderError (List VNode)
  | .element tag attributes children _ => do
    let content ← evaluateList contents names children
    return [.element tag.toLower (attributeValues names attributes) content]
  | .text value _ => .ok [.text (value.evaluate names)]
  | .expression e _ => .ok [.text ((TextValue.expression e).evaluate names)]
  | .slot name fallback _ =>
    match contents (slotName name) with
    | some projected => projected
    | none => evaluateList contents names fallback
  | .cond condition negated children _ =>
    if (condition.eval names).truthy != negated then evaluateList contents names children
    else .ok []
  | .chain branches _ => evaluateChain contents names branches
  | .each collection item index children _ =>
    match collection.eval names with
    | .array items => do
      let parts ← items.zipIdx.mapM fun entry =>
        evaluateList contents (bindLoop names item index entry.1 entry.2) children
      return parts.flatten
    | .null => .ok []
    | v => .error (.notIterable collection.text v.kindName)

/-- The nodes that neighbouring nodes of a template come to. -/
def evaluateList (contents : Projection) (names : String → Value) :
    List Node → Except RenderError (List VNode)
  | [] => .ok []
  | n :: ns => do
    let first ← evaluate contents names n
    let rest ← evaluateList contents names ns
    return first ++ rest

/-- The nodes of the first branch whose condition holds or is missing. -/
def evaluateChain (contents : Projection) (names : String → Value) :
    List (Option Expression × List Node) → Except RenderError (List VNode)
  | [] => .ok []
  | (condition, children) :: rest =>
    if condition.all fun e => (e.eval names).truthy then evaluateList contents names children
    else evaluateChain contents names rest

end

end Node

/-- The values of names outside of any loop: the members of the data. -/
def rootNames (data : Value) : String → Value := fun name => (data.field? name).getD .null

/-- **The tree of a template**, given the data and the templates whose content is projected into
slots. Projected content sees the data alone and has no slots of its own. -/
def evaluate (t : Template) (data : Value) (contents : String → Option Template) :
    Except RenderError (List VNode) :=
  let names := rootNames data
  let projected := fun slot =>
    (contents slot).map fun content => Node.evaluateList (fun _ => none) names content.nodes
  (Node.evaluateList projected names t.nodes).map VNode.mergedList

/-! ### Attributes in order -/

/-- The attributes that come again are none exactly when the names differ up to case. -/
theorem repeated_eq_nil_iff {seen : List String} {attributes : List Attribute} :
    repeated seen attributes = [] ↔
      (attributes.map fun a => a.name.toLower).Nodup ∧
        ∀ a ∈ attributes, a.name.toLower ∉ seen := by
  induction attributes generalizing seen with
  | nil => simp [repeated]
  | cons a rest ih =>
      by_cases hmem : seen.contains a.name.toLower = true
      · have hseen : a.name.toLower ∈ seen := by simpa using hmem
        simp [repeated, hseen]
      · have hseen : a.name.toLower ∉ seen := by simpa using hmem
        rw [repeated, if_neg hmem, ih]
        simp only [List.mem_cons, not_or, List.map_cons, List.nodup_cons, List.mem_map,
          forall_eq_or_imp, not_exists, not_and]
        constructor
        · rintro ⟨hnodup, hrest⟩
          exact ⟨⟨fun b hb => (hrest b hb).1, hnodup⟩, hseen, fun b hb => (hrest b hb).2⟩
        · rintro ⟨⟨hfirst, hnodup⟩, -, hrest⟩
          exact ⟨hnodup, fun b hb => ⟨hfirst b hb, hrest b hb⟩⟩

/-- The names of evaluated attributes are among the names of the attributes, in their order. -/
theorem map_fst_evaluate_sublist (names : String → Value) (attributes : List Attribute) :
    ((attributes.filterMap (Attribute.evaluate names)).map Prod.fst).Sublist
      (attributes.map fun a => a.name.toLower) := by
  induction attributes with
  | nil => exact List.Sublist.refl _
  | cons a rest ih =>
      rw [List.filterMap_cons]
      cases he : Attribute.evaluate names a with
      | none => exact ih.cons _
      | some entry =>
          obtain ⟨value, -, rfl⟩ := Option.map_eq_some_iff.mp he
          exact ih.cons_cons _

/-- **The attributes of an element keep their order**: where no name stands twice, the evaluated
attributes are the present ones in the order of the template. -/
theorem toList_attributeValues {attributes : List Attribute} (names : String → Value)
    (h : repeated [] attributes = []) :
    (attributeValues names attributes).toList =
      attributes.filterMap (Attribute.evaluate names) :=
  OrderedMap.toList_ofList
    ((repeated_eq_nil_iff.mp h).1.sublist (map_fst_evaluate_sublist names attributes))

end Template

end TwinRender
