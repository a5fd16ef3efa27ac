import TwinRender.Proofs.Template.Elements

/-!
# Trees of valid templates

What a valid template comes to can be written as markup without loss: names are in lower case,
boolean attributes have no value, and void elements are empty. The same holds of content from
outside, so it holds of the whole tree.

## Main definitions

* `VNode.IsPlain`, `VNode.ArePlain`: elements that are written without loss.

## Main results

* `Template.Node.arePlain_evaluateList`: evaluation of nodes without faults gives plain nodes.
-/

namespace TwinRender

namespace VNode

/-- An element that is written without loss. -/
structure IsPlain (tag : String) (attributes : OrderedMap String) (children : List VNode) :
    Prop where
  /-- Its names are in lower case. -/
  names : HasLowercaseNames tag attributes
  /-- Its boolean attributes have no value. -/
  boolean : ∀ a ∈ attributes.toList, Html.isBoolean a.1 = true → a.2 = ""
  /-- It has no children if it is void. -/
  void : Html.isVoid tag = true → children = []

/-- All elements in some trees are written without loss. -/
def ArePlain (ns : List VNode) : Prop := AllElementsIn IsPlain ns

/-- Whether trees are plain does not depend on how their texts are cut. -/
theorem arePlain_mergedList (ns : List VNode) : ArePlain (mergedList ns) ↔ ArePlain ns := by
  refine allElementsIn_mergedList (fun tag attributes children => ?_) ns
  constructor
  · rintro ⟨hnames, hboolean, hvoid⟩
    exact ⟨hnames, hboolean, fun h => mergedList_eq_nil_iff.mp (hvoid h)⟩
  · rintro ⟨hnames, hboolean, hvoid⟩
    exact ⟨hnames, hboolean, fun h => mergedList_eq_nil_iff.mpr (hvoid h)⟩

end VNode

open VNode (IsPlain ArePlain)

namespace Template

/-- No attribute of an element without faults stands twice. -/
theorem repeated_eq_nil_of_elementFaults {tag : String} {attributes : List Attribute}
    {hasChildren : Bool} {location : Location}
    (h : elementFaults tag attributes hasChildren location = []) :
    repeated [] attributes = [] := by
  simp only [elementFaults, List.append_eq_nil_iff, List.map_eq_nil_iff] at h
  exact h.1.1.2

/-- A void element without faults has no children. -/
theorem children_eq_nil_of_elementFaults {tag : String} {attributes : List Attribute}
    {children : List Node} {location : Location}
    (h : elementFaults tag attributes (!children.isEmpty) location = [])
    (hvoid : Html.isVoid tag = true) : children = [] := by
  simp only [elementFaults, List.append_eq_nil_iff, hvoid, Bool.true_and] at h
  cases children with
  | nil => rfl
  | cons n ns => exact absurd h.2 (by simp)

/-- An evaluated attribute has a lowercase name, and no value if it is boolean. -/
theorem evaluate_eq_some {names : String → Value} {a : Attribute} {entry : String × String}
    (h : a.evaluate names = some entry) :
    entry.1.toLower = entry.1 ∧ (Html.isBoolean entry.1 = true → entry.2 = "") := by
  obtain ⟨value, hvalue, rfl⟩ := Option.map_eq_some_iff.mp h
  exact ⟨toLower_toLower a.name, fun hboolean => canonicalAttribute_boolean hboolean hvalue⟩

/-- The evaluation of an element without faults is written without loss. -/
theorem isPlain_element {tag : String} {attributes : List Attribute} {children : List Node}
    {location : Location} (h : elementFaults tag attributes (!children.isEmpty) location = [])
    (names : String → Value) {nodes : List VNode} (hnodes : children = [] → nodes = []) :
    IsPlain tag.toLower (attributeValues names attributes) nodes := by
  have hentries := toList_attributeValues names (repeated_eq_nil_of_elementFaults h)
  have hentry {entry : String × String}
      (hmem : entry ∈ (attributeValues names attributes).toList) :
      entry.1.toLower = entry.1 ∧ (Html.isBoolean entry.1 = true → entry.2 = "") := by
    rw [hentries, List.mem_filterMap] at hmem
    obtain ⟨a, -, ha⟩ := hmem
    exact evaluate_eq_some ha
  refine ⟨⟨toLower_toLower tag, ?_⟩, fun entry hmem => (hentry hmem).2, fun hvoid => ?_⟩
  · intro name hname
    obtain ⟨entry, hmem, rfl⟩ := List.mem_map.mp hname
    exact (hentry hmem).1
  · rw [Html.isVoid_toLower] at hvoid
    exact hnodes (children_eq_nil_of_elementFaults h hvoid)

/-- Elements without faults are evaluated to elements that are written without loss. -/
theorem gives_isPlain : Gives Node.HasNoFaults IsPlain :=
  fun _ _ _ _ h names _ hnodes => isPlain_element h names hnodes

/-- Whatever content from outside comes to is plain. -/
def Projection.ArePlain (contents : Projection) : Prop := contents.All IsPlain

/-- **Nodes without faults come to plain nodes.** -/
theorem Node.arePlain_evaluateList {contents : Projection} (hc : contents.ArePlain)
    (ns : List Node) (hv : Node.listFaults ns = []) {names : String → Value} {nodes : List VNode}
    (h : Node.evaluateList contents names ns = .ok nodes) : ArePlain nodes :=
  Node.allElementsIn_evaluateList gives_isPlain hc ns (Node.allElementsIn_of_listFaults ns hv) h

end Template

end TwinRender
