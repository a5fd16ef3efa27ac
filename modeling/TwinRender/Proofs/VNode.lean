import TwinRender.Proofs.OrderedMap
import TwinRender.VNode

/-!
# Laws of expected nodes

A list of expected nodes stands for a tree once its adjacent texts are one text, at all depths.
What holds of every element holds of a list no matter whether its texts were merged.

## Main definitions

* `VNode.merged`, `VNode.mergedList`: nodes whose adjacent texts are one text, at all depths.
* `VNode.AllElements`: a property of every element of a tree.
* `VNode.AllTexts`: a property of every text and of every value of an attribute.
* `VNode.AreLowercase`: all names in some trees are in lower case.

## Main results

* `VNode.mergedList_append`: merging does not depend on how a list is cut.
* `VNode.allElementsIn_mergedList`: merging does not change which elements there are.
-/

namespace TwinRender

/-! ### Merged texts -/

namespace VNode

/-- A node before its siblings, where a text joins a text behind it. -/
def mergeInto : VNode → List VNode → List VNode
  | .text s, .text t :: rest => .text (s ++ t) :: rest
  | n, siblings => n :: siblings

mutual

/-- A node whose adjacent texts, at all depths below it, are one text. -/
def merged : VNode → VNode
  | .element tag attributes children => .element tag attributes (mergedList children)
  | .text s => .text s

/-- Nodes whose adjacent texts, also at all depths below, are one text. -/
def mergedList : List VNode → List VNode
  | [] => []
  | n :: ns => mergeInto n.merged (mergedList ns)

end

/-- Two texts that join a list one after the other join it as one text. -/
theorem mergeInto_text_text (s t : String) (siblings : List VNode) :
    mergeInto (.text s) (mergeInto (.text t) siblings) = mergeInto (.text (s ++ t)) siblings := by
  rcases siblings with _ | ⟨_ | u, rest⟩
  · rfl
  · rfl
  · simp only [mergeInto, String.append_assoc]

/-- Merging a list into another one does not depend on whether it was merged before. -/
theorem foldr_mergeInto (ns siblings : List VNode) :
    (ns.foldr mergeInto []).foldr mergeInto siblings = ns.foldr mergeInto siblings := by
  induction ns with
  | nil => rfl
  | cons n ns ih =>
      rw [List.foldr_cons, List.foldr_cons, ← ih]
      rcases n with _ | s
      · rfl
      rcases hns : ns.foldr mergeInto [] with _ | ⟨_ | t, rest⟩
      · rfl
      · rfl
      · exact (mergeInto_text_text s t _).symm

/-- Merging is a fold over merged nodes. -/
theorem mergedList_eq_foldr (ns : List VNode) :
    mergedList ns = (ns.map merged).foldr mergeInto [] := by
  induction ns with
  | nil => rfl
  | cons n ns ih => rw [mergedList, ih, List.map_cons, List.foldr_cons]

/-- **Merging does not depend on how a list is cut**: the merged parts determine the merged
whole. -/
theorem mergedList_append (ms ns : List VNode) :
    mergedList (ms ++ ns) = (mergedList ms).foldr mergeInto (mergedList ns) := by
  rw [mergedList_eq_foldr ms, foldr_mergeInto, mergedList_eq_foldr, List.map_append,
    List.foldr_append, ← mergedList_eq_foldr ns]

/-- Lists with equal merged parts are equal when merged. -/
theorem mergedList_append_congr {ms ms' ns ns' : List VNode}
    (hm : mergedList ms = mergedList ms') (hn : mergedList ns = mergedList ns') :
    mergedList (ms ++ ns) = mergedList (ms' ++ ns') := by
  rw [mergedList_append, mergedList_append, hm, hn]

/-- Adjacent texts are one text. -/
theorem mergedList_text_text (s t : String) (ns : List VNode) :
    mergedList (.text s :: .text t :: ns) = mergedList (.text (s ++ t) :: ns) :=
  mergeInto_text_text s t (mergedList ns)

/-- Only no nodes come to no nodes. -/
theorem mergedList_eq_nil_iff {ns : List VNode} : mergedList ns = [] ↔ ns = [] := by
  cases ns with
  | nil => simp [mergedList]
  | cons n ns =>
      simp only [mergedList, reduceCtorEq, iff_false]
      rcases n with _ | s <;> rcases mergedList ns with _ | ⟨_ | t, rest⟩ <;>
        simp [merged, mergeInto]

/-! ### Properties of every element -/

mutual

/-- Every element of a tree, given by its tag, attributes and children, has a property. -/
def AllElements (p : String → OrderedMap String → List VNode → Prop) : VNode → Prop
  | .element tag attributes children => p tag attributes children ∧ AllElementsIn p children
  | .text _ => True

/-- Every element of some trees has a property. -/
def AllElementsIn (p : String → OrderedMap String → List VNode → Prop) : List VNode → Prop
  | [] => True
  | n :: ns => n.AllElements p ∧ AllElementsIn p ns

end

variable {p : String → OrderedMap String → List VNode → Prop}

/-- The elements of lists one behind the other. -/
theorem allElementsIn_append {ms ns : List VNode} :
    AllElementsIn p (ms ++ ns) ↔ AllElementsIn p ms ∧ AllElementsIn p ns := by
  induction ms with
  | nil => simp [AllElementsIn]
  | cons m ms ih => rw [List.cons_append, AllElementsIn, AllElementsIn, ih, and_assoc]

/-- A node that joins its siblings brings its own elements. -/
theorem allElementsIn_mergeInto {n : VNode} {ns : List VNode} :
    AllElementsIn p (mergeInto n ns) ↔ n.AllElements p ∧ AllElementsIn p ns := by
  rcases n with _ | s
  · rfl
  · rcases ns with _ | ⟨_ | t, rest⟩ <;> simp [mergeInto, AllElementsIn, AllElements]

mutual

/-- Merging the texts of a node does not change which elements there are. -/
theorem allElements_merged (hp : ∀ tag attributes children,
      p tag attributes (mergedList children) ↔ p tag attributes children) (n : VNode) :
    n.merged.AllElements p ↔ n.AllElements p := by
  cases n with
  | text s => rfl
  | element tag attributes children =>
      rw [merged, AllElements, AllElements, hp, allElementsIn_mergedList hp children]

/-- **Merging texts does not change which elements there are**, if a property of an element takes
its children as they are when merged. -/
theorem allElementsIn_mergedList (hp : ∀ tag attributes children,
      p tag attributes (mergedList children) ↔ p tag attributes children) (ns : List VNode) :
    AllElementsIn p (mergedList ns) ↔ AllElementsIn p ns := by
  cases ns with
  | nil => rfl
  | cons n ns =>
      rw [mergedList, allElementsIn_mergeInto, AllElementsIn, allElements_merged hp n,
        allElementsIn_mergedList hp ns]

end

/-! ### Properties of every text and name -/

mutual

/-- Every text and every value of an attribute in a tree has a property. -/
def AllTexts (p : String → Prop) : VNode → Prop
  | .element _ attributes children =>
    (∀ a ∈ attributes.toList, p a.2) ∧ AllTextsIn p children
  | .text s => p s

/-- Every text and every value of an attribute in some trees has a property. -/
def AllTextsIn (p : String → Prop) : List VNode → Prop
  | [] => True
  | n :: ns => n.AllTexts p ∧ AllTextsIn p ns

end

/-- The names of an element and of its attributes are in lower case. -/
structure HasLowercaseNames (tag : String) (attributes : OrderedMap String) : Prop where
  /-- The tag is in lower case. -/
  tag : tag.toLower = tag
  /-- The names of the attributes are in lower case. -/
  attributes : ∀ name ∈ attributes.keys, name.toLower = name

/-- All names in a tree are in lower case. -/
def IsLowercase (n : VNode) : Prop :=
  n.AllElements fun tag attributes _ => HasLowercaseNames tag attributes

/-- All names in some trees are in lower case. -/
def AreLowercase (ns : List VNode) : Prop :=
  AllElementsIn (fun tag attributes _ => HasLowercaseNames tag attributes) ns

end VNode

end TwinRender
