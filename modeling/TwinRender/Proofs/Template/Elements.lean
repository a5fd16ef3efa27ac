import TwinRender.Proofs.Template.Evaluation

/-!
# The elements of a template

What is said of every element of a template carries over to every element of the trees that the
template stands for: loops repeat elements and branches leave some of them out, but an element of
the tree is always the evaluation of one of the template, or stands in content from outside.

## Main definitions

* `Template.Node.AllElements`, `Template.AllElements`: a property of every element of a template.
* `Template.Gives`: elements with one property are evaluated to elements with another one.
* `Template.Projection.All`: a property of every element of the content from outside.

## Main results

* `Template.Node.allElementsIn_of_listFaults`: no element of a valid template has faults.
* `Template.Node.allElementsIn_evaluateList`: **the elements of a tree are elements of its
  template**.
-/

namespace TwinRender

namespace VNode

variable {p q : String → OrderedMap String → List VNode → Prop}

/-- The elements of trees one behind the other. -/
theorem allElementsIn_flatten {parts : List (List VNode)}
    (h : ∀ ns ∈ parts, AllElementsIn p ns) : AllElementsIn p parts.flatten := by
  induction parts with
  | nil => trivial
  | cons ns parts ih =>
      rw [List.flatten_cons]
      exact allElementsIn_append.mpr ⟨h ns (List.mem_cons_self ..),
        ih fun other hother => h other (List.mem_cons_of_mem _ hother)⟩

mutual

/-- A property of every element of a tree that follows from another one. -/
theorem AllElements.imp (h : ∀ tag attributes children, p tag attributes children →
      q tag attributes children) (n : VNode) (hp : n.AllElements p) : n.AllElements q := by
  cases n with
  | text s => trivial
  | element tag attributes children =>
      exact ⟨h tag attributes children hp.1, AllElementsIn.imp h children hp.2⟩

/-- A property of every element of some trees that follows from another one. -/
theorem AllElementsIn.imp (h : ∀ tag attributes children, p tag attributes children →
      q tag attributes children) (ns : List VNode) (hp : AllElementsIn p ns) :
    AllElementsIn q ns := by
  cases ns with
  | nil => trivial
  | cons n ns => exact ⟨AllElements.imp h n hp.1, AllElementsIn.imp h ns hp.2⟩

end

mutual

/-- Two properties of every element of a tree. -/
theorem AllElements.and (n : VNode) (hp : n.AllElements p) (hq : n.AllElements q) :
    n.AllElements fun tag attributes children =>
      p tag attributes children ∧ q tag attributes children := by
  cases n with
  | text s => trivial
  | element tag attributes children =>
      exact ⟨⟨hp.1, hq.1⟩, AllElementsIn.and children hp.2 hq.2⟩

/-- Two properties of every element of some trees. -/
theorem AllElementsIn.and (ns : List VNode) (hp : AllElementsIn p ns) (hq : AllElementsIn q ns) :
    AllElementsIn (fun tag attributes children =>
      p tag attributes children ∧ q tag attributes children) ns := by
  cases ns with
  | nil => trivial
  | cons n ns => exact ⟨AllElements.and n hp.1 hq.1, AllElementsIn.and ns hp.2 hq.2⟩

end

end VNode

namespace Template

/-- A property of elements of templates: of the tag, the attributes, the children and the place. -/
abbrev ElementProperty := String → List Attribute → List Node → Location → Prop

namespace Node

mutual

/-- Every element of a node of a template, also below it and in the fallbacks of slots, has a
property. -/
def AllElements (q : ElementProperty) : Node → Prop
  | .element tag attributes children location =>
    q tag attributes children location ∧ AllElementsIn q children
  | .text _ _ => True
  | .expression _ _ => True
  | .slot _ fallback _ => AllElementsIn q fallback
  | .cond _ _ children _ => AllElementsIn q children
  | .chain branches _ => AllElementsInBranches q branches
  | .each _ _ _ children _ => AllElementsIn q children

/-- Every element of neighbouring nodes has a property. -/
def AllElementsIn (q : ElementProperty) : List Node → Prop
  | [] => True
  | n :: ns => n.AllElements q ∧ AllElementsIn q ns

/-- Every element in the branches of a chain has a property. -/
def AllElementsInBranches (q : ElementProperty) : List (Option Expression × List Node) → Prop
  | [] => True
  | (_, children) :: rest => AllElementsIn q children ∧ AllElementsInBranches q rest

end

/-- An element itself has no faults. -/
def HasNoFaults : ElementProperty := fun tag attributes children location =>
  elementFaults tag attributes (!children.isEmpty) location = []

mutual

/-- No element of a node without faults has faults. -/
theorem allElements_of_faults (n : Node) (h : n.faults = []) : n.AllElements HasNoFaults := by
  cases n with
  | element tag attributes children location =>
      rw [faults, List.append_eq_nil_iff] at h
      exact ⟨h.1, allElementsIn_of_listFaults children h.2⟩
  | text value location => trivial
  | expression e location => trivial
  | slot name fallback location =>
      rw [faults, List.append_eq_nil_iff] at h
      exact allElementsIn_of_listFaults fallback h.2
  | cond condition negated children location =>
      rw [faults] at h
      exact allElementsIn_of_listFaults children h
  | chain branches location =>
      rw [faults, List.append_eq_nil_iff] at h
      exact allElementsIn_of_branchFaults branches h.2
  | each collection item index children location =>
      rw [faults, List.append_eq_nil_iff] at h
      exact allElementsIn_of_listFaults children h.2

/-- **No element of nodes without faults has faults.** -/
theorem allElementsIn_of_listFaults (ns : List Node) (h : listFaults ns = []) :
    AllElementsIn HasNoFaults ns := by
  cases ns with
  | nil => trivial
  | cons n ns =>
      rw [listFaults, List.append_eq_nil_iff] at h
      exact ⟨allElements_of_faults n h.1, allElementsIn_of_listFaults ns h.2⟩

/-- No element in branches without faults has faults. -/
theorem allElementsIn_of_branchFaults (branches : List (Option Expression × List Node))
    (h : branchFaults branches = []) : AllElementsInBranches HasNoFaults branches := by
  cases branches with
  | nil => trivial
  | cons branch rest =>
      obtain ⟨condition, children⟩ := branch
      rw [branchFaults, List.append_eq_nil_iff] at h
      exact ⟨allElementsIn_of_listFaults children h.1, allElementsIn_of_branchFaults rest h.2⟩

end

end Node

/-! ### Evaluation -/

/-- What a list of items comes to, one part for each item. -/
theorem mem_of_mapM_eq_ok {α β ε : Type} {f : α → Except ε β} {items : List α} {parts : List β}
    (h : items.mapM f = .ok parts) {b : β} (hb : b ∈ parts) : ∃ a ∈ items, f a = .ok b := by
  induction items generalizing parts with
  | nil =>
      cases h
      exact absurd hb (by simp)
  | cons a rest ih =>
      rw [List.mapM_cons] at h
      cases hfirst : f a with
      | error e => rw [hfirst] at h; cases h
      | ok first =>
          cases hrest : rest.mapM f with
          | error e => rw [hfirst, hrest] at h; cases h
          | ok others =>
              rw [hfirst, hrest] at h
              cases h
              rcases List.mem_cons.mp hb with rfl | hb
              · exact ⟨a, List.mem_cons_self .., hfirst⟩
              · obtain ⟨other, hmem, hother⟩ := ih hrest hb
                exact ⟨other, List.mem_cons_of_mem _ hmem, hother⟩

/-- Elements with one property are evaluated to elements with another one, whatever the values of
names are, and whatever their children come to. -/
def Gives (q : ElementProperty) (p : String → OrderedMap String → List VNode → Prop) : Prop :=
  ∀ tag attributes children location, q tag attributes children location →
    ∀ (names : String → Value) (nodes : List VNode), (children = [] → nodes = []) →
      p tag.toLower (attributeValues names attributes) nodes

/-- Every element of whatever content from outside comes to has a property. -/
def Projection.All (contents : Projection)
    (p : String → OrderedMap String → List VNode → Prop) : Prop :=
  ∀ slot nodes, contents slot = some (.ok nodes) → VNode.AllElementsIn p nodes

namespace Node

variable {contents : Projection} {q : ElementProperty}
  {p : String → OrderedMap String → List VNode → Prop}

mutual

/-- The elements that a node comes to. -/
theorem allElementsIn_evaluate (hgives : Gives q p) (hc : contents.All p) (n : Node)
    (hn : n.AllElements q) {names : String → Value} {nodes : List VNode}
    (h : n.evaluate contents names = .ok nodes) : VNode.AllElementsIn p nodes := by
  cases n with
  | element tag attributes children location =>
      rw [evaluate] at h
      cases hcontent : evaluateList contents names children with
      | error e => rw [hcontent] at h; cases h
      | ok content =>
          rw [hcontent] at h
          cases h
          refine ⟨⟨hgives tag attributes children location hn.1 names content fun hnil => ?_,
            allElementsIn_evaluateList hgives hc children hn.2 hcontent⟩, trivial⟩
          rw [hnil, evaluateList] at hcontent
          cases hcontent
          rfl
  | text value location =>
      rw [evaluate] at h
      cases h
      exact ⟨trivial, trivial⟩
  | expression e location =>
      rw [evaluate] at h
      cases h
      exact ⟨trivial, trivial⟩
  | slot name fallback location =>
      rw [evaluate] at h
      cases hslot : contents (slotName name) with
      | none =>
          rw [hslot] at h
          exact allElementsIn_evaluateList hgives hc fallback hn h
      | some projected =>
          rw [hslot] at h
          obtain rfl : projected = .ok nodes := h
          exact hc _ _ hslot
  | cond condition negated children location =>
      rw [evaluate] at h
      split at h
      · exact allElementsIn_evaluateList hgives hc children hn h
      · cases h
        trivial
  | chain branches location =>
      rw [evaluate] at h
      exact allElementsIn_evaluateChain hgives hc branches hn h
  | each collection item index children location =>
      rw [evaluate] at h
      split at h
      · rename_i items _
        cases hparts : items.zipIdx.mapM fun entry =>
            evaluateList contents (bindLoop names item index entry.1 entry.2) children with
        | error e => rw [hparts] at h; cases h
        | ok parts =>
            rw [hparts] at h
            cases h
            refine VNode.allElementsIn_flatten fun ns hmem => ?_
            obtain ⟨entry, -, hentry⟩ := mem_of_mapM_eq_ok hparts hmem
            exact allElementsIn_evaluateList hgives hc children hn hentry
      · cases h
        trivial
      · cases h

/-- **The elements of a tree are elements of its template**, or of the content from outside. -/
theorem allElementsIn_evaluateList (hgives : Gives q p) (hc : contents.All p) (ns : List Node)
    (hns : AllElementsIn q ns) {names : String → Value} {nodes : List VNode}
    (h : evaluateList contents names ns = .ok nodes) : VNode.AllElementsIn p nodes := by
  cases ns with
  | nil =>
      rw [evaluateList] at h
      cases h
      trivial
  | cons n ns =>
      rw [evaluateList] at h
      cases hfirst : evaluate contents names n with
      | error e => rw [hfirst] at h; cases h
      | ok first =>
          cases hrest : evaluateList contents names ns with
          | error e => rw [hfirst, hrest] at h; cases h
          | ok rest =>
              rw [hfirst, hrest] at h
              cases h
              exact VNode.allElementsIn_append.mpr
                ⟨allElementsIn_evaluate hgives hc n hns.1 hfirst,
                  allElementsIn_evaluateList hgives hc ns hns.2 hrest⟩

/-- The elements that the branches of a chain come to. -/
theorem allElementsIn_evaluateChain (hgives : Gives q p) (hc : contents.All p)
    (branches : List (Option Expression × List Node)) (hbranches : AllElementsInBranches q branches)
    {names : String → Value} {nodes : List VNode}
    (h : evaluateChain contents names branches = .ok nodes) : VNode.AllElementsIn p nodes := by
  cases branches with
  | nil =>
      rw [evaluateChain] at h
      cases h
      trivial
  | cons branch rest =>
      obtain ⟨condition, children⟩ := branch
      rw [evaluateChain] at h
      split at h
      · exact allElementsIn_evaluateList hgives hc children hbranches.1 h
      · exact allElementsIn_evaluateChain hgives hc rest hbranches.2 h

end

end Node

/-- Every element of a template, also in the fallbacks of its slots, has a property. -/
def AllElements (q : ElementProperty) (t : Template) : Prop := Node.AllElementsIn q t.nodes

end Template

end TwinRender
