import TwinRender.Document.Traversal
import TwinRender.Proofs.Document.Top

/-!
# What traversals visit

A traversal is a loop over a stack, and the order of the document is a recursion over children. In a
sound document the loop ends, and both come to the same list: every node that is reached by way of
children is on it once, and the node that the traversal starts from is not. The nodes below the root
are thus the ones from which the way up comes to the root.

## Main definitions

* `Traversal.Yields`: a traversal ends, and has given some nodes.
* `Document.PreOrder`: a node and what is below it, in the order of the document.
* `Document.Reaches`: a node is below another by way of children.
* `Document.Traversed`: what a reader can rely on who asks for the nodes below a node.

## Main results

* `Document.Visits.yields`: a traversal visits what there is to visit.
* `Document.Sound.traverse_eq`: traversals visit the descendants.
* `Document.Sound.mem_descendants_iff`: the descendants are the nodes that are reached.
* `Document.Reachable.traversed`: **traversals are complete, and a node is attached when the root is
  its ancestor**.
-/

namespace TwinRender

/-- The numbers in some trees are put together tree by tree. -/
theorem Snapshot.flatten_map_ids (ts : List Snapshot) : (ts.map ids).flatten = listIds ts := by
  induction ts with
  | nil => rfl
  | cons t ts ih => rw [List.map_cons, List.flatten_cons, ih, listIds_cons]

namespace Traversal

variable {d : Document} {t : Traversal}

/-- The nodes that are still to come, in order. -/
def toCome (t : Traversal) : List NodeId := t.stack.toList.reverse

/-- A traversal starts with the children of its node. -/
@[simp] theorem toCome_start (d : Document) (id : NodeId) :
    (start d id).toCome = d.children id := by
  simp [start, toCome]

/-- A traversal without nodes to come is at its end. -/
theorem next?_of_nil (h : t.toCome = []) : t.next? d = none := by
  have hstack : t.stack = #[] := by simpa [toCome] using h
  simp [next?, hstack]

/-- The next node is the first one to come, and behind it come its children. -/
theorem next?_of_cons {id : NodeId} {rest : List NodeId} (h : t.toCome = id :: rest) :
    ∃ t', t.next? d = some (id, t') ∧ t'.toCome = d.children id ++ rest := by
  have hstack : t.stack = (rest.reverse.toArray.push id) := by
    rw [← Array.toList_inj, Array.toList_push, ← List.reverse_cons, ← h, toCome,
      List.reverse_reverse]
  refine ⟨⟨rest.reverse.toArray ++ (d.children id).reverse.toArray⟩, ?_, ?_⟩
  · simp [next?, hstack]
  · simp [toCome]

/-- A traversal ends, and has given these nodes in this order. -/
inductive Yields (d : Document) : Traversal → List NodeId → Prop
  /-- It is at its end. -/
  | done {t : Traversal} (h : t.next? d = none) : Yields d t []
  /-- It gives a node, and then others. -/
  | next {t rest : Traversal} {id : NodeId} {ids : List NodeId} (h : t.next? d = some (id, rest))
    (hrest : Yields d rest ids) : Yields d t (id :: ids)

/-- Collecting enough nodes gives all of them. -/
theorem Yields.collect_eq {ids : List NodeId} (h : t.Yields d ids) {n : Nat}
    (hn : ids.length ≤ n) : t.collect d n = ids := by
  induction h generalizing n with
  | done hnext =>
      cases n with
      | zero => rfl
      | succ n => rw [collect, hnext]
  | next hnext _ ih =>
      cases n with
      | zero => cases hn
      | succ n =>
          rw [collect, hnext]
          exact congrArg _ (ih (Nat.le_of_succ_le_succ hn))

end Traversal

namespace Document

variable {d : Document}

/-! ### The loop -/

/-- **A traversal visits what there is to visit.** -/
theorem Visits.yields {stack visited : List NodeId} (h : d.Visits stack visited) {t : Traversal}
    (ht : t.toCome = stack) : t.Yields d visited := by
  induction h generalizing t with
  | done => exact .done (Traversal.next?_of_nil ht)
  | next _ ih =>
      obtain ⟨rest, hnext, hrest⟩ := Traversal.next?_of_cons ht
      exact .next hnext (ih hrest)

/-- Where nothing is to come, nothing is visited. -/
theorem Visits.eq_nil {visited : List NodeId} (h : d.Visits [] visited) : visited = [] := by
  cases h
  rfl

/-- What is to come is visited. -/
theorem Visits.subset {stack visited : List NodeId} (h : d.Visits stack visited) :
    stack ⊆ visited := by
  induction h with
  | done => exact List.Subset.refl _
  | next _ ih =>
      refine List.cons_subset_cons _ fun y hy => ?_
      exact ih (List.mem_append_right _ hy)

/-- With a node its children are visited. -/
theorem Visits.children_subset {stack visited : List NodeId} (h : d.Visits stack visited)
    {x : NodeId} (hx : x ∈ visited) : d.children x ⊆ visited := by
  induction h with
  | done => cases hx
  | next h ih =>
      rcases List.mem_cons.mp hx with rfl | hx
      · exact fun y hy => List.mem_cons_of_mem _ (h.subset (List.mem_append_left _ hy))
      · exact fun y hy => List.mem_cons_of_mem _ (ih hx hy)

/-! ### The order of the document -/

/-- A node and what is below it, in the order of the document: the node, and then for each child in
turn the child and what is below it. -/
inductive PreOrder (d : Document) : NodeId → List NodeId → Prop
  /-- The parts of the children, one behind the other. -/
  | node {x : NodeId} {parts : List (List NodeId)}
    (h : List.Forall₂ (PreOrder d) (d.children x) parts) : PreOrder d x (x :: parts.flatten)

mutual

/-- The numbers in a tree that is held are in the order of the document. -/
theorem Holds.preOrder {parent : Option NodeId} (t : Snapshot) (h : d.Holds parent t) :
    d.PreOrder t.id t.ids := by
  obtain ⟨id, payload, children⟩ := t
  rw [Snapshot.ids_node, ← Snapshot.flatten_map_ids]
  refine .node ?_
  rw [Snapshot.id, children_of_cell? h.1]
  exact HoldsAll.preOrder children h.2

/-- The numbers in trees that are held are in the order of the document, tree by tree. -/
theorem HoldsAll.preOrder {parent : Option NodeId} (ts : List Snapshot)
    (h : d.HoldsAll parent ts) :
    List.Forall₂ d.PreOrder (ts.map Snapshot.id) (ts.map Snapshot.ids) := by
  cases ts with
  | nil => exact .nil
  | cons t ts => exact .cons (Holds.preOrder t h.1) (HoldsAll.preOrder ts h.2)

end

/-! ### What is reached -/

/-- The second node is below the first one, by way of children. -/
def Reaches (d : Document) (x y : NodeId) : Prop :=
  Relation.TransGen (fun p c => c ∈ d.children p) x y

namespace Sound

/-- What is reached from a node is what has the node above it. -/
theorem reaches_iff (hd : d.Sound) {x y : NodeId} :
    d.Reaches x y ↔ Relation.TransGen (fun c p => d.parent? c = some p) y x := by
  have hswap : (fun c p => d.parent? c = some p) = Function.swap fun p c => c ∈ d.children p := by
    funext c p
    exact propext (hd.linked c p)
  rw [hswap, Relation.transGen_swap]
  rfl

/-- **The descendants of a node are the nodes that are reached from it.** -/
theorem mem_descendants_iff (hd : d.Sound) {x y : NodeId} :
    y ∈ d.descendants x ↔ d.Reaches x y := by
  constructor
  · intro hy
    obtain ⟨c, hc, habove⟩ := hd.above_of_mem_descendants hy
    rw [hd.reaches_iff]
    exact Relation.TransGen.tail' habove ((hd.linked c x).mpr hc)
  · intro hy
    have hvisits := hd.visits x
    induction hy with
    | single hchild => exact hvisits.subset hchild
    | tail _ hchild ih => exact hvisits.children_subset ih hchild

/-- A tree begins with its node, and the descendants follow. -/
theorem ids_tree (hd : d.Sound) {x : NodeId} (hx : x < d.cells.size) :
    (d.tree x).ids = x :: d.descendants x := by
  obtain ⟨hid, -⟩ := hd.holds_tree hx
  rw [descendants]
  generalize d.tree x = t at hid
  obtain ⟨id, payload, children⟩ := t
  rw [Snapshot.ids_node]
  obtain rfl : id = x := hid
  rfl

/-- A node that is not known has no descendants. -/
theorem descendants_eq_nil (hd : d.Sound) {x : NodeId} (hx : d.cells.size ≤ x) :
    d.descendants x = [] := by
  have hvisits := hd.visits x
  rw [children_eq_nil hx] at hvisits
  exact hvisits.eq_nil

/-- A node and its descendants are in the order of the document. -/
theorem preOrder (hd : d.Sound) (x : NodeId) : d.PreOrder x (x :: d.descendants x) := by
  by_cases hx : x < d.cells.size
  · obtain ⟨hid, hheld⟩ := hd.holds_tree hx
    have horder := Holds.preOrder (d.tree x) hheld
    rwa [hid, hd.ids_tree hx] at horder
  · have hsize := Nat.le_of_not_lt hx
    have hnone : List.Forall₂ (PreOrder d) (d.children x) [] := by
      rw [children_eq_nil hsize]
      exact .nil
    rw [hd.descendants_eq_nil hsize]
    exact .node hnone

/-- Neither does a node stand among its own descendants, nor any of these twice. -/
theorem nodup_descendants (hd : d.Sound) (x : NodeId) : (x :: d.descendants x).Nodup := by
  by_cases hx : x < d.cells.size
  · obtain ⟨-, hheld⟩ := hd.holds_tree hx
    have hnodup := hd.nodup_ids (d.tree x) hheld
    rwa [hd.ids_tree hx] at hnodup
  · rw [hd.descendants_eq_nil (Nat.le_of_not_lt hx)]
    exact List.nodup_singleton x

/-- The traversal of a node ends, and gives its descendants. -/
theorem yields (hd : d.Sound) (x : NodeId) :
    (Traversal.start d x).Yields d (d.descendants x) :=
  (hd.visits x).yields (Traversal.toCome_start d x)

/-- **Traversals visit the descendants**: there is always room for all of them. -/
theorem traverse_eq (hd : d.Sound) (x : NodeId) : d.traverse x = d.descendants x := by
  refine (hd.yields x).collect_eq ?_
  by_cases hx : x < d.cells.size
  · obtain ⟨-, hheld⟩ := hd.holds_tree hx
    have hlength := hd.length_ids_le hheld
    rw [hd.ids_tree hx, List.length_cons] at hlength
    exact Nat.le_of_succ_le hlength
  · rw [hd.descendants_eq_nil (Nat.le_of_not_lt hx)]
    exact Nat.zero_le _

/-- **A node is attached when it is the root or a descendant of the root.** -/
theorem isAttached_iff_descendant (hd : d.Sound) {x : NodeId} :
    d.isAttached x = true ↔ x = root ∨ x ∈ d.descendants root := by
  rw [hd.isAttached_iff, hd.mem_descendants_iff, hd.reaches_iff, Above,
    Relation.reflTransGen_iff_eq_or_transGen, eq_comm]

/-- The text of a node is put together from the texts among the node and its descendants. -/
theorem textContent_eq (hd : d.Sound) (x : NodeId) :
    d.textContent x = String.join ((x :: d.descendants x).filterMap d.text?) := by
  rw [textContent, hd.traverse_eq, List.filterMap_cons]
  cases htext : d.text? x with
  | none => rfl
  | some s =>
      -- nothing is below a text
      have hpayload : d.payload? x = some (.text s) := by
        obtain ⟨payload, hpayload, hs⟩ := Option.bind_eq_some_iff.mp htext
        cases payload with
        | text s' => rw [hpayload, Option.some.inj hs]
        | document | element _ _ | comment _ => cases hs
      have hleaf : d.children x = [] := hd.children_eq_nil_of_data? (by rw [data?, hpayload]; rfl)
      have hvisits := hd.visits x
      rw [hleaf] at hvisits
      rw [hvisits.eq_nil]
      simp

end Sound

/-! ### What a reader can rely on -/

/-- What a reader can rely on who asks for the nodes below a node. -/
structure Traversed (d : Document) (x : NodeId) (ids : List NodeId) : Prop where
  /-- The loop ends, and has given these nodes. -/
  ends : (Traversal.start d x).Yields d ids
  /-- They are the ones that are collected. -/
  collected : d.traverse x = ids
  /-- Every node that is reached is one of them, and no other. -/
  complete : ∀ y, y ∈ ids ↔ d.Reaches x y
  /-- None of them is given twice. -/
  once : ids.Nodup
  /-- The node itself is not given. -/
  proper : x ∉ ids
  /-- They are in the order of the document. -/
  ordered : d.PreOrder x (x :: ids)
  /-- The first element with a tag is the first one of them that has it. -/
  first : ∀ tag, d.firstElementByTag? x tag = ids.find? (d.hasTag tag)
  /-- The elements with a tag are the ones of them that have it. -/
  all : ∀ tag, d.elementsByTag x tag = ids.filter (d.hasTag tag)
  /-- The text is that of the texts among the node and them. -/
  text : d.textContent x = String.join ((x :: ids).filterMap d.text?)

/-- **Traversals are complete, and to be attached is to be reached from the root.** In every document
that can be reached, and for every node, known or not, the traversal ends and visits what is below
the node, once and in the order of the document; the way up from the node ends as well, and says that
the node is attached exactly when it is the root or is visited from there. -/
theorem Reachable.traversed (h : d.Reachable) (x : NodeId) :
    d.Traversed x (d.descendants x) ∧ d.Climbs root x (d.isAttached x) ∧
      (d.isAttached x = true ↔ x = root ∨ x ∈ d.descendants root) := by
  have hd := h.sound
  obtain ⟨hproper, honce⟩ := List.nodup_cons.mp (hd.nodup_descendants x)
  refine ⟨?_, hd.climbs root x, hd.isAttached_iff_descendant⟩
  exact
    { ends := hd.yields x
      collected := hd.traverse_eq x
      complete := fun _ => hd.mem_descendants_iff
      once := honce
      proper := hproper
      ordered := hd.preOrder x
      first := fun tag => by rw [firstElementByTag?, hd.traverse_eq]
      all := fun tag => by rw [elementsByTag, hd.traverse_eq]
      text := hd.textContent_eq x }

/-- What comes to a list whose second item is put before the first one, and to an item that stands
nowhere. -/
def listOperations : List Operation :=
  [.createElement "ul", .createElement "LI", .createText "a", .appendChild 2 3, .appendChild 1 2,
    .createElement "li", .insertBefore 1 4 2, .appendChild root 1, .createElement "li"]

/-- The list is visited in the order of the document, and the item that stands nowhere is not. -/
theorem traversed_list :
    (empty.performAll listOperations).1.Reachable ∧
      (empty.performAll listOperations).1.Traversed root [1, 4, 2, 3] ∧
      (empty.performAll listOperations).1.isAttached 3 = true ∧
      (empty.performAll listOperations).1.isAttached 5 = false := by
  have hd : (empty.performAll listOperations).1.Reachable :=
    Reachable.performAll .empty listOperations
  have hbelow : (empty.performAll listOperations).1.descendants root = [1, 4, 2, 3] := by
    decide +kernel
  obtain ⟨htraversed, -, -⟩ := hd.traversed root
  obtain ⟨-, -, hattached⟩ := hd.traversed 3
  obtain ⟨-, -, hdetached⟩ := hd.traversed 5
  rw [hbelow] at htraversed hattached hdetached
  refine ⟨hd, htraversed, hattached.mpr (by decide), ?_⟩
  rw [Bool.eq_false_iff]
  exact fun hmem => absurd (hdetached.mp hmem) (by decide)

end Document

end TwinRender
