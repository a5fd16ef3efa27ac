import TwinRender.Document.Snapshot
import TwinRender.Proofs.Document.Sound

/-!
# Trees in documents

A document holds a tree when the nodes of the tree are in the store, with their payloads and their
neighbours. A tree stays where it is as long as its nodes are not changed. In a sound document
there is a tree below every known node, and no node stands twice in it.

## Main definitions

* `Snapshot.ids`, `Snapshot.listIds`: the numbers in trees, in the order of the document.
* `Document.Holds`, `Document.HoldsAll`: a document holds trees below a node.

## Main results

* `Document.Holds.frame`: a tree whose nodes are not changed is still held.
* `Document.Sound.exists_holds`: every known node of a sound document has a tree.
* `Document.Sound.nodup_ids`: no node stands twice in a tree.
-/

namespace TwinRender

namespace Snapshot

/-- The numbers in a tree, in the order of the document. -/
def ids (s : Snapshot) : List NodeId := s.nodes.map id

/-- The numbers in some trees, in the order of the document. -/
def listIds (ts : List Snapshot) : List NodeId := (listNodes ts).map id

/-- The number of a tree comes before the numbers below it. -/
theorem ids_node (id : NodeId) (payload : Payload) (children : List Snapshot) :
    (node id payload children).ids = id :: listIds children := by
  rw [ids, nodes, List.map_cons]
  rfl

/-- There are no numbers in no trees. -/
@[simp] theorem listIds_nil : listIds [] = [] := rfl

/-- The numbers in some trees, tree by tree. -/
@[simp] theorem listIds_cons (t : Snapshot) (ts : List Snapshot) :
    listIds (t :: ts) = t.ids ++ listIds ts := by
  rw [listIds, listNodes, List.map_append]
  rfl

/-- The numbers in some trees and some more. -/
theorem listIds_append (ts us : List Snapshot) : listIds (ts ++ us) = listIds ts ++ listIds us := by
  induction ts with
  | nil => rfl
  | cons t ts ih => rw [List.cons_append, listIds_cons, listIds_cons, ih, List.append_assoc]

/-- The number of a tree is in the tree. -/
theorem id_mem_ids (t : Snapshot) : t.id ∈ t.ids := by
  obtain ⟨id, payload, children⟩ := t
  rw [ids_node]
  exact List.mem_cons_self ..

/-- The numbers in some trees are the numbers in each of them. -/
theorem mem_listIds {ts : List Snapshot} {i : NodeId} : i ∈ listIds ts ↔ ∃ t ∈ ts, i ∈ t.ids := by
  induction ts with
  | nil => simp
  | cons t ts ih => simp [ih]

end Snapshot

namespace Document

open Snapshot (listIds)

variable {d d' : Document}

mutual

/-- A document holds a tree, whose topmost node has a parent or stands nowhere. -/
def Holds (d : Document) (parent : Option NodeId) : Snapshot → Prop
  | .node id payload children =>
    d.cell? id = some ⟨payload, parent, children.map Snapshot.id⟩ ∧ HoldsAll d (some id) children

/-- A document holds some trees with the same parent. -/
def HoldsAll (d : Document) (parent : Option NodeId) : List Snapshot → Prop
  | [] => True
  | t :: ts => Holds d parent t ∧ HoldsAll d parent ts

end

/-- The topmost node of a tree is in the store. -/
theorem Holds.cell {parent : Option NodeId} {t : Snapshot} (h : d.Holds parent t) :
    d.cell? t.id = some ⟨t.payload, parent, t.children.map Snapshot.id⟩ := by
  obtain ⟨id, payload, children⟩ := t
  exact h.1

/-- The trees below the topmost node of a tree are held. -/
theorem Holds.below {parent : Option NodeId} {t : Snapshot} (h : d.Holds parent t) :
    d.HoldsAll (some t.id) t.children := by
  obtain ⟨id, payload, children⟩ := t
  exact h.2

/-- Each of some trees is held. -/
theorem holdsAll_iff {parent : Option NodeId} {ts : List Snapshot} :
    d.HoldsAll parent ts ↔ ∀ t ∈ ts, d.Holds parent t := by
  induction ts with
  | nil => simp [HoldsAll]
  | cons t ts ih => rw [HoldsAll, ih, List.forall_mem_cons]

/-- Trees one behind the other are held. -/
theorem holdsAll_append {parent : Option NodeId} {ts us : List Snapshot} :
    d.HoldsAll parent (ts ++ us) ↔ d.HoldsAll parent ts ∧ d.HoldsAll parent us := by
  simp only [holdsAll_iff, List.mem_append, or_imp, forall_and]

/-- Trees of nodes are put together to a list of trees. -/
theorem exists_holdsAll {parent : Option NodeId} {children : List NodeId}
    (h : ∀ c ∈ children, ∃ t : Snapshot, t.id = c ∧ d.Holds parent t) :
    ∃ ts : List Snapshot, ts.map Snapshot.id = children ∧ d.HoldsAll parent ts := by
  induction children with
  | nil => exact ⟨[], rfl, trivial⟩
  | cons c rest ih =>
      obtain ⟨t, ht, hheld⟩ := h c (List.mem_cons_self ..)
      obtain ⟨ts, hts, hrest⟩ := ih fun other hother => h other (List.mem_cons_of_mem _ hother)
      exact ⟨t :: ts, by rw [List.map_cons, ht, hts], hheld, hrest⟩

mutual

/-- **A tree whose nodes are not changed is still held.** -/
theorem Holds.frame {parent : Option NodeId} (t : Snapshot) (h : d.Holds parent t)
    (hsame : ∀ i ∈ t.ids, d'.cell? i = d.cell? i) : d'.Holds parent t := by
  obtain ⟨id, payload, children⟩ := t
  simp only [Snapshot.ids_node, List.mem_cons, forall_eq_or_imp] at hsame
  exact ⟨hsame.1.trans h.1, HoldsAll.frame children h.2 hsame.2⟩

/-- Trees whose nodes are not changed are still held. -/
theorem HoldsAll.frame {parent : Option NodeId} (ts : List Snapshot) (h : d.HoldsAll parent ts)
    (hsame : ∀ i ∈ listIds ts, d'.cell? i = d.cell? i) : d'.HoldsAll parent ts := by
  cases ts with
  | nil => trivial
  | cons t ts =>
      simp only [Snapshot.listIds_cons, List.mem_append, or_imp, forall_and] at hsame
      exact ⟨Holds.frame t h.1 hsame.1, HoldsAll.frame ts h.2 hsame.2⟩

end

/-- A tree whose topmost node has got another parent or payload is held with it. -/
theorem Holds.change {parent parent' : Option NodeId} {t : Snapshot} (h : d.Holds parent t)
    {payload : Payload}
    (hcell : d'.cell? t.id = some ⟨payload, parent', t.children.map Snapshot.id⟩)
    (hsame : ∀ i ∈ listIds t.children, d'.cell? i = d.cell? i) :
    d'.Holds parent' (.node t.id payload t.children) :=
  ⟨hcell, HoldsAll.frame t.children h.below hsame⟩

mutual

/-- The nodes of a tree that is held are known. -/
theorem Holds.lt_size {parent : Option NodeId} (t : Snapshot) (h : d.Holds parent t)
    {i : NodeId} (hi : i ∈ t.ids) : i < d.cells.size := by
  obtain ⟨id, payload, children⟩ := t
  rw [Snapshot.ids_node, List.mem_cons] at hi
  rcases hi with rfl | hi
  · exact lt_size_of_cell? h.1
  · exact HoldsAll.lt_size children h.2 hi

/-- The nodes of trees that are held are known. -/
theorem HoldsAll.lt_size {parent : Option NodeId} (ts : List Snapshot)
    (h : d.HoldsAll parent ts) {i : NodeId} (hi : i ∈ listIds ts) : i < d.cells.size := by
  cases ts with
  | nil => cases hi
  | cons t ts =>
      rw [Snapshot.listIds_cons, List.mem_append] at hi
      rcases hi with hi | hi
      · exact Holds.lt_size t h.1 hi
      · exact HoldsAll.lt_size ts h.2 hi

end

mutual

/-- The topmost node of a tree is above all nodes of it. -/
theorem Holds.above {parent : Option NodeId} (t : Snapshot) (h : d.Holds parent t)
    {i : NodeId} (hi : i ∈ t.ids) : d.Above t.id i := by
  obtain ⟨id, payload, children⟩ := t
  rw [Snapshot.ids_node, List.mem_cons] at hi
  rcases hi with rfl | hi
  · exact Above.refl d i
  · exact HoldsAll.above children h.2 hi

/-- The parent of some trees is above all nodes of them. -/
theorem HoldsAll.above {parent : NodeId} (ts : List Snapshot) (h : d.HoldsAll (some parent) ts)
    {i : NodeId} (hi : i ∈ listIds ts) : d.Above parent i := by
  cases ts with
  | nil => cases hi
  | cons t ts =>
      rw [Snapshot.listIds_cons, List.mem_append] at hi
      rcases hi with hi | hi
      · exact (Above.of_parent (parent?_of_cell? h.1.cell) (Above.refl d parent)).trans
          (Holds.above t h.1 hi)
      · exact HoldsAll.above ts h.2 hi

end

namespace Sound

/-- The parent of some trees is in none of them. -/
theorem not_mem_listIds (hd : d.Sound) {parent : NodeId} {ts : List Snapshot}
    (h : d.HoldsAll (some parent) ts) : parent ∉ listIds ts := by
  intro hmem
  obtain ⟨t, ht, hi⟩ := Snapshot.mem_listIds.mp hmem
  have hheld := holdsAll_iff.mp h t ht
  exact hd.not_above_parent (parent?_of_cell? hheld.cell) (Holds.above t hheld hi)

/-- Two trees with the same parent have no node in common. -/
theorem disjoint_ids (hd : d.Sound) {parent : NodeId} {t u : Snapshot}
    (ht : d.Holds (some parent) t) (hu : d.Holds (some parent) u) (hne : t.id ≠ u.id) :
    t.ids.Disjoint u.ids := by
  -- of two nodes with the same parent, neither is above the other
  have hapart {v w : Snapshot} (hv : d.Holds (some parent) v) (hw : d.Holds (some parent) w)
      (hvw : v.id ≠ w.id) : ¬ d.Above v.id w.id := by
    intro habove
    rcases habove.eq_or_parent with heq | ⟨p, hp, hrest⟩
    · exact hvw heq.symm
    · obtain rfl : parent = p := by
        have hparent := parent?_of_cell? hw.cell
        exact Option.some.inj (hparent.symm.trans hp)
      exact hd.not_above_parent (parent?_of_cell? hv.cell) hrest
  intro i hit hiu
  rcases (Holds.above t ht hit).total (Holds.above u hu hiu) with h | h
  · exact hapart ht hu hne h
  · exact hapart hu ht (Ne.symm hne) h

mutual

/-- **No node stands twice in a tree.** -/
theorem nodup_ids (hd : d.Sound) {parent : Option NodeId} (t : Snapshot)
    (h : d.Holds parent t) : t.ids.Nodup := by
  obtain ⟨id, payload, children⟩ := t
  rw [Snapshot.ids_node, List.nodup_cons]
  refine ⟨hd.not_mem_listIds h.2, nodup_listIds hd children h.2 ?_⟩
  have hnodup := hd.nodup id
  rwa [children_of_cell? h.1] at hnodup

/-- No node stands twice in trees with the same parent. -/
theorem nodup_listIds (hd : d.Sound) {parent : NodeId} (ts : List Snapshot)
    (h : d.HoldsAll (some parent) ts) (hnodup : (ts.map Snapshot.id).Nodup) :
    (listIds ts).Nodup := by
  cases ts with
  | nil => exact List.nodup_nil
  | cons t ts =>
      rw [List.map_cons, List.nodup_cons] at hnodup
      rw [Snapshot.listIds_cons, List.nodup_append']
      refine ⟨nodup_ids hd t h.1, nodup_listIds hd ts h.2 hnodup.2, fun i hit his => ?_⟩
      obtain ⟨u, hu, hiu⟩ := Snapshot.mem_listIds.mp his
      have hne : t.id ≠ u.id := fun heq => hnodup.1 (List.mem_map.mpr ⟨u, hu, heq.symm⟩)
      exact hd.disjoint_ids h.1 (holdsAll_iff.mp h.2 u hu) hne hit hiu

end

/-- **Every known node of a sound document has a tree.** -/
theorem exists_holds (hd : d.Sound) {x : NodeId} (hx : x < d.cells.size) :
    ∃ t : Snapshot, t.id = x ∧ d.Holds (d.parent? x) t := by
  obtain ⟨rank, hrank⟩ := hd.acyclic
  -- the ranks of known nodes are bounded, and grow on the way down
  obtain ⟨bound, hbound⟩ : ∃ bound, ∀ y < d.cells.size, rank y ≤ bound :=
    ⟨(Finset.range d.cells.size).sup rank,
      fun y hy => Finset.le_sup (f := rank) (Finset.mem_range.mpr hy)⟩
  induction hn : bound - rank x using Nat.strong_induction_on generalizing x with
  | _ n ih =>
      obtain ⟨c, hc⟩ := Option.isSome_iff_exists.mp (isSome_cell?_iff.mpr hx)
      have hbelow (y : NodeId) (hy : y ∈ c.children) :
          ∃ t : Snapshot, t.id = y ∧ d.Holds (some x) t := by
        have hmem : y ∈ d.children x := by rwa [children_of_cell? hc]
        have hparent := (hd.linked y x).mpr hmem
        have hknown := hd.child_lt_size hmem
        have hlt := hrank y x hparent
        have hle := hbound y hknown
        have htree := ih (bound - rank y) (by omega) hknown rfl
        rwa [hparent] at htree
      obtain ⟨ts, hts, hheld⟩ := exists_holdsAll hbelow
      refine ⟨.node x c.payload ts, rfl, ?_, hheld⟩
      rw [hc, hts, parent?_of_cell? hc]

end Sound

end Document

end TwinRender
