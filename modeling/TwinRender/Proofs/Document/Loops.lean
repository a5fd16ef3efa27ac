import TwinRender.Proofs.Document.Held

/-!
# Loops over documents

A document is read in three ways, none of which says how long it takes: up from a node to its
parents until another node or the top is met, down from a node with a stack of nodes that are still
to come, and down again by a call for each child. Here each of them is a relation, whose derivations
are the runs that end. In a sound document all of them do, and come to what the store is asked for
with a bound on its size.

## Main definitions

* `Document.Climbs`: the way up from a node, until another one is met.
* `Document.Visits`: the way down, with a stack.
* `Document.Captures`: the way down, child by child.

## Main results

* `Document.Sound.climbs`: **the way up ends**, and meets what is among the ancestors.
* `Document.Sound.visits`: **the way down ends**, and visits the descendants.
* `Document.Sound.captures`: **capturing ends**, and gives the tree.
-/

namespace TwinRender.Document

open Snapshot (listIds listNodes)

variable {d : Document}

/-- The way up from a node ends, and has met the target or has not. -/
inductive Climbs (d : Document) (target : NodeId) : NodeId → Bool → Prop
  /-- The target is met. -/
  | found : Climbs d target target true
  /-- A node without a parent is met, which is another one. -/
  | top {x : NodeId} (hne : x ≠ target) (h : d.parent? x = none) : Climbs d target x false
  /-- Another node is met, and the way goes on with its parent. -/
  | up {x p : NodeId} {met : Bool} (hne : x ≠ target) (h : d.parent? x = some p)
    (hrest : Climbs d target p met) : Climbs d target x met

/-- The way down ends, given the nodes that are still to come, and has visited some nodes in this
order. The children of a node come before everything else. -/
inductive Visits (d : Document) : List NodeId → List NodeId → Prop
  /-- Nothing is to come. -/
  | done : Visits d [] []
  /-- The next node is visited. -/
  | next {x : NodeId} {stack visited : List NodeId} (h : Visits d (d.children x ++ stack) visited) :
    Visits d (x :: stack) (x :: visited)

/-- Capturing a node ends with a tree: the node and what is captured of its children. -/
inductive Captures (d : Document) : NodeId → Snapshot → Prop
  /-- A node that is known. -/
  | node {id : NodeId} {c : Cell} {trees : List Snapshot} (h : d.cell? id = some c)
    (hchildren : List.Forall₂ (Captures d) c.children trees) :
    Captures d id (.node id c.payload trees)

/-! ### The way up -/

/-- The way up meets exactly what is above. -/
theorem Climbs.eq_true_iff {target x : NodeId} {met : Bool} (h : d.Climbs target x met) :
    met = true ↔ d.Above target x := by
  induction h with
  | found => exact iff_of_true rfl (Above.refl d target)
  | top hne htop =>
      refine iff_of_false Bool.false_ne_true fun habove => ?_
      rcases habove.eq_or_parent with heq | ⟨p, hp, -⟩
      · exact hne heq
      · rw [htop] at hp
        cases hp
  | up hne hparent _ ih =>
      refine ih.trans ⟨Above.of_parent hparent, fun habove => ?_⟩
      rcases habove.eq_or_parent with heq | ⟨p, hp, hrest⟩
      · exact absurd heq hne
      · rw [hparent] at hp
        cases hp
        exact hrest

namespace Sound

/-- Where every node stands lower than its parent, the way up ends. -/
theorem exists_climbs (hd : d.Sound) (target x : NodeId) : ∃ met, d.Climbs target x met := by
  obtain ⟨rank, hrank⟩ := hd.acyclic
  induction hn : rank x using Nat.strong_induction_on generalizing x with
  | _ n ih =>
      by_cases heq : x = target
      · exact ⟨true, heq ▸ .found⟩
      · cases hparent : d.parent? x with
        | none => exact ⟨false, .top heq hparent⟩
        | some p =>
            obtain ⟨met, hmet⟩ := ih (rank p) (hn ▸ hrank x p hparent) p rfl
            exact ⟨met, .up heq hparent hmet⟩

/-- **The way up ends**, at every node, and meets exactly what is among its ancestors. -/
theorem climbs (hd : d.Sound) (target x : NodeId) :
    d.Climbs target x ((d.ancestors x).contains target) := by
  by_cases hx : x < d.cells.size
  · obtain ⟨met, hmet⟩ := hd.exists_climbs target x
    have heq : (d.ancestors x).contains target = met := by
      rw [Bool.eq_iff_iff, hmet.eq_true_iff, List.contains_iff_mem, hd.mem_ancestors_iff hx]
    rwa [heq]
  · -- a node that is not known has no parent
    have hparent := parent?_eq_none (Nat.le_of_not_lt hx)
    have hancestors : d.ancestors x = [x] := by
      rw [ancestors]
      cases d.cells.size with
      | zero => rfl
      | succ n => rw [climb, hparent]
    rw [hancestors]
    by_cases heq : x = target
    · subst heq
      have hself : [x].contains x = true := by simp
      rw [hself]
      exact .found
    · have hother : [x].contains target = false := by simpa using Ne.symm heq
      rw [hother]
      exact .top heq hparent

end Sound

/-! ### The way down -/

mutual

/-- A tree that is held is what there is below its topmost node. -/
theorem Holds.treeTo_eq {parent : Option NodeId} (t : Snapshot) (h : d.Holds parent t) {n : Nat}
    (hn : t.ids.length ≤ n + 1) : d.treeTo n t.id = t := by
  obtain ⟨id, payload, children⟩ := t
  have hpayload : (d.payload? id).getD .document = payload := by
    rw [payload?_of_cell? h.1, Option.getD_some]
  rw [Snapshot.ids_node, List.length_cons, Nat.add_le_add_iff_right] at hn
  cases n with
  | zero =>
      -- there is room for no more than the topmost node
      cases children with
      | nil => rw [Snapshot.id, treeTo, hpayload]
      | cons t ts =>
          rw [Snapshot.listIds_cons, List.length_append] at hn
          have hpos := List.length_pos_of_mem (Snapshot.id_mem_ids t)
          omega
  | succ n =>
      rw [Snapshot.id, treeTo, hpayload, children_of_cell? h.1,
        HoldsAll.map_treeTo_eq children h.2 hn]

/-- Trees that are held are what there is below their topmost nodes. -/
theorem HoldsAll.map_treeTo_eq {parent : Option NodeId} (ts : List Snapshot)
    (h : d.HoldsAll parent ts) {n : Nat} (hn : (listIds ts).length ≤ n + 1) :
    ((ts.map Snapshot.id).map fun c => d.treeTo n c) = ts := by
  cases ts with
  | nil => rfl
  | cons t ts =>
      rw [Snapshot.listIds_cons, List.length_append] at hn
      rw [List.map_cons, List.map_cons, Holds.treeTo_eq t h.1 (by omega),
        HoldsAll.map_treeTo_eq ts h.2 (by omega)]

end

mutual

/-- A tree that is held is captured. -/
theorem Holds.captures {parent : Option NodeId} (t : Snapshot) (h : d.Holds parent t) :
    d.Captures t.id t := by
  obtain ⟨id, payload, children⟩ := t
  exact .node h.1 (HoldsAll.captures children h.2)

/-- Trees that are held are captured. -/
theorem HoldsAll.captures {parent : Option NodeId} (ts : List Snapshot)
    (h : d.HoldsAll parent ts) : List.Forall₂ d.Captures (ts.map Snapshot.id) ts := by
  cases ts with
  | nil => exact .nil
  | cons t ts => exact .cons (Holds.captures t h.1) (HoldsAll.captures ts h.2)

end

mutual

/-- A tree that is held is visited before what is still to come. -/
theorem Holds.visits {parent : Option NodeId} (t : Snapshot) (h : d.Holds parent t)
    {stack visited : List NodeId} (hrest : d.Visits stack visited) :
    d.Visits (t.id :: stack) (t.ids ++ visited) := by
  obtain ⟨id, payload, children⟩ := t
  have hbelow := HoldsAll.visits children h.2 hrest
  rw [Snapshot.ids_node, List.cons_append]
  refine .next ?_
  rwa [Snapshot.id, children_of_cell? h.1]

/-- Trees that are held are visited before what is still to come. -/
theorem HoldsAll.visits {parent : Option NodeId} (ts : List Snapshot) (h : d.HoldsAll parent ts)
    {stack visited : List NodeId} (hrest : d.Visits stack visited) :
    d.Visits (ts.map Snapshot.id ++ stack) (listIds ts ++ visited) := by
  cases ts with
  | nil => exact hrest
  | cons t ts =>
      have hbehind := HoldsAll.visits ts h.2 hrest
      rw [Snapshot.listIds_cons, List.append_assoc]
      exact Holds.visits t h.1 hbehind

end

namespace Sound

/-- A tree in a sound document has no more nodes than the store. -/
theorem length_ids_le (hd : d.Sound) {parent : Option NodeId} {t : Snapshot}
    (h : d.Holds parent t) : t.ids.length ≤ d.cells.size := by
  have hsubset : t.ids ⊆ List.range d.cells.size :=
    fun _ hi => List.mem_range.mpr (Holds.lt_size t h hi)
  simpa using ((nodup_ids hd t h).subperm hsubset).length_le

/-- A tree that is held is the tree below its topmost node. -/
theorem tree_eq (hd : d.Sound) {parent : Option NodeId} {t : Snapshot}
    (h : d.Holds parent t) : d.tree t.id = t :=
  Holds.treeTo_eq t h (Nat.le_succ_of_le (hd.length_ids_le h))

/-- The tree below a known node is held. -/
theorem holds_tree (hd : d.Sound) {x : NodeId} (hx : x < d.cells.size) :
    (d.tree x).id = x ∧ d.Holds (d.parent? x) (d.tree x) := by
  obtain ⟨t, rfl, hheld⟩ := hd.exists_holds hx
  rw [hd.tree_eq hheld]
  exact ⟨rfl, hheld⟩

/-- **Capturing ends**, at every known node, with the tree below it. -/
theorem captures (hd : d.Sound) {x : NodeId} (hx : x < d.cells.size) :
    d.Captures x (d.tree x) := by
  obtain ⟨hid, hheld⟩ := hd.holds_tree hx
  have hcaptures := Holds.captures (d.tree x) hheld
  rwa [hid] at hcaptures

/-- **The way down ends**, at every node, and visits its descendants. -/
theorem visits (hd : d.Sound) (x : NodeId) : d.Visits (d.children x) (d.descendants x) := by
  by_cases hx : x < d.cells.size
  · obtain ⟨hid, hheld⟩ := hd.holds_tree hx
    have hcell := hheld.cell
    rw [hid] at hcell
    have hvisits := HoldsAll.visits (d.tree x).children hheld.below .done
    rw [List.append_nil, List.append_nil] at hvisits
    rwa [children_of_cell? hcell]
  · -- a node that is not known has no children
    have hchildren := children_eq_nil (Nat.le_of_not_lt hx)
    have hdescendants : d.descendants x = [] := by
      rw [descendants, tree]
      cases d.cells.size with
      | zero => rfl
      | succ n =>
          rw [treeTo, hchildren]
          rfl
    rw [hchildren, hdescendants]
    exact .done

end Sound

end TwinRender.Document
