import TwinRender.Proofs.Hydration.Survival
import TwinRender.Proofs.Hydration.Whole

/-!
# The identity of nodes

Whoever holds the number of a node may want to know whether a pass has left it that node. The
records of the pass tell: a node below the root is still in the tree, under the same number, unless
it was replaced or one above it was. What stays keeps all values but the patched ones, and numbers
that are new in the tree were never given before.

## Main definitions

* `Document.nodeAt?`: the node at a path below a node.
* `KeepsIdentity`: what a pass does to nodes is what its records say.

## Main results

* `Document.Sound.exists_path`: every node below another that is no comment has a path.
* `Pass.Did.attached_cases`: what is in the tree after a part of a pass.
* `hydrateNodes_keepsIdentity`: **a pass replaces no other nodes than its records say**.
-/

namespace TwinRender

open Snapshot (live listIds listNodes)

variable {d d' : Document} {root : NodeId}

/-! ### Paths -/

/-- The node at a path below a node. The path gives the positions on the way down, among the
children that are no comments. -/
def Document.nodeAt? (d : Document) (id : NodeId) : List Nat → Option NodeId
  | [] => some id
  | i :: path => ((d.liveChildren id)[i]?).bind fun c => d.nodeAt? c path

/-- A path behind a path. -/
theorem Document.nodeAt?_append (d : Document) (id : NodeId) (path rest : List Nat) :
    d.nodeAt? id (path ++ rest) = (d.nodeAt? id path).bind fun c => d.nodeAt? c rest := by
  induction path generalizing id with
  | nil => rfl
  | cons i path ih =>
      rw [List.cons_append, nodeAt?, nodeAt?, Option.bind_assoc]
      exact congrArg _ (funext ih)

/-- The nodes at the paths below a tree are the ones that the document has there. -/
theorem Document.Holds.nodeAt?_eq {parent : Option NodeId} {t : Snapshot} (h : d.Holds parent t)
    (path : List Nat) : d.nodeAt? t.id path = (t.below? path).map Snapshot.id := by
  induction path generalizing parent t with
  | nil => rfl
  | cons i path ih =>
      rw [nodeAt?, Snapshot.below?,
        Pass.liveChildren_eq (children_of_cell? h.cell) h.below, List.getElem?_map]
      cases hc : (live t.children)[i]? with
      | none => rfl
      | some c =>
          have hmem : c ∈ t.children := List.mem_of_mem_filter (List.mem_of_getElem? hc)
          exact ih (holdsAll_iff.mp h.below c hmem)

/-- **Every node below another that is no comment has a path.** -/
theorem Document.Sound.exists_path (hd : d.Sound) {x : NodeId} (habove : d.Above root x)
    (hcomment : (d.payload? x).any Payload.isComment = false) :
    ∃ path, d.nodeAt? root path = some x := by
  induction habove using Relation.ReflTransGen.head_induction_on with
  | refl => exact ⟨[], rfl⟩
  | @head c p hparent _ ih =>
      have hmem := (hd.linked c p).mp hparent
      have hcontainer := hd.container p (List.ne_nil_of_mem hmem)
      -- a node with children is no comment
      have hp : (d.payload? p).any Payload.isComment = false := by
        obtain ⟨payload, hpayload, hcontainer⟩ := (Option.any_eq_true _ _).mp hcontainer
        rw [hpayload, Option.any_some]
        cases payload with
        | comment s => cases hcontainer
        | _ => rfl
      obtain ⟨path, hpath⟩ := ih hp
      have hlive : c ∈ d.liveChildren p := List.mem_filter.mpr ⟨hmem, by rw [hcomment]; rfl⟩
      obtain ⟨i, hi⟩ := List.mem_iff_getElem?.mp hlive
      refine ⟨path ++ [i], ?_⟩
      rw [Document.nodeAt?_append, hpath, Option.bind_some, Document.nodeAt?, hi]
      rfl

/-! ### Nodes of trees in documents -/

mutual

/-- The nodes in a tree have all of their nodes in the tree. -/
theorem Snapshot.nodes_subset (t : Snapshot) {v : Snapshot} (hv : v ∈ t.nodes) :
    v.nodes ⊆ t.nodes := by
  obtain ⟨id, payload, children⟩ := t
  rw [Snapshot.nodes, List.mem_cons] at hv
  rcases hv with rfl | hv
  · exact List.Subset.refl _
  · rw [Snapshot.nodes]
    exact List.subset_cons_of_subset _ (Snapshot.nodes_subset_listNodes children hv)

/-- The nodes in some trees have all of their nodes in the trees. -/
theorem Snapshot.nodes_subset_listNodes (ts : List Snapshot) {v : Snapshot}
    (hv : v ∈ listNodes ts) : v.nodes ⊆ listNodes ts := by
  cases ts with
  | nil => cases hv
  | cons t ts =>
      rw [Snapshot.listNodes, List.mem_append] at hv
      rw [Snapshot.listNodes]
      rcases hv with hv | hv
      · exact List.subset_append_of_subset_left _ (Snapshot.nodes_subset t hv)
      · exact List.subset_append_of_subset_right _ (Snapshot.nodes_subset_listNodes ts hv)

end

mutual

/-- Every node in a tree that is held is held there, below the parent of the tree or another node
of it. -/
theorem Document.Holds.exists_parent {parent : NodeId} (t : Snapshot)
    (h : d.Holds (some parent) t) {v : Snapshot} (hv : v ∈ t.nodes) :
    ∃ p ∈ parent :: t.ids, d.Holds (some p) v := by
  obtain ⟨id, payload, children⟩ := t
  rw [Snapshot.nodes, List.mem_cons] at hv
  rcases hv with rfl | hv
  · exact ⟨parent, List.mem_cons_self .., h⟩
  · obtain ⟨p, hp, hheld⟩ := Document.HoldsAll.exists_parent children h.2 hv
    rw [Snapshot.ids_node]
    exact ⟨p, List.mem_cons_of_mem _ hp, hheld⟩

/-- Every node in some trees that are held is held there, below the parent of the trees or another
node of them. -/
theorem Document.HoldsAll.exists_parent {parent : NodeId} (ts : List Snapshot)
    (h : d.HoldsAll (some parent) ts) {v : Snapshot} (hv : v ∈ listNodes ts) :
    ∃ p ∈ parent :: listIds ts, d.Holds (some p) v := by
  cases ts with
  | nil => cases hv
  | cons t ts =>
      rw [Snapshot.listNodes, List.mem_append] at hv
      rw [Snapshot.listIds_cons]
      rcases hv with hv | hv
      · obtain ⟨p, hp, hheld⟩ := Document.Holds.exists_parent t h.1 hv
        refine ⟨p, ?_, hheld⟩
        exact (List.mem_cons.mp hp).elim (fun heq => heq ▸ List.mem_cons_self ..)
          fun hp => List.mem_cons_of_mem _ (List.mem_append_left _ hp)
      · obtain ⟨p, hp, hheld⟩ := Document.HoldsAll.exists_parent ts h.2 hv
        refine ⟨p, ?_, hheld⟩
        exact (List.mem_cons.mp hp).elim (fun heq => heq ▸ List.mem_cons_self ..)
          fun hp => List.mem_cons_of_mem _ (List.mem_append_right _ hp)

end

section

variable {payload : Payload} {above : Option NodeId} {ts us : List Snapshot} {i p : NodeId}

/-- The parents of the nodes below a node are the node itself and nodes below it. -/
theorem Document.HoldsAll.parent_mem (h : d.HoldsAll (some root) ts) (hi : i ∈ listIds ts) :
    ∃ p ∈ root :: listIds ts, d.parent? i = some p := by
  obtain ⟨v, hv, rfl⟩ := List.mem_map.mp hi
  obtain ⟨p, hp, hheld⟩ := h.exists_parent ts hv
  exact ⟨p, hp, Document.parent?_of_cell? hheld.cell⟩

/-- The children of a node, and of the nodes below it, are below it. -/
theorem Document.Has.child_mem (h : d.Has (.whole root payload above) ts)
    (hp : p ∈ root :: listIds ts) (hi : i ∈ d.children p) : i ∈ listIds ts := by
  rcases List.mem_cons.mp hp with rfl | hp
  · rw [Document.children_of_cell? h.cell_whole, List.mem_map] at hi
    obtain ⟨t, ht, rfl⟩ := hi
    exact Snapshot.mem_listIds.mpr ⟨t, ht, t.id_mem_ids⟩
  · obtain ⟨v, hv, rfl⟩ := List.mem_map.mp hp
    obtain ⟨q, -, hheld⟩ := h.held.exists_parent ts hv
    rw [Document.children_of_cell? hheld.cell, List.mem_map] at hi
    obtain ⟨c, hc, rfl⟩ := hi
    refine Snapshot.id_mem_listIds (Snapshot.nodes_subset_listNodes ts hv ?_)
    exact Snapshot.mem_nodes_of_mem_children
      (Snapshot.mem_listNodes.mpr ⟨c, hc, c.self_mem_nodes⟩)

/-- **What is in the tree after a part of a pass** is the root of the pass, what is below it then,
and what was in the tree before and was not below it. -/
theorem Pass.Did.attached_cases {pass pass' : Pass} {e : Effect}
    (h : pass.Did e (root :: listIds ts) pass') (hd : pass.document.Reachable)
    (hhas : pass.document.Has (.whole root payload above) ts)
    (hhas' : pass'.document.Has (.whole root payload above) us)
    (htop : pass.document.Above Document.root root)
    (hi : pass'.document.Above Document.root i) :
    i = root ∨ i ∈ listIds us ∨
      i ∉ root :: listIds ts ∧ pass.document.Above Document.root i := by
  have hsound := hd.sound
  have hsound' := (h.reachable hd).sound
  have hknown := Document.lt_size_of_cell? hhas.cell_whole
  induction hi using Relation.ReflTransGen.head_induction_on with
  | refl =>
      -- the top of the document is not below the root of the pass
      by_cases hmem : Document.root ∈ root :: listIds ts
      · exact Or.inl (hsound.eq_of_above hhas.held hmem htop)
      · exact Or.inr (Or.inr ⟨hmem, Document.Above.refl _ _⟩)
  | @head c p hparent _ ih =>
      have hchild := (hsound'.linked c p).mp hparent
      rcases ih with rfl | hp | ⟨hp, habove⟩
      · exact Or.inr (Or.inl (hhas'.child_mem (List.mem_cons_self ..) hchild))
      · exact Or.inr (Or.inl (hhas'.child_mem (List.mem_cons_of_mem _ hp) hchild))
      · -- a node that was not touched has the same children as before
        have hcell : pass'.document.cell? p = pass.document.cell? p := by
          by_cases hlt : p < pass.document.cells.size
          · exact h.cell p hlt hp
          · rcases habove.eq_or_parent with rfl | ⟨q, hq, -⟩
            · exact absurd (hsound.above_lt_size htop hknown) hlt
            · exact absurd (Document.lt_size_of_parent? hq) hlt
        have hbefore : pass.document.parent? c = some p := by
          rwa [hsound.linked, Document.children, ← hcell, ← Document.children]
        by_cases hroot : c = root
        · exact Or.inl hroot
        · refine Or.inr (Or.inr ⟨fun hc => ?_, Document.Above.of_parent hbefore habove⟩)
          obtain ⟨q, hq, hparent'⟩ :=
            hhas.held.parent_mem ((List.mem_cons.mp hc).resolve_left hroot)
          obtain rfl : q = p := Option.some.inj (hparent'.symm.trans hbefore)
          exact hp hq

/-- A known node is in the tree if it is below its top. -/
theorem Document.Sound.isAttached_iff_above (hd : d.Sound) (hi : i < d.cells.size) :
    d.isAttached i = true ↔ d.Above Document.root i := by
  rw [← hd.mem_ancestors_iff hi, Document.isAttached, List.contains_iff_mem]

/-- **The path of a node leads to a tree, whose fate the records of a pass tell.** -/
theorem Document.Has.exists_fate (hhas : d.Has (.whole root payload above) ts) (hd : d.Sound)
    (o : HydrationOptions) (subject : String) (expected : List VNode) {path : List Nat}
    {id : NodeId} (hpath : path ≠ []) (hid : d.nodeAt? root path = some id) :
    ∃ u ∈ listNodes ts, u.id = id ∧
      Fate (Plan.nodes o subject [] d.cells.size 0 ts expected).effect.records
        (Plan.nodes o subject [] d.cells.size 0 ts expected).value path u := by
  have hheld : d.Holds above (.node root payload ts) := ⟨hhas.cell_whole, hhas.held⟩
  have hbelow := hheld.nodeAt?_eq path
  cases path with
  | nil => exact absurd rfl hpath
  | cons k rel =>
      rw [show (Snapshot.node root payload ts).id = root from rfl, hid, eq_comm,
        Option.map_eq_some_iff] at hbelow
      obtain ⟨u, hu, hid⟩ := hbelow
      obtain ⟨c, hc, hu⟩ := Option.bind_eq_some_iff.mp hu
      have hfate := @Plan.fate_nodes o subject [] rel d.cells.size 0 k ts c u expected
        (hhas.nodup hd) (fun i hi => hhas.held.lt_size ts hi) hc hu
      rw [List.nil_append, Nat.zero_add] at hfate
      exact ⟨u, Snapshot.mem_listNodes.mpr ⟨c, List.mem_of_mem_filter (List.mem_of_getElem? hc),
        Snapshot.mem_nodes_of_below? hu⟩, hid, hfate⟩

end

/-! ### The law -/

/-- What a pass does to nodes is what its records say. -/
structure KeepsIdentity (d d' : Document) (root : NodeId) (records : List Record) : Prop where
  /-- A node below the root is still in the tree, unless it was replaced or one above it was. -/
  attached : ∀ path id, path ≠ [] → d.nodeAt? root path = some id →
    (d'.isAttached id = true ↔ ¬ Replaced records path)
  /-- A node that is still in the tree is what it was, but for patched values. -/
  payload : ∀ path id, path ≠ [] → d.nodeAt? root path = some id → ¬ Replaced records path →
    ∃ before after, d.payload? id = some before ∧ d'.payload? id = some after ∧
      KeptBut records path before after
  /-- The root is what it was, where it was. -/
  top : d'.payload? root = d.payload? root ∧ d'.parent? root = d.parent? root
  /-- A node that is not below the root is as it was, with its neighbours. -/
  outside : ∀ id, root ∉ d.ancestors id → (d.cell? id).isSome → d'.cell? id = d.cell? id
  /-- What is new in the tree has a number that was not given before. -/
  fresh : ∀ id, d'.isAttached id = true → d.isAttached id = true ∨ d.cell? id = none

/-- **A pass replaces no other nodes than its records say**, and changes no other values. Every
node below the root that is no comment has a path that the records speak of. -/
theorem hydrateNodes_keepsIdentity (o : HydrationOptions) (hd : d.Reachable)
    (hroot : d.IsRoot root) (expected : List VNode) :
    (∀ id, root ∈ d.ancestors id → id ≠ root →
        (d.payload? id).any Payload.isComment = false →
        ∃ path, path ≠ [] ∧ d.nodeAt? root path = some id) ∧
      ∃ d' r, hydrateNodes o d root expected = .ok (d', r) ∧
        KeepsIdentity d d' root r.records := by
  have hsound := hd.sound
  refine ⟨fun id hmem hne hcomment => ?_, ?_⟩
  · obtain ⟨path, hpath⟩ := hsound.exists_path (Document.above_of_mem_climb hmem) hcomment
    refine ⟨path, ?_, hpath⟩
    rintro rfl
    exact hne (Option.some.inj hpath).symm
  obtain ⟨payload, above, ts, hcontainer, hhas⟩ := hroot.exists_has hsound
  obtain ⟨p, hrun, hdid, hhas'⟩ := hydrateNodes_carries o hd hroot hcontainer hhas expected
  refine ⟨p.document, p.report, hrun, ?_⟩
  have hcell := hhas.cell_whole
  have hcell' := hhas'.cell_whole
  have hroot' := hdid.isRoot hd hroot hhas hhas'
  have hsound' := (hdid.reachable hd).sound
  have htop := (hsound.isAttached_iff_above (Document.lt_size_of_cell? hcell)).mp hroot.attached
  have htop' :=
    (hsound'.isAttached_iff_above (Document.lt_size_of_cell? hcell')).mp hroot'.attached
  have hcases {i : NodeId} (hi : p.document.isAttached i = true) :=
    hdid.attached_cases hd hhas hhas' htop
      (Document.above_of_mem_climb (List.contains_iff_mem.mp hi))
  have hrecords : p.report.records =
      (Plan.nodes o payload.describe [] d.cells.size 0 ts expected).effect.records :=
    hdid.records
  have hfate {path : List Nat} {id : NodeId} (hpath : path ≠ [])
      (hid : d.nodeAt? root path = some id) :=
    hhas.exists_fate hsound o payload.describe expected hpath hid
  rw [← hrecords] at hfate
  refine ⟨fun path id hpath hid => ?_, fun path id hpath hid hnot => ?_, ⟨?_, ?_⟩,
    fun id hid hsome => ?_, fun id hid => ?_⟩
  · obtain ⟨u, hu, rfl, hfate⟩ := hfate hpath hid
    have hmem := Snapshot.id_mem_listIds hu
    constructor
    · intro hin hreplaced
      rcases hcases hin with heq | hleft | ⟨hnot, -⟩
      · exact hhas.parent_not_mem hsound (heq ▸ hmem)
      · exact hfate.gone hreplaced hleft
      · exact hnot (List.mem_cons_of_mem _ hmem)
    · intro hnot
      obtain ⟨v, hv, hvid, -⟩ := hfate.stays hnot
      have hvmem := Snapshot.id_mem_listIds hv
      rw [hvid] at hvmem
      rw [hsound'.isAttached_iff_above (hhas'.held.lt_size _ hvmem)]
      exact htop'.trans (Document.HoldsAll.above _ hhas'.held hvmem)
  · obtain ⟨u, hu, rfl, hfate⟩ := hfate hpath hid
    obtain ⟨v, hv, hvid, hkept⟩ := hfate.stays hnot
    obtain ⟨q, -, hheld⟩ := hhas.held.exists_parent ts hu
    obtain ⟨q', -, hheld'⟩ := hhas'.held.exists_parent _ hv
    refine ⟨u.payload, v.payload, Document.payload?_of_cell? hheld.cell, ?_, hkept⟩
    rw [← hvid, Document.payload?_of_cell? hheld'.cell]
  · rw [Document.payload?_of_cell? hcell, Document.payload?_of_cell? hcell']
  · rw [Document.parent?_of_cell? hcell, Document.parent?_of_cell? hcell']
  · have hlt := Document.isSome_cell?_iff.mp hsome
    rw [hsound.mem_ancestors_iff hlt] at hid
    refine hdid.cell id hlt fun hmem => hid ?_
    rcases List.mem_cons.mp hmem with rfl | hmem
    · exact Document.Above.refl _ _
    · exact Document.HoldsAll.above ts hhas.held hmem
  · rw [Document.cell?_eq_none_iff]
    rcases hcases hid with rfl | hleft | ⟨-, habove⟩
    · exact Or.inl hroot.attached
    · refine (Plan.mem_listIds_nodes expected hleft).imp_left fun hmem => ?_
      rw [hsound.isAttached_iff_above (hhas.held.lt_size ts hmem)]
      exact htop.trans (Document.HoldsAll.above ts hhas.held hmem)
    · by_cases hlt : id < d.cells.size
      · exact Or.inl ((hsound.isAttached_iff_above hlt).mpr habove)
      · exact Or.inr (Nat.le_of_not_lt hlt)

/-- In a parsed document a paragraph is expected and another element than the one behind it. The
text in the paragraph stays where it is with another value, and the one behind it goes with its
element. -/
theorem hydrateNodes_keepsIdentity_parsed :
    (Document.parse "<p>old</p><i>other</i>").IsRoot Document.root ∧
      ∃ d' r, hydrateNodes .standard (Document.parse "<p>old</p><i>other</i>") Document.root
          [.element "p" .empty [.text "new"], .element "b" .empty []] = .ok (d', r) ∧
        d'.isAttached 2 = true ∧ KeptBut r.records [0, 0] (.text "old") (.text "new") ∧
        d'.isAttached 4 = false := by
  have hroot : (Document.parse "<p>old</p><i>other</i>").IsRoot Document.root :=
    ⟨by decide +kernel, by decide +kernel⟩
  obtain ⟨-, d', r, hrun, hkeeps⟩ := hydrateNodes_keepsIdentity .standard (.parse _) hroot
    [.element "p" .empty [.text "new"], .element "b" .empty []]
  have hcomputed : (hydrateNodes .standard (Document.parse "<p>old</p><i>other</i>") Document.root
      [.element "p" .empty [.text "new"], .element "b" .empty []]).toOption.map
        (fun result => (decide (Replaced result.2.records [0, 0]),
          decide (Replaced result.2.records [1, 0]), result.1.payload? 2)) =
      some (false, true, some (.text "new")) := by
    decide +kernel
  rw [hrun] at hcomputed
  simp only [Except.toOption, Option.map_some, Option.some.injEq, Prod.mk.injEq,
    decide_eq_false_iff_not, decide_eq_true_eq] at hcomputed
  obtain ⟨hkept, hgone, hafter⟩ := hcomputed
  have htext : (Document.parse "<p>old</p><i>other</i>").nodeAt? Document.root [0, 0] = some 2 := by
    decide +kernel
  have hother :
      (Document.parse "<p>old</p><i>other</i>").nodeAt? Document.root [1, 0] = some 4 := by
    decide +kernel
  refine ⟨hroot, d', r, hrun, ?_, ?_, ?_⟩
  · exact (hkeeps.attached [0, 0] 2 (List.cons_ne_nil _ _) htext).mpr hkept
  · obtain ⟨before, after, hbefore, hafter', hvalues⟩ :=
      hkeeps.payload [0, 0] 2 (List.cons_ne_nil _ _) htext hkept
    rw [hafter, Option.some.injEq] at hafter'
    have hold : (Document.parse "<p>old</p><i>other</i>").payload? 2 = some (.text "old") := by
      decide +kernel
    rw [hold, Option.some.injEq] at hbefore
    rwa [hbefore, hafter']
  · rw [← Bool.not_eq_true, hkeeps.attached [1, 0] 4 (List.cons_ne_nil _ _) hother, not_not]
    exact hgone

end TwinRender
