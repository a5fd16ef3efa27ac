import TwinRender.Proofs.Hydration.Walk

/-!
# Whole passes

A pass starts at a node that may have children and is in the tree. Once it has started it comes to
its end: it carries out the plan for all trees below its root, and its root is still one behind
it. A pass whose plan has no edits and no new nodes leaves the document as it was.

## Main definitions

* `Document.IsRoot`: a pass can start at a node.
* `Place.whole`: the place of all children of a node.

## Main results

* `hydrateNodesInPlace_carries`, `hydrateNodes_carries`: **a pass comes to its end, and carries out
  its plan**.
* `Pass.Did.isRoot`: a pass can start where another one has started.
* `Pass.Did.document_eq`: without edits and new nodes, the document is the same.
-/

namespace TwinRender

open Snapshot (listIds)

variable {d : Document} {root : NodeId}

/-- A pass can start at a node: it may have children, and is in the tree. -/
structure Document.IsRoot (d : Document) (root : NodeId) : Prop where
  /-- It may have children. -/
  container : (d.payload? root).any Payload.isContainer = true
  /-- It is in the tree. -/
  attached : d.isAttached root = true

/-- A pass does start where it can. -/
theorem Document.IsRoot.checkRoot (h : d.IsRoot root) : d.checkRoot root = .ok () := by
  have hcontainer := h.container
  rw [Document.checkRoot]
  cases hpayload : d.payload? root with
  | none => simp [hpayload] at hcontainer
  | some payload =>
      rw [hpayload, Option.any_some] at hcontainer
      simp [hcontainer, h.attached]

/-- The place of all children of a node. -/
def Place.whole (root : NodeId) (payload : Payload) (above : Option NodeId) : Place :=
  ⟨root, payload, above, [], []⟩

/-- A node with its trees is found as it is. -/
theorem Document.Has.cell_whole {payload : Payload} {above : Option NodeId} {ts : List Snapshot}
    (h : d.Has (.whole root payload above) ts) :
    d.cell? root = some ⟨payload, above, ts.map Snapshot.id⟩ := by
  have hcell := h.cell
  rwa [Place.whole, List.append_nil] at hcell

/-- The root of a pass has trees below it. -/
theorem Document.IsRoot.exists_has (h : d.IsRoot root) (hd : d.Sound) :
    ∃ payload above ts, payload.isContainer = true ∧ d.Has (.whole root payload above) ts := by
  obtain ⟨payload, hpayload, hcontainer⟩ := (Option.any_eq_true _ _).mp h.container
  obtain ⟨t, rfl, hheld⟩ := hd.exists_holds (Document.lt_size_of_payload? hpayload)
  have hcell := hheld.cell
  obtain rfl : t.payload = payload := by
    rw [Document.payload?_of_cell? hcell] at hpayload
    exact Option.some.inj hpayload
  refine ⟨t.payload, d.parent? t.id, t.children, hcontainer, ?_, hheld.below⟩
  simpa [Place.whole] using hcell

/-- The nodes above stay above as long as they keep their parents. -/
theorem Document.Above.frame {d d' : Document} {a x : NodeId} (h : d.Above a x)
    (hparent : ∀ i, d.Above i x → d'.parent? i = d.parent? i) : d'.Above a x := by
  induction h with
  | refl => exact Document.Above.refl d' x
  | tail hi hp ih => exact Document.Above.trans (.single ((hparent _ hi).trans hp)) ih

/-- No other node above a node is among the trees below it. -/
theorem Document.Sound.eq_of_above (hd : d.Sound) {ts : List Snapshot}
    (hheld : d.HoldsAll (some root) ts) {i : NodeId} (hi : i ∈ root :: listIds ts)
    (habove : d.Above i root) : i = root := by
  rcases List.mem_cons.mp hi with rfl | hi
  · rfl
  · rcases habove.eq_or_parent with heq | ⟨p, hp, hrest⟩
    · exact heq.symm
    · exact absurd ((Document.HoldsAll.above ts hheld hi).trans hrest) (hd.not_above_parent hp)

namespace Pass.Did

variable {p p' : Pass} {e : Effect} {payload : Payload} {above : Option NodeId}
  {ts us : List Snapshot}

/-- **A pass can start where another one has started.** -/
theorem isRoot (h : p.Did e (root :: listIds ts) p') (hd : p.document.Reachable)
    (hroot : p.document.IsRoot root) (hhas : p.document.Has (.whole root payload above) ts)
    (hhas' : p'.document.Has (.whole root payload above) us) : p'.document.IsRoot root := by
  have hcell := hhas.cell_whole
  have hcell' := hhas'.cell_whole
  have hknown := Document.lt_size_of_cell? hcell
  have hknown' := Document.lt_size_of_cell? hcell'
  refine ⟨?_, ?_⟩
  · have hcontainer := hroot.container
    rw [Document.payload?_of_cell? hcell] at hcontainer
    rw [Document.payload?_of_cell? hcell']
    exact hcontainer
  · have htop : p.document.Above Document.root root :=
      (hd.sound.mem_ancestors_iff hknown).mp (by simpa [Document.isAttached] using hroot.attached)
    have htop' : p'.document.Above Document.root root := by
      refine htop.frame fun i hi => ?_
      by_cases htouched : i ∈ root :: listIds ts
      · obtain rfl := hd.sound.eq_of_above hhas.held htouched hi
        exact (Document.parent?_of_cell? hcell').trans (Document.parent?_of_cell? hcell).symm
      · rw [Document.parent?, Document.parent?,
          h.cell i (hd.sound.above_lt_size hi hknown) htouched]
    have hmem := ((h.reachable hd).sound.mem_ancestors_iff hknown').mpr htop'
    simpa [Document.isAttached] using hmem

end Pass.Did

mutual

/-- Two documents that hold a tree have the same nodes in it. -/
theorem Document.Holds.cell?_eq {d d' : Document} {parent : Option NodeId} (t : Snapshot)
    (h : d.Holds parent t) (h' : d'.Holds parent t) {i : NodeId} (hi : i ∈ t.ids) :
    d'.cell? i = d.cell? i := by
  obtain ⟨id, payload, children⟩ := t
  rw [Snapshot.ids_node, List.mem_cons] at hi
  rcases hi with rfl | hi
  · exact h'.1.trans h.1.symm
  · exact Document.HoldsAll.cell?_eq children h.2 h'.2 hi

/-- Two documents that hold some trees have the same nodes in them. -/
theorem Document.HoldsAll.cell?_eq {d d' : Document} {parent : Option NodeId}
    (ts : List Snapshot) (h : d.HoldsAll parent ts) (h' : d'.HoldsAll parent ts) {i : NodeId}
    (hi : i ∈ listIds ts) : d'.cell? i = d.cell? i := by
  cases ts with
  | nil => cases hi
  | cons t ts =>
      rw [Snapshot.listIds_cons, List.mem_append] at hi
      rcases hi with hi | hi
      · exact Document.Holds.cell?_eq t h.1 h'.1 hi
      · exact Document.HoldsAll.cell?_eq ts h.2 h'.2 hi

end

/-- **Without edits and new nodes, the document is the same.** -/
theorem Pass.Did.document_eq {p p' : Pass} {e : Effect} {place : Place} {ts : List Snapshot}
    (h : p.Did e (place.parent :: listIds ts) p') (hedits : e.edits = 0) (hcount : e.count = 0)
    (hhas : p.document.Has place ts) (hhas' : p'.document.Has place ts) :
    p'.document = p.document := by
  have hmutations := h.mutations
  have hsize := h.size
  rw [hedits, Nat.add_zero] at hmutations
  rw [hcount, Nat.add_zero] at hsize
  have hcells (i : NodeId) (hi : i < p.document.cells.size) :
      p'.document.cell? i = p.document.cell? i := by
    by_cases htouched : i ∈ place.parent :: listIds ts
    · rcases List.mem_cons.mp htouched with rfl | hmem
      · exact hhas'.cell.trans hhas.cell.symm
      · exact Document.HoldsAll.cell?_eq ts hhas.held hhas'.held hmem
    · exact h.cell i hi htouched
  obtain ⟨⟨cells, mutations⟩, _⟩ := p
  obtain ⟨⟨cells', mutations'⟩, _⟩ := p'
  obtain rfl : mutations' = mutations := hmutations
  obtain rfl : cells' = cells := Array.ext hsize fun i hi' hi => by
    simpa [Document.cell?, hi, hi'] using hcells i hi
  rfl

/-- **A pass comes to its end, and carries out its plan**, in place. -/
theorem hydrateNodesInPlace_carries (o : HydrationOptions) (hd : d.Reachable)
    (hroot : d.IsRoot root) {payload : Payload} {above : Option NodeId} {ts : List Snapshot}
    (hcontainer : payload.isContainer = true) (hhas : d.Has (.whole root payload above) ts)
    (expected : List VNode) :
    ∃ p : Pass, hydrateNodesInPlace o d root expected = (p.document, .ok p.report) ∧
      (Pass.start d).Did
        (Plan.nodes o payload.describe [] d.cells.size 0 ts expected).effect
        (root :: listIds ts) p ∧
      p.document.Has (.whole root payload above)
        (Plan.nodes o payload.describe [] d.cells.size 0 ts expected).value := by
  obtain ⟨p, hrun, hdid, hhas'⟩ :=
    @Pass.walkNodes_carries o [] (Pass.start d) _ ts hd hhas hcontainer rfl 0 expected
  have hlive : d.liveChildren root = (Snapshot.live ts).map Snapshot.id :=
    Pass.liveChildren_eq (Document.children_of_cell? hhas.cell_whole) hhas.held
  refine ⟨p, ?_, hdid, hhas'⟩
  have hwalk : Pass.walk o d root expected = .ok p := by
    rw [Pass.walk, hlive]
    exact hrun
  simp only [hydrateNodesInPlace, hroot.checkRoot, hwalk]

/-- **A pass comes to its end, and carries out its plan.** -/
theorem hydrateNodes_carries (o : HydrationOptions) (hd : d.Reachable) (hroot : d.IsRoot root)
    {payload : Payload} {above : Option NodeId} {ts : List Snapshot}
    (hcontainer : payload.isContainer = true) (hhas : d.Has (.whole root payload above) ts)
    (expected : List VNode) :
    ∃ p : Pass, hydrateNodes o d root expected = .ok (p.document, p.report) ∧
      (Pass.start d).Did
        (Plan.nodes o payload.describe [] d.cells.size 0 ts expected).effect
        (root :: listIds ts) p ∧
      p.document.Has (.whole root payload above)
        (Plan.nodes o payload.describe [] d.cells.size 0 ts expected).value := by
  obtain ⟨p, hrun, hcarries⟩ :=
    hydrateNodesInPlace_carries o hd hroot hcontainer hhas expected
  refine ⟨p, ?_, hcarries⟩
  rw [hydrateNodes, hrun]
  rfl

end TwinRender
