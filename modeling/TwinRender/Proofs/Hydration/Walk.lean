import TwinRender.Proofs.Hydration.Did

/-!
# A pass carries out its plan

The walk takes the children of a node one by one, and edits the document while it goes. What it has
done so far stands before the node it looks at, what it has not seen yet stands behind it, and
neither is touched by the next step. So the walk over the whole of the children carries out the
plan for all of them, and no repair is refused on the way.

## Main definitions

* `Place`: a place among the children of a node.
* `Document.Has`: a document has trees at a place.
* `Pass.Carries`: a part of a pass carries out the plan for the trees at a place.

## Main results

* `Pass.Carries.append`: plans for trees one behind the other are carried out one by one.
* `Pass.walkNodes_carries`: **the walk is never refused, and carries out its plan**.
-/

namespace TwinRender

open Snapshot (listIds live)

/-! ### Places -/

/-- A place among the children of a node. -/
structure Place where
  /-- The node. -/
  parent : NodeId
  /-- What it is. -/
  payload : Payload
  /-- The node above it. -/
  above : Option NodeId
  /-- The children before the place. -/
  before : List NodeId
  /-- The children behind the place. -/
  behind : List NodeId

/-- A document has trees at a place. -/
structure Document.Has (d : Document) (place : Place) (ts : List Snapshot) : Prop where
  /-- The trees are children of the node. -/
  cell : d.cell? place.parent = some ⟨place.payload, place.above,
    place.before ++ (ts.map Snapshot.id ++ place.behind)⟩
  /-- The trees are held. -/
  held : d.HoldsAll (some place.parent) ts

namespace Document.Has

variable {d d' : Document} {place : Place} {ts us : List Snapshot}

/-- The node is in no tree below it. -/
theorem parent_not_mem (h : d.Has place ts) (hd : d.Sound) : place.parent ∉ listIds ts :=
  hd.not_mem_listIds h.held

/-- No node stands twice in the trees. -/
theorem nodup (h : d.Has place ts) (hd : d.Sound) : (listIds ts).Nodup := by
  refine hd.nodup_listIds ts h.held ?_
  have hnodup := hd.nodup place.parent
  rw [children_of_cell? h.cell, List.nodup_append', List.nodup_append'] at hnodup
  exact hnodup.2.1.1

/-- Trees next to each other have no node in common, and their parent is in none of them. -/
theorem apart (h : d.Has place (ts ++ us)) (hd : d.Sound) :
    (∀ i ∈ listIds us, i ∉ place.parent :: listIds ts) ∧
      ∀ i ∈ listIds ts, i ∉ place.parent :: listIds us := by
  have hnot := h.parent_not_mem hd
  have hnodup := h.nodup hd
  rw [Snapshot.listIds_append] at hnot hnodup
  rw [List.mem_append, not_or] at hnot
  constructor
  · intro i hi hmem
    rcases List.mem_cons.mp hmem with rfl | hts
    · exact hnot.2 hi
    · exact List.disjoint_of_nodup_append hnodup hts hi
  · intro i hi hmem
    rcases List.mem_cons.mp hmem with rfl | hus
    · exact hnot.1 hi
    · exact List.disjoint_of_nodup_append hnodup hi hus

/-- The trees at a place whose nodes are not touched. -/
theorem held_frame (h : d.HoldsAll (some place.parent) ts) {touched : List NodeId}
    (hcell : ∀ i < d.cells.size, i ∉ touched → d'.cell? i = d.cell? i)
    (hdisjoint : ∀ i ∈ listIds ts, i ∉ touched) : d'.HoldsAll (some place.parent) ts :=
  HoldsAll.frame ts h fun i hi => hcell i (HoldsAll.lt_size ts h hi) (hdisjoint i hi)

/-- A tree at a place whose topmost node has got another payload. -/
theorem change {t : Snapshot} (h : d.Has place [t]) (hd : d.Sound) {payload : Payload}
    (hcell : ∀ i < d.cells.size, i ∉ [t.id] → d'.cell? i = d.cell? i)
    (hchanged : d'.cell? t.id = some ⟨payload, some place.parent, t.children.map Snapshot.id⟩) :
    d'.Has place [.node t.id payload t.children] := by
  have hnot := h.parent_not_mem hd
  have hnodup := h.nodup hd
  obtain ⟨id, before, children⟩ := t
  have hids := Snapshot.ids_node id before children
  simp only [Snapshot.listIds_cons, Snapshot.listIds_nil, List.append_nil] at hnot hnodup
  rw [hids] at hnot hnodup
  have hne : place.parent ∉ [id] := fun hmem =>
    hnot (List.mem_cons.mpr (Or.inl (List.mem_singleton.mp hmem)))
  refine ⟨(hcell place.parent (lt_size_of_cell? h.cell) hne).trans h.cell, ?_, trivial⟩
  refine h.held.1.change hchanged fun i hi => ?_
  refine hcell i (HoldsAll.lt_size children h.held.1.below hi) fun hmem => ?_
  obtain rfl : i = id := List.mem_singleton.mp hmem
  exact (List.nodup_cons.mp hnodup).1 hi

end Document.Has

namespace Pass

/-- A part of a pass is not refused and carries out the plan for the trees at a place. -/
def Carries (p : Pass) (place : Place) (ts : List Snapshot) (plan : Plan (List Snapshot))
    (run : Except Refusal Pass) : Prop :=
  ∃ p', run = .ok p' ∧ p.Did plan.effect (place.parent :: listIds ts) p' ∧
    p'.document.Has place plan.value

namespace Carries

variable {p : Pass} {place : Place} {ts us : List Snapshot}

/-- Nothing is done. -/
theorem keep (hhas : p.document.Has place ts) : p.Carries place ts (Plan.keep ts) (.ok p) :=
  ⟨p, rfl, (Did.refl p).weaken (List.nil_subset _), hhas⟩

/-- A record is made in the end. -/
theorem note {plan : Plan (List Snapshot)} {run : Except Refusal Pass}
    (h : p.Carries place ts plan run) (m : Mismatch) (action : RepairAction) :
    p.Carries place ts (plan.note ⟨m, action⟩) (run.map fun p' => p'.record m action) := by
  obtain ⟨p', rfl, hdid, hhas⟩ := h
  exact ⟨p'.record m action, rfl, hdid.record m action, hhas⟩

/-- **Plans for trees one behind the other are carried out one by one.** -/
theorem append {whole : List Snapshot} (hwhole : whole = ts ++ us)
    (hd : p.document.Reachable) {a b : Plan (List Snapshot)}
    {run : Except Refusal Pass} {next : Pass → Except Refusal Pass}
    (hhas : p.document.Has place whole)
    (ha : p.document.Has { place with behind := us.map Snapshot.id ++ place.behind } ts →
      p.Carries { place with behind := us.map Snapshot.id ++ place.behind } ts a run)
    (hb : ∀ p' : Pass, p'.document.Reachable →
      p'.document.cells.size = p.document.cells.size + a.effect.count →
      p'.document.Has { place with before := place.before ++ a.value.map Snapshot.id } us →
      p'.Carries { place with before := place.before ++ a.value.map Snapshot.id } us b (next p')) :
    p.Carries place whole (a.append b) (run >>= next) := by
  subst hwhole
  have hheld := Document.holdsAll_append.mp hhas.held
  obtain ⟨p₁, rfl, hdid₁, hhas₁⟩ := ha
    ⟨by rw [hhas.cell, List.map_append, List.append_assoc], hheld.1⟩
  have hreachable₁ := hdid₁.reachable hd
  -- the first part does not touch the trees behind
  have hheld₁ : p₁.document.HoldsAll (some place.parent) us :=
    Document.Has.held_frame hheld.2 hdid₁.cell (hhas.apart hd.sound).1
  have hcell₁ : p₁.document.cell? place.parent = some ⟨place.payload, place.above,
      place.before ++ a.value.map Snapshot.id ++ (us.map Snapshot.id ++ place.behind)⟩ := by
    rw [List.append_assoc]
    exact hhas₁.cell
  obtain ⟨p₂, hnext, hdid₂, hhas₂⟩ := hb p₁ hreachable₁ hdid₁.size ⟨hcell₁, hheld₁⟩
  refine ⟨p₂, hnext, (hdid₁.trans hdid₂).weaken ?_, ?_, ?_⟩
  · rw [Snapshot.listIds_append]
    intro i hi
    simp only [List.mem_append, List.mem_cons] at hi ⊢
    tauto
  · rw [hhas₂.cell]
    change some _ = some (Cell.mk _ _ (place.before ++ ((a.value ++ b.value).map Snapshot.id ++ _)))
    rw [List.map_append, List.append_assoc, List.append_assoc]
  · -- the second part does not touch what the first part has left
    have hboth : p₁.document.Has place (a.value ++ us) :=
      ⟨by rw [hcell₁, List.map_append, List.append_assoc, List.append_assoc],
        Document.holdsAll_append.mpr ⟨hhas₁.held, hheld₁⟩⟩
    refine Document.holdsAll_append.mpr ⟨?_, hhas₂.held⟩
    exact Document.Has.held_frame hhas₁.held hdid₂.cell (hboth.apart hreachable₁.sound).2

end Carries

/-! ### Nodes that differ -/

section

variable {p : Pass} {place : Place} {t : Snapshot}

/-- A new node is put in the place of a live one, and a record is made. -/
theorem replace_carries (hd : p.document.Reachable) (hhas : p.document.Has place [t]) (n : VNode) :
    p.Carries place [t] (Plan.put p.document.cells.size n).single
      (p.replace place.parent n t.id) := by
  obtain ⟨p', hreplace, hdid, hcell, hheld⟩ := replace_did hd hhas.cell n
  refine ⟨p', hreplace, hdid.weaken fun i hi => ?_, ⟨?_, hheld, trivial⟩⟩
  · have hmem := t.id_mem_ids
    simp only [List.mem_cons, List.not_mem_nil, or_false] at hi
    rcases hi with rfl | rfl <;> simp [hmem]
  · rw [hcell]
    simp [Plan.single, Plan.put]

/-- Another kind of node than the expected one. -/
theorem missing_carries (hd : p.document.Reachable) (hhas : p.document.Has place [t])
    (o : HydrationOptions) (path : List Nat) (n : VNode) :
    p.Carries place [t]
      (Plan.missing o place.payload.describe path p.document.cells.size t n).single
      (p.missing o place.parent n (some t.id) path) := by
  have hparent := Document.describe_of_cell? hhas.cell
  have hfound := Document.describe_of_cell? hhas.held.1.cell
  simp only [missing, Plan.missing, Option.map_some, hparent, hfound]
  split
  · exact (replace_carries hd hhas n).note _ _
  · exact (Carries.keep hhas).note _ _

/-- No node where one is expected. -/
theorem absent_carries (hd : p.document.Reachable) (hhas : p.document.Has place [])
    (hcontainer : place.payload.isContainer = true) (hbehind : place.behind = [])
    (o : HydrationOptions) (path : List Nat) (n : VNode) :
    p.Carries place [] (Plan.absent o place.payload.describe path p.document.cells.size n)
      (p.missing o place.parent n none path) := by
  have hparent := Document.describe_of_cell? hhas.cell
  simp only [missing, Plan.absent, Option.map_none, hparent]
  split
  · obtain ⟨d₁, d₂, hmount, happend, hdid, hcell, hheld⟩ :=
      append_did hd hhas.cell hcontainer n
    have hput : p.Carries place [] (Plan.put p.document.cells.size n).single
        (.ok (p.replacedTo d₂)) := by
      refine ⟨_, rfl, hdid, ⟨?_, hheld, trivial⟩⟩
      rw [replacedTo, hcell]
      simp [Plan.single, Plan.put, hbehind]
    simp only [hmount, happend, Document.attempt_ok, bind, Except.bind]
    exact hput.note _ _
  · exact (Carries.keep hhas).note _ _

/-- A node where none is expected. -/
theorem extra_carries (hd : p.document.Reachable) (hhas : p.document.Has place [t])
    (o : HydrationOptions) (path : List Nat) :
    p.Carries place [t] (Plan.extra o place.payload.describe path t)
      (p.extra o place.parent t.id path) := by
  have hparent := Document.describe_of_cell? hhas.cell
  have hfound := Document.describe_of_cell? hhas.held.1.cell
  simp only [extra, Plan.extra, hparent, hfound]
  split
  · obtain ⟨d', hremove, hdid, hcell⟩ := remove_did hd hhas.cell
    have hdrop : p.Carries place [t] Plan.drop (.ok (p.replacedTo d')) := by
      refine ⟨_, rfl, hdid.weaken fun i hi => ?_, ⟨hcell, trivial⟩⟩
      have hmem := t.id_mem_ids
      simp only [List.mem_cons, List.not_mem_nil, or_false] at hi
      rcases hi with rfl | rfl <;> simp [hmem]
    simp only [hremove, Document.attempt_ok, bind, Except.bind]
    exact hdrop.note _ _
  · exact (Carries.keep hhas).note _ _

end

/-- The live children of a node are the topmost nodes of its trees. -/
theorem liveChildren_eq {d : Document} {id : NodeId} {ts : List Snapshot}
    (hchildren : d.children id = ts.map Snapshot.id) (hheld : d.HoldsAll (some id) ts) :
    d.liveChildren id = (live ts).map Snapshot.id := by
  rw [Document.liveChildren, hchildren, live, List.filter_map]
  congr 1
  refine List.filter_congr fun t ht => ?_
  have hcell := (Document.holdsAll_iff.mp hheld t ht).cell
  simp [Document.payload?_of_cell? hcell]

/-- Nodes behind the last expected one. -/
theorem extras_carries (o : HydrationOptions) (path : List Nat) (ts : List Snapshot) {p : Pass}
    {place : Place} (hd : p.document.Reachable) (hhas : p.document.Has place ts) (index : Nat) :
    p.Carries place ts (Plan.extras o place.payload.describe path index ts)
      (extras o place.parent path p index ((live ts).map Snapshot.id)) := by
  induction ts generalizing p place index with
  | nil => exact Carries.keep hhas
  | cons t rest ih =>
      rw [Plan.extras]
      by_cases hcomment : t.payload.isComment = true
      · rw [if_pos hcomment, Snapshot.live_cons_comment hcomment]
        exact @Carries.append p place [t] rest _ rfl hd _ _ (.ok p)
          (fun p => extras o place.parent path p index ((live rest).map Snapshot.id)) hhas
          Carries.keep fun p' hd' _ hhas' => ih hd' hhas' index
      · rw [if_neg hcomment, Snapshot.live_cons (by simpa using hcomment)]
        exact @Carries.append p place [t] rest _ rfl hd _ _
          (p.extra o place.parent t.id (path ++ [index]))
          (fun p => extras o place.parent path p (index + 1) ((live rest).map Snapshot.id))
          hhas (fun hhas' => extra_carries hd hhas' o (path ++ [index]))
          fun p' hd' _ hhas' => ih hd' hhas' (index + 1)

/-! ### Nodes that agree -/

section

variable {p : Pass} {place : Place} {t : Snapshot}

/-- A text where a text is expected. -/
theorem walkText_carries (hd : p.document.Reachable) (hhas : p.document.Has place [t])
    {found : String} (ht : t.payload = .text found) (o : HydrationOptions) (path : List Nat)
    (expected : String) :
    p.Carries place [t]
      (Plan.text o place.payload.describe path p.document.cells.size t found expected).single
      (p.walkText o place.parent expected t.id path) := by
  have hcell := hhas.held.1.cell
  have hparent := Document.describe_of_cell? hhas.cell
  have hdata : (p.document.data? t.id).getD "" = found := by
    rw [Document.data?, Document.payload?_of_cell? hcell, ht]
    rfl
  simp only [walkText, Plan.text, hdata, hparent]
  by_cases hsame : canonicalText found = canonicalText expected
  · rw [if_pos hsame, if_pos hsame]
    exact Carries.keep hhas
  · rw [if_neg hsame, if_neg hsame]
    rw [ht] at hcell
    cases o.classify ⟨path, place.payload.describe, .text expected found⟩ with
    | patchValue =>
        obtain ⟨d', hset, hdid, hcell'⟩ := setText_did hcell expected
        have hrewrite : p.Carries place [t] (Plan.rewrite t expected).single
            (.ok (p.patchedTo d')) := by
          refine ⟨_, rfl, hdid.weaken fun i hi => ?_, hhas.change hd.sound hdid.cell hcell'⟩
          obtain rfl := List.mem_singleton.mp hi
          simp [t.id_mem_ids]
        simp only [hset, Document.attempt_ok, bind, Except.bind]
        exact hrewrite.note _ _
    | replaceNode => exact (replace_carries hd hhas (.text expected)).note _ _
    | reportOnly => exact (Carries.keep hhas).note _ _
    | ignore => exact (Carries.keep hhas).note _ _

end

/-- The differing attributes of an element are the ones of its tree. -/
theorem attributeRecords_eq {d : Document} {id : NodeId} {payload : Payload}
    (hpayload : d.payload? id = some payload) (o : HydrationOptions) (tag : String)
    (expected : OrderedMap String) (path : List Nat) :
    attributeRecords o d tag expected id path =
      Plan.differences o tag path expected (payload.attributes?.getD .empty) := by
  have hattributes : d.attributes? id = payload.attributes? := by
    rw [Document.attributes?, hpayload, Option.bind_some]
  have hattribute (name : String) :
      d.attribute? id name = (payload.attributes?.getD .empty).get? name.toLower := by
    rw [Document.attribute?, hattributes]
    cases payload.attributes? <;> rfl
  simp only [attributeRecords, Plan.differences, Plan.difference?, hattributes, hattribute]

/-- The differing attributes of an element that is to be replaced are only recorded. -/
theorem repairAttributes_replace (id : NodeId) (p : Pass) (records : List Record) :
    ∃ p', repairAttributes id true p records = .ok p' ∧ p.Did (.ofRecords records) [] p' ∧
      p'.document = p.document := by
  induction records generalizing p with
  | nil => exact ⟨p, rfl, Did.refl p, rfl⟩
  | cons r rest ih =>
      obtain ⟨p', hrest, hdid, hdocument⟩ := ih (p.record r.mismatch r.action)
      refine ⟨p', ?_, ((Did.refl p).record r.mismatch r.action).andThen hdid, hdocument⟩
      simp only [repairAttributes, Bool.not_true, Bool.and_false]
      exact hrest

/-- The differing attributes of an element that stays are patched as its plan says. -/
theorem repairAttributes_did {p : Pass} {id : NodeId} {tag : String} {found : OrderedMap String}
    {above : Option NodeId} {children : List NodeId}
    (hcell : p.document.cell? id = some ⟨.element tag found, above, children⟩)
    (records : List Record) :
    ∃ p', repairAttributes id false p records = .ok p' ∧
      p.Did (Plan.patches found records).effect [id] p' ∧
      p'.document.cell? id =
        some ⟨.element tag (Plan.patches found records).value, above, children⟩ := by
  induction records generalizing p found with
  | nil => exact ⟨p, rfl, (Did.refl p).weaken (List.nil_subset _), hcell⟩
  | cons r rest ih =>
      rw [Plan.patches]
      by_cases hpatch : r.action = .patchValue
      · obtain ⟨p₁, hfirst, hdid₁, hcell₁⟩ := patchAttribute_did hcell r.mismatch.divergence
        obtain ⟨p₂, hrest, hdid₂, hcell₂⟩ := @ih (p₁.record r.mismatch r.action) _ hcell₁
        rw [if_pos hpatch]
        refine ⟨p₂, ?_, (hdid₁.record r.mismatch r.action).andThen hdid₂, hcell₂⟩
        simp only [repairAttributes, hpatch, decide_true, Bool.not_false, Bool.and_true, if_true,
          hfirst, bind, Except.bind]
        rw [hpatch] at hrest
        exact hrest
      · obtain ⟨p₂, hrest, hdid₂, hcell₂⟩ := @ih (p.record r.mismatch r.action) _ hcell
        rw [if_neg hpatch]
        have hdid₁ : p.Did .none [id] p := (Did.refl p).weaken (List.nil_subset _)
        refine ⟨p₂, ?_, (hdid₁.record r.mismatch r.action).andThen hdid₂, hcell₂⟩
        simp only [repairAttributes, hpatch, decide_false, Bool.false_and, Bool.false_eq_true,
          if_false, bind, Except.bind]
        exact hrest

/-! ### The walk -/

/-- An element where an element with its tag is expected, if the nodes below it are taken care
of. -/
theorem walkElement_carries {p : Pass} {place : Place} {t : Snapshot} (o : HydrationOptions)
    (path : List Nat) (hd : p.document.Reachable) (hhas : p.document.Has place [t])
    {tag : String} (htag : t.payload.tag? = some tag) (attributes : OrderedMap String)
    (children : List VNode)
    (hbelow : ∀ (p' : Pass) (place' : Place), p'.document.Reachable →
      p'.document.Has place' t.children → place'.payload.isContainer = true →
      place'.behind = [] →
      p'.Carries place' t.children
        (Plan.nodes o place'.payload.describe path p'.document.cells.size 0 t.children children)
        (walkNodes o place'.parent path p' 0 ((live t.children).map Snapshot.id) children)) :
    p.Carries place [t]
      (Plan.node o place.payload.describe path p.document.cells.size t
        (.element tag attributes children)).single
      (walkNode o place.parent t.id path p (.element tag attributes children)) := by
  obtain ⟨found, ht⟩ := Payload.exists_of_tag? htag
  have hcell := hhas.held.1.cell
  rw [ht] at hcell
  have hpayload := Document.payload?_of_cell? hcell
  have hfound : p.document.tag? t.id = some tag := by
    rw [Document.tag?, hpayload]
    rfl
  rw [walkNode, if_pos hfound, attributeRecords_eq hpayload]
  simp only [Payload.attributes?, Option.getD_some]
  by_cases hreplace :
      ∃ r ∈ Plan.differences o tag path attributes found, r.action = .replaceNode
  · rw [Plan.node_of_replace ht hreplace]
    have hany : ((Plan.differences o tag path attributes found).any
        fun r => decide (r.action = .replaceNode)) = true := by simpa using hreplace
    obtain ⟨p₁, hrepair, hdid₁, hdocument⟩ := repairAttributes_replace t.id p
      (Plan.differences o tag path attributes found)
    rw [← hdocument] at hd hhas
    obtain ⟨p₂, hrun, hdid₂, hhas₂⟩ := replace_carries hd hhas (.element tag attributes children)
    rw [hdocument] at hdid₂ hhas₂
    refine ⟨p₂, ?_, hdid₁.trans hdid₂, hhas₂⟩
    simp only [hany, hrepair, hrun, bind, Except.bind, if_true]
  · rw [Plan.node_of_patch ht hreplace]
    have hany : ((Plan.differences o tag path attributes found).any
        fun r => decide (r.action = .replaceNode)) = false := by simpa using hreplace
    obtain ⟨p₁, hrepair, hdid₁, hcell₁⟩ := repairAttributes_did hcell
      (Plan.differences o tag path attributes found)
    have hhas₁ := hhas.change hd.sound hdid₁.cell hcell₁
    have hd₁ := hdid₁.reachable hd
    obtain ⟨p₂, hrun, hdid₂, hhas₂⟩ := hbelow p₁
      ⟨t.id, .element tag (Plan.patches found
        (Plan.differences o tag path attributes found)).value, some place.parent, [], []⟩ hd₁
      ⟨by simpa using hcell₁, hhas₁.held.1.below⟩ rfl rfl
    rw [hdid₁.size, Plan.count_patches, Nat.add_zero] at hdid₂ hhas₂
    have hlive : p₁.document.liveChildren t.id = (live t.children).map Snapshot.id :=
      liveChildren_eq (Document.children_of_cell? hcell₁) hhas₁.held.1.below
    refine ⟨p₂, ?_, (hdid₁.trans hdid₂).weaken fun i hi => ?_, ?_, ⟨?_, hhas₂.held⟩, trivial⟩
    · simp only [hany, hrepair, hlive, hrun, bind, Except.bind, Bool.false_eq_true, if_false]
    · have hids : t.ids = t.id :: listIds t.children := by
        obtain ⟨id, payload, below⟩ := t
        exact Snapshot.ids_node id payload below
      simp only [Snapshot.listIds_cons, Snapshot.listIds_nil, List.append_nil, hids]
      simp only [List.mem_append, List.mem_cons, List.not_mem_nil, or_false] at hi ⊢
      tauto
    · -- the parent is not touched below the element
      have hnot := hhas₁.parent_not_mem hd₁.sound
      simp only [Snapshot.listIds_cons, Snapshot.listIds_nil, List.append_nil,
        Snapshot.ids_node] at hnot
      have hparent := hhas₁.cell
      rw [← hdid₂.cell place.parent (Document.lt_size_of_cell? hparent) hnot] at hparent
      exact hparent
    · have hcell₂ := hhas₂.cell
      simp only [List.nil_append, List.append_nil] at hcell₂
      exact hcell₂

mutual

/-- **A live node where a node is expected**: the walk is not refused, and carries out its
plan. -/
theorem walkNode_carries (o : HydrationOptions) (path : List Nat) {p : Pass} {place : Place}
    {t : Snapshot} (hd : p.document.Reachable) (hhas : p.document.Has place [t]) (n : VNode) :
    p.Carries place [t]
      (Plan.node o place.payload.describe path p.document.cells.size t n).single
      (walkNode o place.parent t.id path p n) := by
  have hpayload := Document.payload?_of_cell? hhas.held.1.cell
  cases n with
  | element tag attributes children =>
      by_cases htag : t.payload.tag? = some tag
      · exact walkElement_carries o path hd hhas htag attributes children
          fun p' place' hd' hhas' hcontainer hbehind =>
            walkNodes_carries o path hd' hhas' hcontainer hbehind 0 children
      · have hfound : p.document.tag? t.id ≠ some tag := by
          rwa [Document.tag?, hpayload, Option.bind_some]
        rw [walkNode, Plan.node, if_neg hfound, if_neg htag]
        exact missing_carries hd hhas o path (.element tag attributes children)
  | text s =>
      rw [walkNode, Plan.node, hpayload, Option.any_some]
      cases ht : t.payload with
      | text found => exact walkText_carries hd hhas ht o path s
      | element tag found => exact missing_carries hd hhas o path (.text s)
      | comment found => exact missing_carries hd hhas o path (.text s)
      | document => exact missing_carries hd hhas o path (.text s)

/-- **Neighbouring live nodes where nodes are expected**: the walk is not refused, and carries
out its plan. -/
theorem walkNodes_carries (o : HydrationOptions) (path : List Nat) {p : Pass} {place : Place}
    {ts : List Snapshot} (hd : p.document.Reachable) (hhas : p.document.Has place ts)
    (hcontainer : place.payload.isContainer = true) (hbehind : place.behind = []) (index : Nat)
    (ns : List VNode) :
    p.Carries place ts
      (Plan.nodes o place.payload.describe path p.document.cells.size index ts ns)
      (walkNodes o place.parent path p index ((live ts).map Snapshot.id) ns) := by
  cases ns with
  | nil =>
      rw [walkNodes, Plan.nodes]
      exact extras_carries o path ts hd hhas index
  | cons n ns =>
      rcases Snapshot.live_split ts with hnone | ⟨comments, t, rest, rfl, hcomments, ht⟩
      · rw [Plan.nodes_of_live_eq_nil hnone, hnone]
        refine @Carries.append p place ts [] ts (List.append_nil ts).symm hd _ _ (.ok p)
          (fun p => walkNodes o place.parent path p index [] (n :: ns)) hhas
          Carries.keep fun p' hd' hkept hhas' => ?_
        have hsize : p'.document.cells.size = p.document.cells.size := hkept
        refine @Carries.append p' _ [] [] [] rfl hd' _ _
          (p'.missing o place.parent n none (path ++ [index]))
          (fun p => walkNodes o place.parent path p (index + 1) [] ns) hhas'
          (fun hhas'' => ?_) fun p'' hd'' hsize'' hhas'' => ?_
        · rw [← hsize]
          exact absent_carries hd' hhas'' hcontainer hbehind o (path ++ [index]) n
        · have hrest := walkNodes_carries o path hd'' hhas'' hcontainer hbehind (index + 1) ns
          rwa [hsize'', hsize] at hrest
      · rw [Plan.nodes_of_live hcomments ht, Snapshot.live_append_cons hcomments ht]
        refine @Carries.append p place comments (t :: rest) _ rfl hd _ _ (.ok p)
          (fun p => walkNodes o place.parent path p index
            (t.id :: (live rest).map Snapshot.id) (n :: ns)) hhas Carries.keep
          fun p' hd' hkept hhas' => ?_
        have hsize : p'.document.cells.size = p.document.cells.size := hkept
        refine @Carries.append p' _ [t] rest _ rfl hd' _ _
          (walkNode o place.parent t.id (path ++ [index]) p' n)
          (fun p => walkNodes o place.parent path p (index + 1)
            ((live rest).map Snapshot.id) ns) hhas'
          (fun hhas'' => ?_) fun p'' hd'' hsize'' hhas'' => ?_
        · have hfirst := walkNode_carries o (path ++ [index]) hd' hhas'' n
          rwa [hsize] at hfirst
        · have hrest := walkNodes_carries o path hd'' hhas'' hcontainer hbehind (index + 1) ns
          rwa [hsize'', hsize] at hrest

end

end Pass

end TwinRender
