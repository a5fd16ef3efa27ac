import TwinRender.Proofs.Hydration.Plan

/-!
# What a part of a pass did

A part of a pass has an effect: it adds records and messages, counts what it did, and changes
nodes. All nodes that were known and that it did not touch are as they were. The repairs of a pass
are the parts that touch nodes; none of them is refused.

## Main definitions

* `Pass.Did`: a part of a pass had an effect, and touched no other nodes than the given ones.

## Main results

* `Pass.Did.trans`: the effect of one part behind another.
* `Pass.replace_did`, `Pass.append_did`, `Pass.remove_did`, `Pass.setText_did`,
  `Pass.patchAttribute_did`: **repairs are not refused**, and have the effects of their plans.
-/

namespace TwinRender

/-- A node that is found is described by its payload. -/
theorem Document.describe_of_cell? {d : Document} {id : NodeId} {c : Cell}
    (h : d.cell? id = some c) : d.describe id = c.payload.describe := by
  rw [describe, payload?_of_cell? h]
  cases c.payload <;> rfl

/-- The messages after some records. -/
def Diagnostics.reportAll (ds : Diagnostics) (records : List Record) : Diagnostics :=
  records.foldl (fun ds r => if r.action.isReported then ds.report r.mismatch else ds) ds

namespace Pass

/-- A part of a pass had an effect, and touched no other known nodes than the given ones. -/
structure Did (p : Pass) (e : Effect) (touched : List NodeId) (p' : Pass) : Prop where
  /-- The records were added. -/
  records : p'.records = p.records ++ e.records
  /-- The records were reported. -/
  diagnostics : p'.diagnostics = p.diagnostics.reportAll e.records
  /-- The replaced nodes were counted. -/
  replaced : p'.replaced = p.replaced + e.replaced
  /-- The patched values were counted. -/
  patched : p'.patched = p.patched + e.patched
  /-- The edits were counted. -/
  mutations : p'.document.mutations = p.document.mutations + e.edits
  /-- There are so many more nodes. -/
  size : p'.document.cells.size = p.document.cells.size + e.count
  /-- The other nodes are as they were. -/
  cell : ∀ i < p.document.cells.size, i ∉ touched → p'.document.cell? i = p.document.cell? i
  /-- The document was edited in no other way than programs can. -/
  reachable : p.document.Reachable → p'.document.Reachable

namespace Did

variable {p p' p'' : Pass} {e e' : Effect} {touched touched' : List NodeId}

/-- Nothing was done. -/
theorem refl (p : Pass) : p.Did .none [] p :=
  ⟨(List.append_nil _).symm, rfl, rfl, rfl, rfl, rfl, fun _ _ _ => rfl, id⟩

/-- More nodes may have been touched. -/
theorem weaken (h : p.Did e touched p') (hsubset : touched ⊆ touched') : p.Did e touched' p' :=
  { h with cell := fun i hi hnot => h.cell i hi fun hmem => hnot (hsubset hmem) }

/-- **One part of a pass behind another.** -/
theorem trans (h : p.Did e touched p') (h' : p'.Did e' touched' p'') :
    p.Did (e ++ e') (touched ++ touched') p'' where
  records := by rw [h'.records, h.records, Effect.records_append, List.append_assoc]
  diagnostics := by
    rw [h'.diagnostics, h.diagnostics, Effect.records_append]
    exact List.foldl_append.symm
  replaced := by rw [h'.replaced, h.replaced, Effect.replaced_append, Nat.add_assoc]
  patched := by rw [h'.patched, h.patched, Effect.patched_append, Nat.add_assoc]
  mutations := by rw [h'.mutations, h.mutations, Effect.edits_append, Nat.add_assoc]
  size := by rw [h'.size, h.size, Effect.count_append, Nat.add_assoc]
  cell i hi hnot := by
    rw [List.mem_append, not_or] at hnot
    rw [h'.cell i (by rw [h.size]; exact Nat.lt_add_right _ hi) hnot.2, h.cell i hi hnot.1]
  reachable := fun hd => h'.reachable (h.reachable hd)

/-- One part of a pass behind another, that touched the same nodes. -/
theorem andThen (h : p.Did e touched p') (h' : p'.Did e' touched p'') :
    p.Did (e ++ e') touched p'' :=
  (h.trans h').weaken (List.append_subset.mpr ⟨List.Subset.refl _, List.Subset.refl _⟩)

/-- A record was made in the end. -/
theorem record (h : p.Did e touched p') (m : Mismatch) (action : RepairAction) :
    p.Did (e ++ .ofRecords [⟨m, action⟩]) touched (p'.record m action) := by
  have hrecord : p'.Did (.ofRecords [⟨m, action⟩]) [] (p'.record m action) :=
    ⟨rfl, rfl, rfl, rfl, rfl, rfl, fun _ _ _ => rfl, id⟩
  exact (h.trans hrecord).weaken (by rw [List.append_nil]; exact List.Subset.refl _)

end Did

/-! ### Repairs -/

section

variable {p : Pass} {parent old : NodeId} {payload : Payload} {above : Option NodeId}
  {before behind : List NodeId}

/-- What a child in the middle of others says about a sound document. -/
theorem middle_child (hd : p.document.Sound)
    (hparent : p.document.cell? parent = some ⟨payload, above, before ++ old :: behind⟩) :
    payload.isContainer = true ∧ old ∈ p.document.children parent ∧ old ∉ before ∧
      old ≠ parent := by
  have hchildren := Document.children_of_cell? hparent
  have hmem : old ∈ p.document.children parent := by rw [hchildren]; simp
  have hcontainer := hd.container parent (List.ne_nil_of_mem hmem)
  have hnodup := hd.nodup parent
  rw [Document.payload?_of_cell? hparent, Option.any_some] at hcontainer
  rw [hchildren, List.nodup_middle, List.nodup_cons, List.mem_append, not_or] at hnodup
  refine ⟨hcontainer, hmem, hnodup.1.1, ?_⟩
  rintro rfl
  exact hd.not_above_parent ((hd.linked old old).mpr hmem) (Document.Above.refl _ old)

/-- **A replacement is not refused.** -/
theorem replace_did (hd : p.document.Reachable)
    (hparent : p.document.cell? parent = some ⟨payload, above, before ++ old :: behind⟩)
    (n : VNode) :
    ∃ p', p.replace parent n old = .ok p' ∧
      p.Did (Plan.put p.document.cells.size n).effect [parent, old] p' ∧
      p'.document.cell? parent =
        some ⟨payload, above, before ++ p.document.cells.size :: behind⟩ ∧
      p'.document.Holds (some parent) (n.mounted p.document.cells.size) := by
  obtain ⟨hcontainer, hmem, hnot, hne⟩ := middle_child hd.sound hparent
  obtain ⟨d₁, hmount, hextends, hheld, hreachable, hcheck⟩ :=
    Document.mount_insertable hd hparent hcontainer n
  have hknown := Document.lt_size_of_cell? hparent
  have hold := hd.sound.child_lt_size hmem
  have hparent₁ := (hextends.cell parent hknown).trans hparent
  have htop := hheld.cell
  rw [VNode.id_mounted] at htop
  obtain ⟨d₂, hreplace, hsize, hmutations, hparent₂, htop₂, hcells⟩ :=
    Document.exists_replaceChild hparent₁ hcheck hnot hne (Nat.ne_of_gt hold)
  refine ⟨p.replacedTo d₂, ?_, ⟨(List.append_nil _).symm, rfl, rfl, rfl, ?_, ?_, ?_, ?_⟩,
    hparent₂, ?_⟩
  · simp only [replace, hmount, Document.attempt_ok, hreplace, bind, Except.bind]
    rfl
  · exact hmutations.trans (by rw [hextends.mutations]; rfl)
  · exact hsize.trans hextends.size
  · intro i hi hnot
    simp only [List.mem_cons, List.not_mem_nil, or_false, not_or] at hnot
    exact (hcells i hnot.1 (Nat.ne_of_lt hi) hnot.2).trans (hextends.cell i hi)
  · exact fun _ => hreachable.replaceChild hreplace
  · refine hheld.attach (by rw [replacedTo, htop₂, htop]; rfl) fun i hi => ?_
    exact hcells i (Nat.ne_of_gt (hknown.trans hi)) (Nat.ne_of_gt hi)
      (Nat.ne_of_gt (hold.trans hi))

/-- **A node behind all others is not refused.** -/
theorem append_did (hd : p.document.Reachable)
    (hparent : p.document.cell? parent = some ⟨payload, above, before⟩)
    (hcontainer : payload.isContainer = true) (n : VNode) :
    ∃ d₁ d₂, p.document.mount n = .ok (d₁, p.document.cells.size) ∧
      d₁.appendChild parent p.document.cells.size = .ok d₂ ∧
      p.Did (Plan.put p.document.cells.size n).effect [parent] (p.replacedTo d₂) ∧
      d₂.cell? parent = some ⟨payload, above, before ++ [p.document.cells.size]⟩ ∧
      d₂.Holds (some parent) (n.mounted p.document.cells.size) := by
  obtain ⟨d₁, hmount, hextends, hheld, hreachable, hcheck⟩ :=
    Document.mount_insertable hd hparent hcontainer n
  have hknown := Document.lt_size_of_cell? hparent
  have hparent₁ := (hextends.cell parent hknown).trans hparent
  have htop := hheld.cell
  rw [VNode.id_mounted] at htop
  obtain ⟨d₂, happend, hsize, hmutations, hparent₂, htop₂, hcells⟩ :=
    Document.exists_appendChild hparent₁ hcheck
  refine ⟨d₁, d₂, hmount, happend, ⟨(List.append_nil _).symm, rfl, rfl, rfl, ?_, ?_, ?_, ?_⟩,
    hparent₂, ?_⟩
  · exact hmutations.trans (by rw [hextends.mutations]; rfl)
  · exact hsize.trans hextends.size
  · intro i hi hnot
    rw [List.mem_singleton] at hnot
    exact (hcells i hnot (Nat.ne_of_lt hi)).trans (hextends.cell i hi)
  · exact fun _ => hreachable.appendChild happend
  · refine hheld.attach (by rw [htop₂, htop]; rfl) fun i hi => ?_
    exact hcells i (Nat.ne_of_gt (hknown.trans hi)) (Nat.ne_of_gt hi)

/-- **A removal is not refused.** -/
theorem remove_did (hd : p.document.Reachable)
    (hparent : p.document.cell? parent = some ⟨payload, above, before ++ old :: behind⟩) :
    ∃ d', p.document.removeChild parent old = .ok d' ∧
      p.Did Plan.drop.effect [parent, old] (p.replacedTo d') ∧
      d'.cell? parent = some ⟨payload, above, before ++ behind⟩ := by
  obtain ⟨-, -, hnot, hne⟩ := middle_child hd.sound hparent
  obtain ⟨d', hremove, hsize, hmutations, hparent', hcells⟩ :=
    Document.exists_removeChild hparent hnot hne
  refine ⟨d', hremove, ⟨(List.append_nil _).symm, rfl, rfl, rfl, hmutations, hsize, ?_, ?_⟩,
    hparent'⟩
  · intro i _ hnot
    simp only [List.mem_cons, List.not_mem_nil, or_false, not_or] at hnot
    exact hcells i hnot.1 hnot.2
  · exact fun _ => hd.removeChild hremove

end

section

variable {p : Pass} {id : NodeId} {above : Option NodeId} {children : List NodeId}

/-- **A new text is not refused.** -/
theorem setText_did {found : String}
    (hcell : p.document.cell? id = some ⟨.text found, above, children⟩) (expected : String) :
    ∃ d', p.document.setText id expected = .ok d' ∧
      p.Did ⟨[], 0, 1, 1, 0⟩ [id] (p.patchedTo d') ∧
      d'.cell? id = some ⟨.text expected, above, children⟩ := by
  have hset := Document.setText_eq_ok_iff.mpr ⟨.text expected,
    Or.inl ⟨found, Document.payload?_of_cell? hcell, rfl⟩, rfl⟩
  refine ⟨_, hset, ⟨(List.append_nil _).symm, rfl, rfl, rfl, rfl, ?_, ?_, ?_⟩, ?_⟩
  · simp [patchedTo]
  · intro i _ hnot
    rw [List.mem_singleton] at hnot
    simp [patchedTo, hnot]
  · exact fun hd => hd.setText hset
  · simp [hcell]

/-- **A new value of an attribute is not refused.** -/
theorem setAttribute_did {tag : String} {found : OrderedMap String}
    (hcell : p.document.cell? id = some ⟨.element tag found, above, children⟩)
    (name value : String) :
    ∃ d', p.document.setAttribute id name value = .ok d' ∧
      p.Did ⟨[], 0, 1, 1, 0⟩ [id] (p.patchedTo d') ∧
      d'.cell? id = some ⟨.element tag (found.insert name.toLower value), above, children⟩ := by
  have hset := (@Document.setAttribute_eq_ok_iff p.document _ id name value).mpr
    ⟨tag, found, Document.payload?_of_cell? hcell, rfl⟩
  refine ⟨_, hset, ⟨(List.append_nil _).symm, rfl, rfl, rfl, rfl, ?_, ?_, ?_⟩, ?_⟩
  · simp [patchedTo]
  · intro i _ hnot
    rw [List.mem_singleton] at hnot
    simp [patchedTo, hnot]
  · exact fun hd => hd.setAttribute hset
  · simp [hcell]

/-- Erasing a key that is not there changes nothing. -/
theorem erase_of_not_contains {found : OrderedMap String} {key : String}
    (h : found.contains key = false) : found.erase key = found := by
  have hnot : key ∉ found.keys := by
    rw [OrderedMap.mem_keys_iff, h]
    exact Bool.false_ne_true
  refine OrderedMap.ext_toList (List.filter_eq_self.mpr fun e he => ?_)
  simp only [ne_eq, decide_not, Bool.not_eq_true', decide_eq_false_iff_not]
  rintro rfl
  exact hnot (List.mem_map.mpr ⟨e, he, rfl⟩)

/-- **The removal of an attribute is not refused.** -/
theorem removeAttribute_did {tag : String} {found : OrderedMap String}
    (hcell : p.document.cell? id = some ⟨.element tag found, above, children⟩) (name : String) :
    ∃ d', p.document.removeAttribute id name = .ok (d', found.get? name.toLower) ∧
      p.Did ⟨[], 0, 1, if found.contains name.toLower then 1 else 0, 0⟩ [id] (p.patchedTo d') ∧
      d'.cell? id = some ⟨.element tag (found.erase name.toLower), above, children⟩ := by
  have hremove := (@Document.removeAttribute_eq_ok_iff p.document _ id name
    (found.get? name.toLower)).mpr ⟨tag, found, Document.payload?_of_cell? hcell, rfl, rfl⟩
  refine ⟨_, hremove, ?_⟩
  by_cases hc : found.contains name.toLower = true
  · have hsome : (found.get? name.toLower).isNone = false := by
      rw [Option.isNone_eq_false_iff]
      exact hc
    rw [hsome] at hremove ⊢
    rw [if_pos hc]
    refine ⟨⟨(List.append_nil _).symm, rfl, rfl, rfl, rfl, ?_, ?_, ?_⟩, ?_⟩
    · simp [patchedTo]
    · intro i _ hnot
      rw [List.mem_singleton] at hnot
      simp [patchedTo, hnot]
    · exact fun hd => hd.removeAttribute hremove
    · simp [hcell]
  · rw [Bool.not_eq_true] at hc
    have hnone : (found.get? name.toLower).isNone = true := by
      simpa [OrderedMap.contains] using hc
    rw [hnone, hc, erase_of_not_contains hc]
    refine ⟨⟨(List.append_nil _).symm, rfl, rfl, rfl, rfl, rfl, ?_, ?_⟩, ?_⟩
    · intro i _ _
      rfl
    · exact fun hd => hd
    · simpa using hcell

/-- **A patch of an attribute is not refused.** -/
theorem patchAttribute_did {tag : String} {found : OrderedMap String}
    (hcell : p.document.cell? id = some ⟨.element tag found, above, children⟩)
    (divergence : Divergence) :
    ∃ p', p.patchAttribute id divergence = .ok p' ∧
      p.Did (Plan.patch found divergence).effect [id] p' ∧
      p'.document.cell? id =
        some ⟨.element tag (Plan.patch found divergence).value, above, children⟩ := by
  rcases divergence with ⟨name, expected, live⟩ | ⟨_, _⟩ | ⟨_, _⟩ | _
  · cases expected with
    | some value =>
        obtain ⟨d', hset, hdid, hcell'⟩ := setAttribute_did hcell name value
        refine ⟨p.patchedTo d', ?_, hdid, hcell'⟩
        rw [patchAttribute, hset, Document.attempt_ok]
        rfl
    | none =>
        obtain ⟨d', hremove, hdid, hcell'⟩ := removeAttribute_did hcell name
        refine ⟨p.patchedTo d', ?_, hdid, hcell'⟩
        rw [patchAttribute, hremove, Document.attempt_ok]
        rfl
  all_goals exact ⟨p, rfl, (Did.refl p).weaken (List.nil_subset _), hcell⟩

end

end Pass

end TwinRender
