import TwinRender.Proofs.Hydration.Conformity
import TwinRender.Proofs.Hydration.Fixpoint

/-!
# The counters of a report

A report says how many nodes were put in, taken out or replaced, and how many values were patched.
Both numbers can be read off its records: a node counts once, however many records ask for its
replacement, and its values are not patched then. Together with what it takes to mount the expected
nodes they account for every edit of the document.

## Main definitions

* `replacedAt`, `patchCount`: what records say about replaced nodes and patched values.
* `expectedAt?`, `mountedAt`: the expected node at a place, and what it takes to mount it.
* `Effect.Accounts`: the counters of a part of a pass are what its records say.

## Main results

* `Plan.effect_patches`: every patch of an attribute is one edit.
* `Plan.node_accounts`, `Plan.nodes_account`: **the counters of a plan are what its records say**.
* `hydrateNodes_accounts`: **the counters of a report account for every edit**, and without one
  that is asked for the document is the same.
-/

namespace TwinRender

open Snapshot (live)

/-! ### Expected nodes -/

namespace VNode

/-- The nodes directly below an expected node. -/
def children : VNode → List VNode
  | .element _ _ children => children
  | .text _ => []

/-- The expected node at a path below an expected node. -/
def below? (n : VNode) : List Nat → Option VNode
  | [] => some n
  | i :: path => (n.children[i]?).bind fun c => c.below? path

mutual

/-- The number of attributes in a tree. -/
def attributeCount : VNode → Nat
  | .element _ attributes children => attributes.toList.length + listAttributeCount children
  | .text _ => 0

/-- The number of attributes in some trees. -/
def listAttributeCount : List VNode → Nat
  | [] => 0
  | n :: ns => n.attributeCount + listAttributeCount ns

end

/-- The attributes of a node, the nodes below it, and the attributes of those. -/
def parts (n : VNode) : Nat := n.attributeCount + listCount n.children

mutual

/-- **It takes an edit for every attribute and for every node below** to mount a node. -/
theorem edits_eq_parts (n : VNode) : n.edits = n.parts := by
  cases n with
  | text s => rfl
  | element tag attributes children =>
      rw [edits, parts, attributeCount, VNode.children, listEdits_eq children]
      omega

/-- It takes an edit for every attribute and for every node to mount some nodes. -/
theorem listEdits_eq (ns : List VNode) : listEdits ns = listAttributeCount ns + listCount ns := by
  cases ns with
  | nil => rfl
  | cons n ns =>
      have hcount : n.count = listCount n.children + 1 := by cases n <;> rfl
      rw [listEdits, listAttributeCount, listCount, edits_eq_parts n, parts, listEdits_eq ns, hcount]
      omega

end

end VNode

/-- The expected node at a place below the root of a pass. -/
def expectedAt? (expected : List VNode) : List Nat → Option VNode
  | [] => none
  | i :: path => (expected[i]?).bind fun n => n.below? path

/-- What is mounted with the expected node at a place, if there is one. -/
def mountedAt (expected : List VNode) (path : List Nat) : Nat :=
  (expectedAt? expected path).elim 0 VNode.parts

/-! ### What records say -/

/-- The places at which nodes were put in, taken out or replaced. -/
def replacedAt (records : List Record) : Finset (List Nat) :=
  ((records.filter fun r => r.action = .replaceNode).map fun r => r.mismatch.path).toFinset

/-- A value was patched: it was to be patched, and its node was not replaced. -/
def Record.patches (records : List Record) (r : Record) : Bool :=
  r.action = .patchValue && r.mismatch.path ∉ replacedAt records

/-- The number of values that were patched. -/
def patchCount (records : List Record) : Nat := records.countP (Record.patches records)

/-- There was a node put in, taken out or replaced where a record says so. -/
theorem mem_replacedAt {records : List Record} {path : List Nat} :
    path ∈ replacedAt records ↔
      ∃ r ∈ records, r.action = .replaceNode ∧ r.mismatch.path = path := by
  simp only [replacedAt, List.mem_toFinset, List.mem_map, List.mem_filter, decide_eq_true_eq,
    and_assoc]

/-- The replaced nodes of one list of records behind another. -/
theorem replacedAt_append (a b : List Record) :
    replacedAt (a ++ b) = replacedAt a ∪ replacedAt b := by
  rw [replacedAt, List.filter_append, List.map_append, List.toFinset_append, ← replacedAt,
    ← replacedAt]

/-- Nothing was put in, taken out or replaced where no record says so. -/
theorem replacedAt_eq_empty_iff {records : List Record} :
    replacedAt records = ∅ ↔ ∀ r ∈ records, r.action ≠ .replaceNode := by
  constructor
  · intro hempty r hr haction
    have hmem : r.mismatch.path ∈ replacedAt records := mem_replacedAt.mpr ⟨r, hr, haction, rfl⟩
    rw [hempty] at hmem
    cases hmem
  · intro h
    refine Finset.eq_empty_of_forall_notMem fun path hpath => ?_
    obtain ⟨r, hr, haction, -⟩ := mem_replacedAt.mp hpath
    exact h r hr haction

/-- Where no node is replaced, everything is patched that is to be patched. -/
theorem patchCount_of_kept {records : List Record} (h : ∀ r ∈ records, r.action ≠ .replaceNode) :
    patchCount records = records.countP fun r => r.action = .patchValue := by
  rw [patchCount]
  refine List.countP_congr fun r _ => ?_
  rw [Record.patches, replacedAt_eq_empty_iff.mpr h]
  simp

/-- Nothing is done about any mismatch exactly if no node is replaced and no value is patched. -/
theorem mutates_eq_false_iff {records : List Record} :
    (∀ r ∈ records, r.action.mutates = false) ↔
      replacedAt records = ∅ ∧ patchCount records = 0 := by
  have hmutates (action : RepairAction) :
      action.mutates = false ↔ action ≠ .replaceNode ∧ action ≠ .patchValue := by
    cases action <;> decide
  rw [replacedAt_eq_empty_iff]
  constructor
  · intro h
    have hkept : ∀ r ∈ records, r.action ≠ .replaceNode :=
      fun r hr => ((hmutates _).mp (h r hr)).1
    refine ⟨hkept, ?_⟩
    rw [patchCount_of_kept hkept, List.countP_eq_zero]
    intro r hr
    simpa using ((hmutates _).mp (h r hr)).2
  · rintro ⟨hkept, hpatched⟩ r hr
    rw [patchCount_of_kept hkept, List.countP_eq_zero] at hpatched
    exact (hmutates _).mpr ⟨hkept r hr, by simpa using hpatched r hr⟩

section

variable {a b : List Record} (h : ∀ r ∈ a, ∀ s ∈ b, r.mismatch.path ≠ s.mismatch.path)

include h

/-- Nodes at different places are different nodes. -/
theorem disjoint_replacedAt : Disjoint (replacedAt a) (replacedAt b) := by
  rw [Finset.disjoint_left]
  intro path ha hb
  obtain ⟨r, hr, -, rfl⟩ := mem_replacedAt.mp ha
  obtain ⟨s, hs, -, hpath⟩ := mem_replacedAt.mp hb
  exact h r hr s hs hpath.symm

/-- The patched values of neighbours are counted independently. -/
theorem patchCount_append : patchCount (a ++ b) = patchCount a + patchCount b := by
  rw [patchCount, List.countP_append]
  congr 1
  · refine List.countP_congr fun r hr => ?_
    have hother : r.mismatch.path ∉ replacedAt b := fun hmem => by
      obtain ⟨s, hs, -, hpath⟩ := mem_replacedAt.mp hmem
      exact h r hr s hs hpath.symm
    simp [Record.patches, replacedAt_append, hother]
  · refine List.countP_congr fun s hs => ?_
    have hother : s.mismatch.path ∉ replacedAt a := fun hmem => by
      obtain ⟨r, hr, -, hpath⟩ := mem_replacedAt.mp hmem
      exact h r hr s hs hpath
    simp [Record.patches, replacedAt_append, hother]

end

/-! ### Counters that are what records say -/

/-- Records before an effect that has none are its records. -/
theorem Effect.ofRecords_append (records : List Record) (replaced patched edits count : Nat) :
    Effect.ofRecords records ++ ⟨[], replaced, patched, edits, count⟩ =
      ⟨records, replaced, patched, edits, count⟩ := by
  have happend (e : Effect) : ofRecords records ++ e = ⟨records ++ e.records, 0 + e.replaced,
      0 + e.patched, 0 + e.edits, 0 + e.count⟩ := rfl
  simp only [happend, List.append_nil, Nat.zero_add]

/-- The counters of a part of a pass are what its records say, when it takes so many edits more to
mount the expected node at a place. -/
structure Effect.Accounts (e : Effect) (mounted : List Nat → Nat) : Prop where
  /-- Every node that was put in, taken out or replaced is counted once. -/
  replaced : e.replaced = (replacedAt e.records).card
  /-- Every patched value is counted. -/
  patched : e.patched = patchCount e.records
  /-- There are no other edits than these, and those of mounting. -/
  edits : e.edits = e.patched + e.replaced + ∑ path ∈ replacedAt e.records, mounted path

namespace Effect.Accounts

variable {a b : Effect} {mounted : List Nat → Nat}

/-- **The counters of neighbours add up**, when their records are at different places. -/
theorem append (ha : a.Accounts mounted) (hb : b.Accounts mounted)
    (h : ∀ r ∈ a.records, ∀ s ∈ b.records, r.mismatch.path ≠ s.mismatch.path) :
    (a ++ b).Accounts mounted := by
  have hdisjoint := disjoint_replacedAt h
  constructor
  · rw [replaced_append, records_append, replacedAt_append, Finset.card_union_of_disjoint hdisjoint,
      ha.replaced, hb.replaced]
  · rw [patched_append, records_append, patchCount_append h, ha.patched, hb.patched]
  · rw [edits_append, patched_append, replaced_append, records_append, replacedAt_append,
      Finset.sum_union hdisjoint, ha.edits, hb.edits]
    omega

/-- Records about which nothing is done. -/
theorem of_kept {records : List Record} (h : ∀ r ∈ records, r.action.mutates = false) :
    (Effect.ofRecords records).Accounts mounted := by
  obtain ⟨hreplaced, hpatched⟩ := mutates_eq_false_iff.mp h
  refine ⟨?_, hpatched.symm, ?_⟩
  · rw [ofRecords, hreplaced, Finset.card_empty]
  · rw [ofRecords, hreplaced, Finset.sum_empty]
    rfl

/-- A node is put in, taken out or replaced at the only place of some records. -/
theorem of_replaced {records : List Record} {path : List Nat} {edits count : Nat}
    (hpath : ∀ r ∈ records, r.mismatch.path = path) (h : ∃ r ∈ records, r.action = .replaceNode)
    (hmounted : mounted path = edits) :
    Effect.Accounts ⟨records, 1, 0, edits + 1, count⟩ mounted := by
  obtain ⟨s, hs, haction⟩ := h
  have hplace : replacedAt records = {path} := by
    ext other
    rw [mem_replacedAt, Finset.mem_singleton]
    constructor
    · rintro ⟨r, hr, -, rfl⟩
      exact hpath r hr
    · rintro rfl
      exact ⟨s, hs, haction, hpath s hs⟩
  have hnone : patchCount records = 0 := by
    rw [patchCount, List.countP_eq_zero]
    intro r hr
    simp [Record.patches, hplace, hpath r hr]
  refine ⟨?_, hnone.symm, ?_⟩
  · rw [hplace, Finset.card_singleton]
  · rw [hplace, Finset.sum_singleton, hmounted]
    change edits + 1 = 0 + 1 + edits
    omega

/-- Values are patched where no node is replaced. -/
theorem of_patched {records : List Record} {n : Nat}
    (hstay : ∀ r ∈ records, r.action ≠ .replaceNode)
    (hn : (records.countP fun r => r.action = .patchValue) = n) :
    Effect.Accounts ⟨records, 0, n, n, 0⟩ mounted := by
  have hempty := replacedAt_eq_empty_iff.mpr hstay
  refine ⟨?_, ?_, ?_⟩
  · rw [hempty, Finset.card_empty]
  · rw [patchCount_of_kept hstay, hn]
  · rw [hempty, Finset.sum_empty]
    rfl

/-- **There is no edit exactly if nothing is done** about any mismatch. -/
theorem edits_eq_zero_iff (h : a.Accounts mounted) :
    a.edits = 0 ↔ ∀ r ∈ a.records, r.action.mutates = false := by
  rw [mutates_eq_false_iff, h.edits]
  constructor
  · intro hnone
    have hreplaced : a.replaced = 0 := by omega
    have hpatched : a.patched = 0 := by omega
    rw [h.replaced, Finset.card_eq_zero] at hreplaced
    exact ⟨hreplaced, h.patched ▸ hpatched⟩
  · rintro ⟨hreplaced, hpatched⟩
    rw [h.replaced, h.patched, hreplaced, hpatched, Finset.card_empty, Finset.sum_empty]
    rfl

end Effect.Accounts

namespace Plan

variable {o : HydrationOptions} {subject : String} {path : List Nat} {next : NodeId}

/-! ### Patches -/

/-- The name of an attribute that is to be taken away. -/
def removed? (r : Record) : Option String :=
  match r.mismatch.divergence with
  | .attribute name none _ => some name.toLower
  | _ => none

/-- What is done about an attribute, with its record, in front of what is done about others. -/
theorem effect_note_append (r : Record) (rest : List Record) (patched edits n : Nat) :
    (⟨[], 0, patched, edits, 0⟩ ++ Effect.ofRecords [r]) ++ (⟨rest, 0, n, n, 0⟩ : Effect) =
      ⟨r :: rest, 0, patched + n, edits + n, 0⟩ := rfl

/-- **Every patch of an attribute is one edit**, when those that are to be taken away are there. -/
theorem effect_patches {found : OrderedMap String} {records : List Record}
    (hname : ∀ r ∈ records, ∃ name want live, r.mismatch.divergence = .attribute name want live)
    (hremoved : (records.filterMap removed?).Sublist found.keys) :
    (patches found records).effect =
      ⟨records, 0, records.countP fun r => r.action = .patchValue,
        records.countP fun r => r.action = .patchValue, 0⟩ := by
  induction records generalizing found with
  | nil => rfl
  | cons r rest ih =>
      rw [List.forall_mem_cons] at hname
      obtain ⟨⟨name, want, live, hdivergence⟩, hrest⟩ := hname
      have hbehind : (rest.filterMap removed?).Sublist found.keys :=
        ((List.sublist_cons_self r rest).filterMap _).trans hremoved
      rw [patches]
      by_cases haction : r.action = .patchValue
      · rw [if_pos haction, hdivergence, List.countP_cons_of_pos (by simpa using haction)]
        cases want with
        | some value =>
            have hkeys := found.sublist_keys_insert name.toLower value
            simp only [note, patch, ih hrest (hbehind.trans hkeys)]
            rw [effect_note_append, Nat.add_comm]
        | none =>
            have hsome : removed? r = some name.toLower := by rw [removed?, hdivergence]
            rw [List.filterMap_cons_some hsome] at hremoved
            have hthere : found.contains name.toLower = true :=
              OrderedMap.mem_keys_iff.mp (hremoved.subset (List.mem_cons_self ..))
            have hkeys := OrderedMap.sublist_keys_erase hremoved
            simp only [note, patch, ih hrest hkeys, if_pos hthere]
            rw [effect_note_append, Nat.add_comm]
      · rw [if_neg haction, List.countP_cons_of_neg (by simpa using haction)]
        simp only [note, keep, Effect.none, ih hrest hbehind]
        rw [effect_note_append, Nat.zero_add]

/-- An attribute is to be taken away where it differs and is not expected. -/
theorem removed?_difference? (tag name : String) (want live : Option String) :
    (difference? o tag path name want live).bind removed? =
      if sameAttribute name want live = false ∧ want = none then some name.toLower else none := by
  rw [difference?]
  cases sameAttribute name want live <;> cases want <;> rfl

/-- The attributes that are to be taken away are found, each of them once. -/
theorem removed_differences {tag : String} {expected found : OrderedMap String}
    (hfound : ∀ name ∈ found.keys, name.toLower = name) :
    ((differences o tag path expected found).filterMap removed?).Sublist found.keys := by
  let removes (name : String) : Bool :=
    !sameAttribute name (expected.get? name) (found.get? name.toLower) &&
      (expected.get? name).isNone
  have hexpected : (expected.keys.filterMap fun name =>
      (difference? o tag path name (expected.get? name) (found.get? name.toLower)).bind removed?) =
      [] := by
    refine List.filterMap_eq_nil_iff.mpr fun name hname => ?_
    rw [removed?_difference?, if_neg]
    rintro ⟨-, hnone⟩
    have hcontains := OrderedMap.mem_keys_iff.mp hname
    rw [OrderedMap.contains, hnone] at hcontains
    cases hcontains
  have hothers : ((found.keys.filter fun name => !expected.contains name).filterMap fun name =>
      (difference? o tag path name (expected.get? name) (found.get? name.toLower)).bind removed?) =
      (found.keys.filter fun name => !expected.contains name).filter removes := by
    refine (List.filterMap_congr fun name hname => ?_).trans (congrFun List.filterMap_eq_filter _)
    have hlower := hfound name (List.mem_of_mem_filter hname)
    rw [removed?_difference?, hlower]
    simp [removes, Option.guard, hlower]
  rw [differences, List.filterMap_filterMap, Pass.comparedNames, List.filterMap_append, hexpected,
    List.nil_append, hothers]
  exact List.filter_sublist.trans List.filter_sublist

/-! ### Single nodes -/

section

variable {mounted : List Nat → Nat}

/-- A plan without records has nothing to count. -/
theorem keep_accounts {α : Type} (a : α) : (keep a).effect.Accounts mounted :=
  Effect.Accounts.of_kept fun _ hr => absurd hr List.not_mem_nil

/-- Nodes that differ are replaced or reported. -/
theorem mutates_of_isStructural {m : Mismatch} (hm : m.kind.isStructural = true)
    (hstay : o.classify m ≠ .replaceNode) : (o.classify m).mutates = false := by
  have haction : o.classify m = if o.structuralRepair then .replaceNode else .reportOnly := by
    rw [HydrationOptions.classify]
    obtain ⟨_, _, hmissing⟩ | ⟨_, hextra⟩ := Divergence.isStructural_iff.mp hm
    · rw [hmissing]
      rfl
    · rw [hextra]
      rfl
  rw [haction] at hstay ⊢
  cases hrepair : o.structuralRepair with
  | true => exact absurd (if_pos hrepair) hstay
  | false => rfl

/-- A node that differs is put in, taken out or replaced, which counts once, or only reported. -/
theorem repair_accounts {α : Type} {p : Plan α} {a : α} {m : Mismatch} {edits count : Nat}
    (hp : p.effect = ⟨[], 1, 0, edits + 1, count⟩) (hmounted : mounted m.path = edits)
    (hm : m.kind.isStructural = true) :
    ((if o.classify m = .replaceNode then p else keep a).note
      ⟨m, o.classify m⟩).effect.Accounts mounted := by
  by_cases hreplace : o.classify m = .replaceNode
  · have hpath : ∀ r ∈ [(⟨m, o.classify m⟩ : Record)], r.mismatch.path = m.path := by
      rw [List.forall_mem_singleton]
    rw [if_pos hreplace, note, hp]
    exact Effect.Accounts.of_replaced hpath ⟨_, List.mem_singleton_self _, hreplace⟩ hmounted
  · rw [if_neg hreplace]
    refine Effect.Accounts.of_kept fun r hr => ?_
    obtain rfl := List.mem_singleton.mp hr
    exact mutates_of_isStructural hm hreplace

variable {t : Snapshot}

/-- A text is patched or replaced, which counts once, or only reported. -/
theorem text_accounts {found expected : String} (hmounted : mounted path = 0) :
    (text o subject path next t found expected).effect.Accounts mounted := by
  by_cases hsame : canonicalText found = canonicalText expected
  · rw [show text o subject path next t found expected = keep t from if_pos hsame]
    exact keep_accounts t
  · generalize haction : o.classify ⟨path, subject, .text expected found⟩ = action
    rw [text_of_action hsame haction]
    set r : Record := ⟨⟨path, subject, .text expected found⟩, action⟩ with hr
    cases action with
    | patchValue =>
        have hstay : ∀ s ∈ [r], s.action ≠ .replaceNode := by
          rw [List.forall_mem_singleton]
          exact fun h => RepairAction.noConfusion h
        exact Effect.Accounts.of_patched hstay rfl
    | replaceNode =>
        have hpath : ∀ s ∈ [r], s.mismatch.path = path := by rw [List.forall_mem_singleton]
        exact Effect.Accounts.of_replaced hpath ⟨r, List.mem_singleton_self r, rfl⟩ hmounted
    | reportOnly =>
        refine Effect.Accounts.of_kept (List.forall_mem_singleton.mpr ?_)
        rfl
    | ignore =>
        refine Effect.Accounts.of_kept (List.forall_mem_singleton.mpr ?_)
        rfl

/-- An element is replaced for its attributes, which counts once, or every patch of them is
counted. -/
theorem element_accounts {tag : String} {attributes found : OrderedMap String}
    {children : List VNode} (ht : t.payload = .element tag found)
    (hfound : ∀ name ∈ found.keys, name.toLower = name)
    (hmounted : mounted path = (VNode.element tag attributes children).edits)
    (hbelow : (nodes o ("<" ++ tag ++ ">") path next 0 t.children children).effect.Accounts
      mounted) :
    (node o subject path next t (.element tag attributes children)).effect.Accounts mounted := by
  by_cases hreplace : ∃ r ∈ differences o tag path attributes found, r.action = .replaceNode
  · rw [node_of_replace ht hreplace, put, Effect.ofRecords_append]
    exact Effect.Accounts.of_replaced (fun r hr => (path_of_mem_differences hr).1) hreplace
      hmounted
  · have hstay : ∀ r ∈ differences o tag path attributes found, r.action ≠ .replaceNode :=
      fun r hr haction => hreplace ⟨r, hr, haction⟩
    have hpatches : (patches found (differences o tag path attributes found)).effect.Accounts
        mounted := by
      rw [effect_patches (fun r hr => ?_) (removed_differences hfound)]
      · exact Effect.Accounts.of_patched hstay rfl
      · obtain ⟨name, want, live, hmismatch, -⟩ := exists_of_mem_differences hr
        exact ⟨name, want, live, congrArg Mismatch.divergence hmismatch⟩
    rw [node_of_patch ht hreplace]
    refine hpatches.append hbelow fun r hr s hs => ?_
    rw [records_patches] at hr
    obtain ⟨j, -, hmade⟩ := isMadeAt_of_mem_nodes children hs
    rw [(path_of_mem_differences hr).1]
    exact hmade.path_ne_above

/-- Nodes behind the last expected one are taken out, which counts once for each, or only
reported. -/
theorem extras_account (ts : List Snapshot) (index : Nat)
    (hmounted : ∀ k, mounted (path ++ [index + k]) = 0) :
    (extras o subject path index ts).effect.Accounts mounted := by
  induction ts generalizing index with
  | nil => exact keep_accounts []
  | cons t rest ih =>
      rw [extras]
      split
      · exact (keep_accounts [t]).append (ih index hmounted) fun _ hr => absurd hr List.not_mem_nil
      · have hnext : ∀ k, mounted (path ++ [index + 1 + k]) = 0 := fun k => by
          rw [Nat.add_assoc, hmounted]
        have hfirst : (extra o subject (path ++ [index]) t).effect.Accounts mounted :=
          repair_accounts rfl (hmounted 0) rfl
        refine hfirst.append (ih (index + 1) hnext) fun r hr s hs => ?_
        obtain ⟨j, hj, hmade⟩ := isMadeAt_of_mem_extras hs
        exact path_ne_of_prefix (isMadeAt_of_mem_repair rfl hr).path hmade.path (Nat.ne_of_lt hj)

/-- What is mounted with an expected node takes an edit for each of its parts. -/
theorem mounted_eq_edits {n : VNode}
    (h : ∀ rest, mounted (path ++ rest) = (n.below? rest).elim 0 VNode.parts) :
    mounted path = n.edits := by
  have hself := h []
  rw [List.append_nil] at hself
  rw [hself, n.edits_eq_parts]
  rfl

mutual

/-- **The counters of a node are what its records say.** -/
theorem node_accounts {subject : String} {path : List Nat} {next : NodeId} {d : Document}
    (hd : d.Sound) {parent : Option NodeId} {t : Snapshot} (hheld : d.Holds parent t) (n : VNode)
    (hmounted : ∀ rest, mounted (path ++ rest) = (n.below? rest).elim 0 VNode.parts) :
    (node o subject path next t n).effect.Accounts mounted := by
  have hself : mounted path = n.edits := mounted_eq_edits hmounted
  have hmissing : (missing o subject path next t n).effect.Accounts mounted :=
    repair_accounts rfl hself rfl
  cases n with
  | element tag attributes children =>
      by_cases htag : t.payload.tag? = some tag
      · obtain ⟨found, ht⟩ := Payload.exists_of_tag? htag
        have hpayload := Document.payload?_of_cell? hheld.cell
        rw [ht] at hpayload
        refine element_accounts ht (hd.lowercase _ _ _ hpayload).attributes hself
          (nodes_account hd hheld.below children fun k rest => ?_)
        rw [Nat.zero_add, hmounted]
        rfl
      · rw [node, if_neg htag]
        exact hmissing
  | text s =>
      rw [node]
      cases t.payload with
      | text found => exact text_accounts hself
      | element tag found => exact hmissing
      | comment found => exact hmissing
      | document => exact hmissing

/-- **The counters of neighbouring nodes are what their records say.** -/
theorem nodes_account {subject : String} {path : List Nat} {next : NodeId} {index : Nat}
    {d : Document} (hd : d.Sound) {parent : Option NodeId} {ts : List Snapshot}
    (hheld : d.HoldsAll parent ts) (ns : List VNode)
    (hmounted : ∀ k rest, mounted (path ++ (index + k) :: rest) = mountedAt ns (k :: rest)) :
    (nodes o subject path next index ts ns).effect.Accounts mounted := by
  cases ns with
  | nil =>
      rw [nodes]
      exact extras_account ts index fun k => hmounted k []
  | cons n ns =>
      have hfirst (rest : List Nat) :
          mounted (path ++ [index] ++ rest) = (n.below? rest).elim 0 VNode.parts := by
        rw [List.append_assoc]
        exact hmounted 0 rest
      have hnext (k : Nat) (rest : List Nat) :
          mounted (path ++ (index + 1 + k) :: rest) = mountedAt ns (k :: rest) := by
        rw [Nat.add_assoc, Nat.add_comm 1 k, hmounted]
        rfl
      rcases Snapshot.live_split ts with hnone | ⟨comments, t, rest, rfl, hcomments, ht⟩
      · rw [nodes_of_live_eq_nil hnone]
        have habsent : (absent o subject (path ++ [index]) next n).effect.Accounts mounted :=
          repair_accounts rfl (mounted_eq_edits hfirst) rfl
        have hnil : d.HoldsAll parent [] := trivial
        refine (keep_accounts ts).append (habsent.append (nodes_account hd hnil ns hnext)
          fun r hr s hs => ?_) fun _ hr => absurd hr List.not_mem_nil
        exact path_ne_of_mem_nodes (isMadeAt_of_mem_repair rfl hr).path hs
      · obtain ⟨-, hnode, hrest⟩ := Document.holdsAll_append.mp hheld
        rw [nodes_of_live hcomments ht]
        refine (keep_accounts comments).append ((node_accounts hd hnode n hfirst).append
          (nodes_account hd hrest ns hnext) fun r hr s hs => ?_)
          fun _ hr => absurd hr List.not_mem_nil
        exact path_ne_of_mem_nodes (isMadeAt_of_mem_node n hr).path hs

end

end

end Plan

/-! ### Whole passes -/

section

variable {d : Document} {root : NodeId}

/-- **The counters of a report account for every edit**: replaced nodes are counted by place,
patched values one by one where their nodes stay, and besides those there are only the edits that
mount the expected nodes at these places. The document is the same exactly if nothing was done
about any mismatch. -/
theorem hydrateNodes_accounts (o : HydrationOptions) (hd : d.Reachable) (hroot : d.IsRoot root)
    (expected : List VNode) :
    ∃ d' r, hydrateNodes o d root expected = .ok (d', r) ∧
      r.replaced = (replacedAt r.records).card ∧
      r.patched = patchCount r.records ∧
      d'.mutations = d.mutations +
        (r.patched + r.replaced + ∑ path ∈ replacedAt r.records, mountedAt expected path) ∧
      (d'.mutations = d.mutations ↔ ∀ s ∈ r.records, s.action.mutates = false) ∧
      (d' = d ↔ ∀ s ∈ r.records, s.action.mutates = false) := by
  obtain ⟨payload, above, ts, hcontainer, hhas⟩ := hroot.exists_has hd.sound
  obtain ⟨p, hrun, hdid, hhas'⟩ := hydrateNodes_carries o hd hroot hcontainer hhas expected
  have haccounts : (Plan.nodes o payload.describe [] d.cells.size 0 ts expected).effect.Accounts
      (mountedAt expected) :=
    Plan.nodes_account hd.sound hhas.held expected fun k rest => by rw [Nat.zero_add]; rfl
  have hkeeps := @Plan.nodes_keep o [] d.cells.size payload.describe 0 ts expected
  generalize Plan.nodes o payload.describe [] d.cells.size 0 ts expected = plan
    at hdid hhas' haccounts hkeeps
  have hrecords : p.records = plan.effect.records := hdid.records
  have hreplaced : p.replaced = plan.effect.replaced := by
    rw [hdid.replaced]
    exact Nat.zero_add _
  have hpatched : p.patched = plan.effect.patched := by
    rw [hdid.patched]
    exact Nat.zero_add _
  have hmutations : p.document.mutations = d.mutations + plan.effect.edits := hdid.mutations
  have hcount : p.document.mutations = d.mutations ↔
      ∀ s ∈ p.records, s.action.mutates = false := by
    rw [hrecords, hmutations, ← haccounts.edits_eq_zero_iff, Nat.add_eq_left]
  have hsame : p.document = d ↔ ∀ s ∈ p.records, s.action.mutates = false := by
    constructor
    · intro heq
      exact hcount.mp (congrArg Document.mutations heq)
    · intro hnothing
      rw [hrecords] at hnothing
      rw [hkeeps hnothing] at hdid hhas'
      exact hdid.document_eq rfl rfl hhas hhas'
  refine ⟨p.document, p.report, hrun, ?_, ?_, ?_, hcount, hsame⟩
  · rw [Pass.report, hreplaced, hrecords]
    exact haccounts.replaced
  · rw [Pass.report, hpatched, hrecords]
    exact haccounts.patched
  · rw [hmutations, Pass.report, haccounts.edits, hreplaced, hpatched, hrecords]

/-- In a parsed fragment a class and a text are patched, and a list with an attribute, an item and
its text is put in the place of another element. -/
theorem hydrateNodes_accounts_parsed :
    (Document.parse "<p class=a>old</p><i></i>").IsRoot Document.root ∧
      ∃ d' r, hydrateNodes .standard (.parse "<p class=a>old</p><i></i>") Document.root
          [.element "p" (.ofList [("class", "b")]) [.text "new"],
            .element "ul" (.ofList [("id", "l")]) [.element "li" .empty [.text "x"]]] =
          .ok (d', r) ∧
        r.replaced = 1 ∧ r.patched = 2 ∧
        d'.mutations = (Document.parse "<p class=a>old</p><i></i>").mutations + (2 + 1 + 3) := by
  have hroot : (Document.parse "<p class=a>old</p><i></i>").IsRoot Document.root :=
    ⟨by decide +kernel, by decide +kernel⟩
  obtain ⟨d', r, hrun, hreplaced, hpatched, hmutations, -, -⟩ :=
    hydrateNodes_accounts .standard (.parse "<p class=a>old</p><i></i>") hroot
      [.element "p" (.ofList [("class", "b")]) [.text "new"],
        .element "ul" (.ofList [("id", "l")]) [.element "li" .empty [.text "x"]]]
  have hcomputed : (hydrateNodes .standard (Document.parse "<p class=a>old</p><i></i>")
      Document.root [.element "p" (.ofList [("class", "b")]) [.text "new"],
        .element "ul" (.ofList [("id", "l")]) [.element "li" .empty [.text "x"]]]).toOption.map
        (fun result => (replacedAt result.2.records, patchCount result.2.records)) =
      some ({[1]}, 2) := by decide +kernel
  rw [hrun] at hcomputed
  obtain ⟨hplaces, hcount⟩ := Prod.mk.inj (Option.some.inj hcomputed)
  rw [hplaces, Finset.card_singleton] at hreplaced
  rw [hcount] at hpatched
  rw [hreplaced, hpatched, hplaces, Finset.sum_singleton] at hmutations
  exact ⟨hroot, d', r, hrun, hreplaced, hpatched, hmutations⟩

end

end TwinRender
