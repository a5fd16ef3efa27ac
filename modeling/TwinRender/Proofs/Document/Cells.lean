import TwinRender.Document
import TwinRender.Proofs.OrderedMap

/-!
# What edits do to nodes

Every edit is put together from changes of single nodes. This module says for each of them which
node is found under each number afterwards, and when a check succeeds; edits are not unfolded
anywhere else.

## Main results

* `Document.cell?_withChildren`, `Document.cell?_withParent`, `Document.cell?_withPayload`,
  `Document.cell?_create`: the nodes after one change.
* `Document.checkInsert_eq_ok_iff`, `Document.checkChild_eq_ok_iff`: when an edit is possible.
* `Document.appendChild_eq_ok_iff`, `Document.insertBefore_eq_ok_iff`,
  `Document.removeChild_eq_ok_iff`, `Document.replaceChild_eq_ok_iff`: what an edit comes to.
* `Document.exists_appendChild`, `Document.exists_removeChild`, `Document.exists_replaceChild`:
  the nodes after an edit.
-/

namespace TwinRender.Document

variable {d d' : Document} {parent child reference : NodeId}

/-! ### Looking up -/

/-- A node is known when its number is below the size of the store. -/
theorem isSome_cell?_iff {id : NodeId} : (d.cell? id).isSome ↔ id < d.cells.size := by
  simp [cell?]

/-- A node that is found is known. -/
theorem lt_size_of_cell? {id : NodeId} {c : Cell} (h : d.cell? id = some c) : id < d.cells.size :=
  isSome_cell?_iff.mp (by rw [h]; rfl)

/-- No node is found behind the end of the store. -/
theorem cell?_eq_none_iff {id : NodeId} : d.cell? id = none ↔ d.cells.size ≤ id := by
  simp [cell?]

/-- A node that is found has its payload. -/
theorem payload?_of_cell? {id : NodeId} {c : Cell} (h : d.cell? id = some c) :
    d.payload? id = some c.payload := by
  rw [payload?, h, Option.map_some]

/-- A node that is found has its parent. -/
theorem parent?_of_cell? {id : NodeId} {c : Cell} (h : d.cell? id = some c) :
    d.parent? id = c.parent := by
  rw [parent?, h, Option.bind_some]

/-- A node that is found has its children. -/
theorem children_of_cell? {id : NodeId} {c : Cell} (h : d.cell? id = some c) :
    d.children id = c.children := by
  rw [children, h, Option.map_some, Option.getD_some]

/-- A node that is not known has no parent. -/
theorem parent?_eq_none {id : NodeId} (h : d.cells.size ≤ id) : d.parent? id = none := by
  rw [parent?, cell?_eq_none_iff.mpr h, Option.bind_none]

/-- A node that is not known has no children. -/
theorem children_eq_nil {id : NodeId} (h : d.cells.size ≤ id) : d.children id = [] := by
  rw [children, cell?_eq_none_iff.mpr h, Option.map_none, Option.getD_none]

/-- A node that is not known has no payload. -/
theorem payload?_eq_none {id : NodeId} (h : d.cells.size ≤ id) : d.payload? id = none := by
  rw [payload?, cell?_eq_none_iff.mpr h, Option.map_none]

/-- A node that has a payload is known. -/
theorem lt_size_of_payload? {id : NodeId} {payload : Payload} (h : d.payload? id = some payload) :
    id < d.cells.size := by
  by_contra hsize
  rw [payload?_eq_none (Nat.le_of_not_lt hsize)] at h
  cases h

/-- A node with a parent is known. -/
theorem lt_size_of_parent? {id p : NodeId} (h : d.parent? id = some p) : id < d.cells.size := by
  by_contra hsize
  rw [parent?_eq_none (Nat.le_of_not_lt hsize)] at h
  cases h

/-- A node with children is known. -/
theorem lt_size_of_mem_children {id c : NodeId} (h : c ∈ d.children id) : id < d.cells.size := by
  by_contra hsize
  rw [children_eq_nil (Nat.le_of_not_lt hsize)] at h
  cases h

/-! ### Changes of one node -/

/-- The nodes after one is changed. -/
theorem cell?_modify (d : Document) (id : NodeId) (change : Cell → Cell) (i : NodeId) :
    (d.modify id change).cell? i = if i = id then (d.cell? i).map change else d.cell? i := by
  simp only [cell?, modify, Array.getElem?_modify]
  by_cases h : i = id
  · rw [if_pos h, if_pos h.symm]
  · rw [if_neg h, if_neg (Ne.symm h)]

/-- The nodes after one gets other children. -/
@[simp] theorem cell?_withChildren (d : Document) (id : NodeId) (children : List NodeId)
    (i : NodeId) :
    (d.withChildren id children).cell? i =
      if i = id then (d.cell? i).map fun c => { c with children := children } else d.cell? i :=
  cell?_modify d id _ i

/-- The nodes after one gets another parent. -/
@[simp] theorem cell?_withParent (d : Document) (id : NodeId) (parent : Option NodeId)
    (i : NodeId) :
    (d.withParent id parent).cell? i =
      if i = id then (d.cell? i).map fun c => { c with parent := parent } else d.cell? i :=
  cell?_modify d id _ i

/-- The nodes after one gets another payload. -/
@[simp] theorem cell?_withPayload (d : Document) (id : NodeId) (payload : Payload) (i : NodeId) :
    (d.withPayload id payload).cell? i =
      if i = id then (d.cell? i).map fun c => { c with payload := payload } else d.cell? i :=
  cell?_modify d id _ i

/-- Counting an edit changes no node. -/
@[simp] theorem cell?_counted (d : Document) (i : NodeId) : d.counted.cell? i = d.cell? i := rfl

/-- A new node is found behind all others. -/
theorem cell?_push (d : Document) (c : Cell) (mutations : Nat) (i : NodeId) :
    cell? ⟨d.cells.push c, mutations⟩ i = if i = d.cells.size then some c else d.cell? i := by
  simp only [cell?, Array.getElem?_push]

/-- The nodes after one is created. -/
@[simp] theorem cell?_create (d : Document) (payload : Payload) (i : NodeId) :
    (d.create payload).1.cell? i =
      if i = d.cells.size then some ⟨payload, none, []⟩ else d.cell? i :=
  cell?_push d _ _ i

/-- A new node is the next one. -/
@[simp] theorem create_snd (d : Document) (payload : Payload) :
    (d.create payload).2 = d.cells.size := rfl

/-- A new node makes the store larger. -/
@[simp] theorem size_create (d : Document) (payload : Payload) :
    (d.create payload).1.cells.size = d.cells.size + 1 :=
  Array.size_push _

/-- A new node is no edit. -/
@[simp] theorem mutations_create (d : Document) (payload : Payload) :
    (d.create payload).1.mutations = d.mutations := rfl

/-- Changes keep the size of the store. -/
@[simp] theorem size_withChildren (d : Document) (id : NodeId) (children : List NodeId) :
    (d.withChildren id children).cells.size = d.cells.size :=
  Array.size_modify

/-- Changes keep the size of the store. -/
@[simp] theorem size_withParent (d : Document) (id : NodeId) (parent : Option NodeId) :
    (d.withParent id parent).cells.size = d.cells.size :=
  Array.size_modify

/-- Changes keep the size of the store. -/
@[simp] theorem size_withPayload (d : Document) (id : NodeId) (payload : Payload) :
    (d.withPayload id payload).cells.size = d.cells.size :=
  Array.size_modify

/-- Counting an edit keeps the size of the store. -/
@[simp] theorem size_counted (d : Document) : d.counted.cells.size = d.cells.size := rfl

/-! ### Neighbours after changes -/

/-- Other children keep every parent. -/
@[simp] theorem parent?_withChildren (d : Document) (id : NodeId) (children : List NodeId)
    (i : NodeId) : (d.withChildren id children).parent? i = d.parent? i := by
  rw [parent?, parent?, cell?_withChildren]
  split
  · cases d.cell? i <;> rfl
  · rfl

/-- Other children keep every payload. -/
@[simp] theorem payload?_withChildren (d : Document) (id : NodeId) (children : List NodeId)
    (i : NodeId) : (d.withChildren id children).payload? i = d.payload? i := by
  rw [payload?, payload?, cell?_withChildren]
  split
  · cases d.cell? i <;> rfl
  · rfl

/-- The children after a known node gets others. -/
theorem children_withChildren {id : NodeId} (h : id < d.cells.size) (children : List NodeId)
    (i : NodeId) :
    (d.withChildren id children).children i = if i = id then children else d.children i := by
  rw [Document.children, Document.children, cell?_withChildren]
  by_cases hi : i = id
  · obtain ⟨c, hc⟩ := Option.isSome_iff_exists.mp (isSome_cell?_iff.mpr h)
    rw [if_pos hi, if_pos hi, hi, hc]
    rfl
  · rw [if_neg hi, if_neg hi]

/-- Another parent keeps all children. -/
@[simp] theorem children_withParent (d : Document) (id : NodeId) (parent : Option NodeId)
    (i : NodeId) : (d.withParent id parent).children i = d.children i := by
  rw [children, children, cell?_withParent]
  split
  · cases d.cell? i <;> rfl
  · rfl

/-- Another parent keeps every payload. -/
@[simp] theorem payload?_withParent (d : Document) (id : NodeId) (parent : Option NodeId)
    (i : NodeId) : (d.withParent id parent).payload? i = d.payload? i := by
  rw [payload?, payload?, cell?_withParent]
  split
  · cases d.cell? i <;> rfl
  · rfl

/-- The parents after a known node gets another. -/
theorem parent?_withParent {id : NodeId} (h : id < d.cells.size) (parent : Option NodeId)
    (i : NodeId) :
    (d.withParent id parent).parent? i = if i = id then parent else d.parent? i := by
  rw [parent?, parent?, cell?_withParent]
  by_cases hi : i = id
  · obtain ⟨c, hc⟩ := Option.isSome_iff_exists.mp (isSome_cell?_iff.mpr h)
    rw [if_pos hi, if_pos hi, hi, hc]
    rfl
  · rw [if_neg hi, if_neg hi]

/-- Another payload keeps every parent. -/
@[simp] theorem parent?_withPayload (d : Document) (id : NodeId) (payload : Payload)
    (i : NodeId) : (d.withPayload id payload).parent? i = d.parent? i := by
  rw [parent?, parent?, cell?_withPayload]
  split
  · cases d.cell? i <;> rfl
  · rfl

/-- Another payload keeps all children. -/
@[simp] theorem children_withPayload (d : Document) (id : NodeId) (payload : Payload)
    (i : NodeId) : (d.withPayload id payload).children i = d.children i := by
  rw [children, children, cell?_withPayload]
  split
  · cases d.cell? i <;> rfl
  · rfl

/-- The payloads after a known node gets another. -/
theorem payload?_withPayload {id : NodeId} (h : id < d.cells.size) (payload : Payload)
    (i : NodeId) :
    (d.withPayload id payload).payload? i = if i = id then some payload else d.payload? i := by
  rw [payload?, payload?, cell?_withPayload]
  by_cases hi : i = id
  · obtain ⟨c, hc⟩ := Option.isSome_iff_exists.mp (isSome_cell?_iff.mpr h)
    rw [if_pos hi, if_pos hi, hi, hc]
    rfl
  · rw [if_neg hi, if_neg hi]

/-- Counting an edit keeps every parent. -/
@[simp] theorem parent?_counted (d : Document) (i : NodeId) :
    d.counted.parent? i = d.parent? i := rfl

/-- Counting an edit keeps all children. -/
@[simp] theorem children_counted (d : Document) (i : NodeId) :
    d.counted.children i = d.children i := rfl

/-- Counting an edit keeps every payload. -/
@[simp] theorem payload?_counted (d : Document) (i : NodeId) :
    d.counted.payload? i = d.payload? i := rfl

/-- A new node has no parent. -/
@[simp] theorem parent?_create (d : Document) (payload : Payload) (i : NodeId) :
    (d.create payload).1.parent? i = d.parent? i := by
  rw [parent?, cell?_create]
  by_cases hi : i = d.cells.size
  · rw [if_pos hi, parent?_eq_none (Nat.le_of_eq hi.symm)]
    rfl
  · rw [if_neg hi, parent?]

/-- A new node has no children. -/
@[simp] theorem children_create (d : Document) (payload : Payload) (i : NodeId) :
    (d.create payload).1.children i = d.children i := by
  rw [children, cell?_create]
  by_cases hi : i = d.cells.size
  · rw [if_pos hi, children_eq_nil (Nat.le_of_eq hi.symm)]
    rfl
  · rw [if_neg hi, children]

/-- The payloads after a node is created. -/
theorem payload?_create (d : Document) (payload : Payload) (i : NodeId) :
    (d.create payload).1.payload? i =
      if i = d.cells.size then some payload else d.payload? i := by
  rw [payload?, cell?_create]
  split <;> rfl

/-! ### Checks -/

/-- When a node can be put below another. -/
theorem checkInsert_eq_ok_iff :
    d.checkInsert parent child = .ok () ↔
      (∃ p, d.cell? parent = some p ∧ p.payload.isContainer = true) ∧
        (∃ c, d.cell? child = some c ∧ c.parent = none) ∧ child ∉ d.ancestors parent := by
  rw [checkInsert]
  cases hparent : d.cell? parent with
  | none => simp
  | some p =>
      by_cases hcontainer : p.payload.isContainer = true
      · cases hchild : d.cell? child with
        | none => simp [hcontainer]
        | some c =>
            cases hc : c.parent <;>
              by_cases hcycle : child ∈ d.ancestors parent <;> simp [hcontainer, hc, hcycle]
      · simp [hcontainer]

/-- When a node stands directly below another. -/
theorem checkChild_eq_ok_iff : d.checkChild parent child = .ok () ↔ child ∈ d.children parent := by
  rw [checkChild, children]
  cases d.cell? parent with
  | none => simp
  | some p => by_cases h : child ∈ p.children <;> simp [h]

/-- A node that can be put below another is not the other. -/
theorem ne_of_checkInsert (h : d.checkInsert parent child = .ok ()) : child ≠ parent := by
  obtain ⟨-, -, hcycle⟩ := checkInsert_eq_ok_iff.mp h
  rintro rfl
  refine hcycle ?_
  rw [ancestors]
  cases d.cells.size with
  | zero => simp [climb]
  | succ n =>
      rw [climb]
      cases d.parent? child <;> simp

/-! ### Edits of links -/

/-- Putting a node behind the children of another, when that is possible. -/
theorem appendChild_eq_ok_iff :
    d.appendChild parent child = .ok d' ↔ d.checkInsert parent child = .ok () ∧
      d' = ((d.withChildren parent (d.children parent ++ [child])).withParent child
        (some parent)).counted := by
  rw [appendChild]
  cases d.checkInsert parent child with
  | error e => simp [bind, Except.bind]
  | ok _ => simp [bind, Except.bind, pure, Except.pure, eq_comm]

/-- Putting a node before a child of another, when that is possible. -/
theorem insertBefore_eq_ok_iff :
    d.insertBefore parent child reference = .ok d' ↔
      d.checkInsert parent child = .ok () ∧ d.checkChild parent reference = .ok () ∧
        d' = ((d.withChildren parent (putBefore child reference (d.children parent))).withParent
          child (some parent)).counted := by
  rw [insertBefore]
  cases d.checkInsert parent child with
  | error e => simp [bind, Except.bind]
  | ok _ =>
      cases d.checkChild parent reference with
      | error e => simp [bind, Except.bind]
      | ok _ => simp [bind, Except.bind, pure, Except.pure, eq_comm]

/-- Taking a child from a node, when that is possible. -/
theorem removeChild_eq_ok_iff :
    d.removeChild parent child = .ok d' ↔ d.checkChild parent child = .ok () ∧
      d' = ((d.withChildren parent ((d.children parent).erase child)).withParent child
        none).counted := by
  rw [removeChild]
  cases d.checkChild parent child with
  | error e => simp [bind, Except.bind]
  | ok _ => simp [bind, Except.bind, pure, Except.pure, eq_comm]

/-- Putting a node in the place of a child, when that is possible. -/
theorem replaceChild_eq_ok_iff {new old : NodeId} :
    d.replaceChild parent new old = .ok d' ↔
      d.checkInsert parent new = .ok () ∧ d.checkChild parent old = .ok () ∧
        d' = (((d.withChildren parent ((d.children parent).replace old new)).withParent new
          (some parent)).withParent old none).counted := by
  rw [replaceChild]
  cases d.checkInsert parent new with
  | error e => simp [bind, Except.bind]
  | ok _ =>
      cases d.checkChild parent old with
      | error e => simp [bind, Except.bind]
      | ok _ => simp [bind, Except.bind, pure, Except.pure, eq_comm]

/-! ### The nodes after edits of links -/

section

variable {payload : Payload} {above : Option NodeId} {before behind : List NodeId}

/-- The nodes after one is put behind the children of another. -/
theorem exists_appendChild (hparent : d.cell? parent = some ⟨payload, above, before⟩)
    (hcheck : d.checkInsert parent child = .ok ()) :
    ∃ d', d.appendChild parent child = .ok d' ∧ d'.cells.size = d.cells.size ∧
      d'.mutations = d.mutations + 1 ∧
      d'.cell? parent = some ⟨payload, above, before ++ [child]⟩ ∧
      d'.cell? child = (d.cell? child).map (fun c => { c with parent := some parent }) ∧
      ∀ i, i ≠ parent → i ≠ child → d'.cell? i = d.cell? i := by
  have hne := ne_of_checkInsert hcheck
  refine ⟨_, appendChild_eq_ok_iff.mpr ⟨hcheck, rfl⟩, by simp, rfl, ?_, ?_, fun i hp hc => ?_⟩
  · simp [Ne.symm hne, hparent, children_of_cell? hparent]
  · simp [hne]
  · simp [hp, hc]

/-- The nodes after a child is taken from another. -/
theorem exists_removeChild
    (hparent : d.cell? parent = some ⟨payload, above, before ++ child :: behind⟩)
    (hnot : child ∉ before) (hne : child ≠ parent) :
    ∃ d', d.removeChild parent child = .ok d' ∧ d'.cells.size = d.cells.size ∧
      d'.mutations = d.mutations + 1 ∧
      d'.cell? parent = some ⟨payload, above, before ++ behind⟩ ∧
      ∀ i, i ≠ parent → i ≠ child → d'.cell? i = d.cell? i := by
  have hchildren := children_of_cell? hparent
  have hcheck : d.checkChild parent child = .ok () := by
    rw [checkChild_eq_ok_iff, hchildren]
    simp
  refine ⟨_, removeChild_eq_ok_iff.mpr ⟨hcheck, rfl⟩, by simp, rfl, ?_, fun i hp hc => ?_⟩
  · simp [Ne.symm hne, hparent, hchildren, List.erase_append_right _ hnot]
  · simp [hp, hc]

/-- A member of a list replaced, where it does not stand before. -/
theorem replace_middle {old : NodeId} (new : NodeId) (hnot : old ∉ before) :
    (before ++ old :: behind).replace old new = before ++ new :: behind := by
  induction before with
  | nil => simp
  | cons c rest ih =>
      rw [List.mem_cons, not_or] at hnot
      have hne : (old == c) = false := by simpa using hnot.1
      rw [List.cons_append, List.replace_cons, hne, ih hnot.2, List.cons_append]

/-- The nodes after one is put in the place of a child. -/
theorem exists_replaceChild {new old : NodeId}
    (hparent : d.cell? parent = some ⟨payload, above, before ++ old :: behind⟩)
    (hcheck : d.checkInsert parent new = .ok ()) (hnot : old ∉ before) (hne : old ≠ parent)
    (hnew : new ≠ old) :
    ∃ d', d.replaceChild parent new old = .ok d' ∧ d'.cells.size = d.cells.size ∧
      d'.mutations = d.mutations + 1 ∧
      d'.cell? parent = some ⟨payload, above, before ++ new :: behind⟩ ∧
      d'.cell? new = (d.cell? new).map (fun c => { c with parent := some parent }) ∧
      ∀ i, i ≠ parent → i ≠ new → i ≠ old → d'.cell? i = d.cell? i := by
  have hchildren := children_of_cell? hparent
  have hne' := ne_of_checkInsert hcheck
  have hchild : d.checkChild parent old = .ok () := by
    rw [checkChild_eq_ok_iff, hchildren]
    simp
  refine ⟨_, replaceChild_eq_ok_iff.mpr ⟨hcheck, hchild, rfl⟩, by simp, rfl, ?_, ?_,
    fun i hp hn ho => ?_⟩
  · simp [Ne.symm hne, Ne.symm hne', hparent, hchildren, replace_middle new hnot]
  · simp [hnew, hne']
  · simp [hp, hn, ho]

end

/-! ### Edits of values -/

/-- Giving an attribute a value, when that is possible. -/
theorem setAttribute_eq_ok_iff {id : NodeId} {name value : String} :
    d.setAttribute id name value = .ok d' ↔
      ∃ tag attributes, d.payload? id = some (.element tag attributes) ∧
        d' = (d.withPayload id (.element tag (attributes.insert name.toLower value))).counted := by
  rw [setAttribute]
  cases d.payload? id with
  | none => simp
  | some payload => cases payload <;> simp [eq_comm]

/-- Taking an attribute from an element, when that is possible. -/
theorem removeAttribute_eq_ok_iff {id : NodeId} {name : String} {value : Option String} :
    d.removeAttribute id name = .ok (d', value) ↔
      ∃ tag attributes, d.payload? id = some (.element tag attributes) ∧
        attributes.get? name.toLower = value ∧
        d' = if value.isNone then d
          else (d.withPayload id (.element tag (attributes.erase name.toLower))).counted := by
  rw [removeAttribute]
  cases d.payload? id with
  | none => simp
  | some payload =>
      cases payload with
      | element tag attributes =>
          cases hvalue : attributes.get? name.toLower with
          | none => cases value <;> simp [hvalue, eq_comm]
          | some found => cases value <;> simp [hvalue, eq_comm, and_comm]
      | document | text _ | comment _ => simp

/-- Giving a text or a comment other character data, when that is possible. -/
theorem setText_eq_ok_iff {id : NodeId} {text : String} :
    d.setText id text = .ok d' ↔ ∃ payload,
      ((∃ before, d.payload? id = some (.text before) ∧ payload = .text text) ∨
        ∃ before, d.payload? id = some (.comment before) ∧ payload = .comment text) ∧
        d' = (d.withPayload id payload).counted := by
  rw [setText]
  cases d.payload? id with
  | none => simp
  | some payload => cases payload <;> simp [eq_comm]

end TwinRender.Document
