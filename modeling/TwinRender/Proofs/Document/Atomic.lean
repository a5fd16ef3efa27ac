import TwinRender.Document.Edit
import TwinRender.Proofs.Document.Reachable

/-!
# Edits are atomic

An edit in place writes one node after another, and every write looks its node up again. In a
document that can be reached, whatever the checks of an edit let through is known, so no write is
refused once the first one has been done: an edit is refused before it has written anything, or it
is done as a whole.

## Main definitions

* `Edit.apply`: an edit as a function on documents.
* `Document.Unchanged`: all nodes but some are the same, and so many edits were counted.
* `Document.Rewritten`: one node is something else.
* `Document.Exchanged`: one list of children has other nodes at one position.
* `Edit.Did`: what an edit that is not refused does.

## Main results

* `Edit.perform_eq`: an edit in place is the function, or leaves the document alone.
* `Edit.perform_atomic`: **an edit that is refused changes nothing, and any other one does just what
  it says**.
* `Edit.reachable_perform`: edits in place come to documents that can be reached.
-/

namespace TwinRender

/-! ### Running edits -/

namespace Editing

variable {d d' : Document} {α β : Type}

/-- What is done behind something that was not refused. -/
theorem run_bind_ok {x : Editing α} {a : α} (f : α → Editing β)
    (h : x.run.run d = (.ok a, d')) : (x >>= f).run.run d = (f a).run.run d' := by
  rw [ExceptT.run_bind, StateT.run_bind, h]
  rfl

/-- Nothing is done behind something that was refused. -/
theorem run_bind_error {x : Editing α} {e : DomError} (f : α → Editing β)
    (h : x.run.run d = (.error e, d')) : (x >>= f).run.run d = (.error e, d') := by
  rw [ExceptT.run_bind, StateT.run_bind, h]
  rfl

/-- Looking at the document leaves it alone. -/
theorem run_get : (get : Editing Document).run.run d = (.ok d, d) := rfl

/-- A known node is found. -/
theorem run_node {id : NodeId} {c : Cell} (h : d.cell? id = some c) :
    (node id).run.run d = (.ok c, d) := by
  rw [node, run_bind_ok _ run_get, h]
  rfl

/-- A node that is not known is not found. -/
theorem run_node_none {id : NodeId} (h : d.cell? id = none) :
    (node id).run.run d = (.error (.unknownNode id), d) := by
  rw [node, run_bind_ok _ run_get, h]
  rfl

/-- A known node can be written. -/
theorem run_write {id : NodeId} (h : id < d.cells.size) (change : Cell → Cell) :
    (write id change).run.run d = (.ok (), d.modify id change) := by
  obtain ⟨c, hc⟩ := Option.isSome_iff_exists.mp (Document.isSome_cell?_iff.mpr h)
  rw [write, run_bind_ok _ (run_node hc)]
  rfl

/-- Whether a node can be put below another is found out without writing. -/
theorem run_insertable {parent child : NodeId} {checked : Except DomError Unit}
    (h : d.checkInsert parent child = checked) :
    (insertable parent child).run.run d = (checked, d) := by
  rw [insertable, run_bind_ok _ run_get, h]
  cases checked <;> rfl

/-- The place of a child is found without writing: as many nodes stand before it. -/
theorem run_position {parent child : NodeId} {before behind : List NodeId}
    (h : d.children parent = before ++ child :: behind) (hnot : child ∉ before) :
    (position parent child).run.run d = (.ok before.length, d) := by
  have hparent : parent < d.cells.size :=
    Document.lt_size_of_mem_children (c := child) (by rw [h]; simp)
  obtain ⟨p, hp⟩ := Option.isSome_iff_exists.mp (Document.isSome_cell?_iff.mpr hparent)
  have hindex : p.children.idxOf? child = some before.length := by
    rw [← Document.children_of_cell? hp, h]
    clear h
    induction before with
    | nil => simp [List.idxOf?_cons]
    | cons c rest ih =>
        rw [List.mem_cons, not_or] at hnot
        have hne : (c == child) = false := by simpa using Ne.symm hnot.1
        simp [List.idxOf?_cons, hne, ih hnot.2]
  rw [position, run_bind_ok _ (run_node hp), hindex]
  rfl

/-- A node that is no child has no place. -/
theorem run_position_error {parent child : NodeId} {reason : DomError}
    (h : d.checkChild parent child = .error reason) :
    (position parent child).run.run d = (.error reason, d) := by
  rw [Document.checkChild] at h
  cases hp : d.cell? parent with
  | none =>
      rw [hp] at h
      rw [position, run_bind_error _ (run_node_none hp), Except.error.inj h]
  | some p =>
      rw [hp] at h
      by_cases hchild : child ∈ p.children
      · simp [hchild] at h
      · have hindex : p.children.idxOf? child = none := by
          simpa using hchild
        rw [position, run_bind_ok _ (run_node hp), hindex]
        simp only [List.contains_eq_mem, hchild, decide_false, Bool.false_eq_true, if_false] at h
        rw [← Except.error.inj h]
        rfl

end Editing

/-! ### Edits as functions -/

/-- An edit as a function on documents. It checks all its conditions first. -/
def Edit.apply (d : Document) : Edit → Except DomError (Document × Option String)
  | setAttribute id name value => (d.setAttribute id name value).map (·, none)
  | removeAttribute id name => d.removeAttribute id name
  | setText id text => (d.setText id text).map (·, none)
  | appendChild parent child => (d.appendChild parent child).map (·, none)
  | insertBefore parent child reference => (d.insertBefore parent child reference).map (·, none)
  | removeChild parent child => (d.removeChild parent child).map (·, none)
  | replaceChild parent new old => (d.replaceChild parent new old).map (·, none)

/-- What an edit comes to in place, given what it comes to as a function: when it is refused, the
document is left alone. -/
def Edit.outcome (d : Document) :
    Except DomError (Document × Option String) → Except DomError (Option String) × Document
  | .ok (left, value) => (.ok value, left)
  | .error reason => (.error reason, d)

namespace Document

variable {d left : Document} {parent child reference new old id : NodeId}

/-- Two changes of a node are one if they do the same to it. -/
theorem modify_congr {c : Cell} {f g : Cell → Cell} (h : d.cell? id = some c) (hfg : f c = g c) :
    d.modify id f = d.modify id g := by
  refine congrArg (Document.mk · d.mutations) (Array.ext_getElem? fun i => ?_)
  rw [Array.getElem?_modify, Array.getElem?_modify]
  split
  · next hi =>
    rw [← hi, show d.cells[id]? = some c from h, Option.map_some, Option.map_some, hfg]
  · rfl

/-- Writing what a node is already changes nothing. -/
theorem withPayload_self {payload : Payload} (h : d.payload? id = some payload) :
    d.withPayload id payload = d := by
  obtain ⟨c, hc, rfl⟩ := Option.map_eq_some_iff.mp h
  refine congrArg (Document.mk · d.mutations) (Array.ext_getElem? fun i => ?_)
  rw [Array.getElem?_modify]
  split
  · next hi =>
    rw [← hi, show d.cells[id]? = some c from hc]
    rfl
  · rfl

/-- A node put before the first occurrence of another one. -/
theorem putBefore_middle {before behind : List NodeId} (hnot : reference ∉ before) :
    putBefore child reference (before ++ reference :: behind) =
      before ++ child :: reference :: behind := by
  induction before with
  | nil => simp [putBefore]
  | cons c rest ih =>
      rw [List.mem_cons, not_or] at hnot
      rw [List.cons_append, putBefore, if_neg (Ne.symm hnot.1), ih hnot.2, List.cons_append]

/-- A node put at the place behind some others. -/
theorem insertIdx_middle (before behind : List NodeId) :
    (before ++ behind).insertIdx before.length child = before ++ child :: behind := by
  induction before with
  | nil => rfl
  | cons c rest ih => exact congrArg (c :: ·) ih

/-- The children of a known node are written in place. -/
theorem run_writeChildren (h : parent < d.cells.size) {change : List NodeId → List NodeId}
    (below : List NodeId) (hbelow : change (d.children parent) = below) :
    (Editing.writeChildren parent change).run.run d = (.ok (), d.withChildren parent below) := by
  obtain ⟨c, hc⟩ := Option.isSome_iff_exists.mp (isSome_cell?_iff.mpr h)
  rw [Editing.writeChildren, Editing.run_write h, withChildren, modify_congr hc]
  rw [← hbelow, children_of_cell? hc]

/-- The parent of a known node is written in place. -/
theorem run_writeParent (h : child < d.cells.size) (above : Option NodeId) :
    (Editing.writeParent child above).run.run d = (.ok (), d.withParent child above) :=
  Editing.run_write h _

/-- The payload of a known node is written in place. -/
theorem run_writePayload (h : id < d.cells.size) (payload : Payload) :
    (Editing.writePayload id payload).run.run d = (.ok (), d.withPayload id payload) :=
  Editing.run_write h _

/-- What is done behind the last write of an edit. -/
theorem run_count {α : Type} (value : α) :
    (do Editing.count; return value : Editing α).run.run d = (.ok value, d.counted) := rfl

end Document

open Document (run_writeChildren run_writeParent run_writePayload run_count)

namespace Edit

open Editing (run_bind_ok run_bind_error run_insertable run_position run_position_error run_node
  run_node_none)

variable {d : Document}

/-- A node is put behind the children of another in place. -/
theorem perform_appendChild (parent child : NodeId) :
    (appendChild parent child).perform d = outcome d ((appendChild parent child).apply d) := by
  rw [perform, inPlace, apply, Document.appendChild]
  cases h : d.checkInsert parent child with
  | error reason =>
      rw [run_bind_error _ (run_insertable h)]
      rfl
  | ok _ =>
      obtain ⟨⟨p, hp, -⟩, ⟨c, hc, -⟩, -⟩ := Document.checkInsert_eq_ok_iff.mp h
      rw [run_bind_ok _ (run_insertable h),
        run_bind_ok _ (run_writeChildren (Document.lt_size_of_cell? hp) _ rfl),
        run_bind_ok _ (run_writeParent (by simpa using Document.lt_size_of_cell? hc) _), run_count]
      rfl

/-- A node is put before a child of another in place. -/
theorem perform_insertBefore (parent child reference : NodeId) :
    (insertBefore parent child reference).perform d =
      outcome d ((insertBefore parent child reference).apply d) := by
  rw [perform, inPlace, apply, Document.insertBefore]
  cases h : d.checkInsert parent child with
  | error reason =>
      rw [run_bind_error _ (run_insertable h)]
      rfl
  | ok _ =>
      obtain ⟨⟨p, hp, -⟩, ⟨c, hc, -⟩, -⟩ := Document.checkInsert_eq_ok_iff.mp h
      rw [run_bind_ok _ (run_insertable h)]
      cases h' : d.checkChild parent reference with
      | error reason =>
          rw [run_bind_error _ (run_position_error h')]
          rfl
      | ok _ =>
          obtain ⟨before, behind, hbelow, hnot⟩ :=
            List.eq_append_cons_of_mem (Document.checkChild_eq_ok_iff.mp h')
          rw [run_bind_ok _ (run_position hbelow hnot),
            run_bind_ok _ (run_writeChildren (Document.lt_size_of_cell? hp)
              (Document.putBefore child reference (d.children parent)) ?_),
            run_bind_ok _ (run_writeParent (by simpa using Document.lt_size_of_cell? hc) _),
            run_count]
          · rfl
          · rw [hbelow, Document.putBefore_middle hnot, Document.insertIdx_middle]

/-- A child is taken from a node in place. In a sound document the child is known. -/
theorem perform_removeChild (hd : d.Sound) (parent child : NodeId) :
    (removeChild parent child).perform d = outcome d ((removeChild parent child).apply d) := by
  rw [perform, inPlace, apply, Document.removeChild]
  cases h : d.checkChild parent child with
  | error reason =>
      rw [run_bind_error _ (run_position_error h)]
      rfl
  | ok _ =>
      have hmem := Document.checkChild_eq_ok_iff.mp h
      obtain ⟨before, behind, hbelow, hnot⟩ := List.eq_append_cons_of_mem hmem
      rw [run_bind_ok _ (run_position hbelow hnot),
        run_bind_ok _ (run_writeChildren (Document.lt_size_of_mem_children hmem)
          ((d.children parent).erase child) ?_),
        run_bind_ok _ (run_writeParent (by simpa using hd.child_lt_size hmem) _), run_count]
      · rfl
      · rw [hbelow, List.erase_append_right _ hnot, List.eraseIdx_append_of_length_le le_rfl]
        simp

/-- A node is put in the place of a child in place. In a sound document the child is known. -/
theorem perform_replaceChild (hd : d.Sound) (parent new old : NodeId) :
    (replaceChild parent new old).perform d =
      outcome d ((replaceChild parent new old).apply d) := by
  rw [perform, inPlace, apply, Document.replaceChild]
  cases h : d.checkInsert parent new with
  | error reason =>
      rw [run_bind_error _ (run_insertable h)]
      rfl
  | ok _ =>
      obtain ⟨⟨p, hp, -⟩, ⟨c, hc, -⟩, -⟩ := Document.checkInsert_eq_ok_iff.mp h
      rw [run_bind_ok _ (run_insertable h)]
      cases h' : d.checkChild parent old with
      | error reason =>
          rw [run_bind_error _ (run_position_error h')]
          rfl
      | ok _ =>
          have hmem := Document.checkChild_eq_ok_iff.mp h'
          obtain ⟨before, behind, hbelow, hnot⟩ := List.eq_append_cons_of_mem hmem
          rw [run_bind_ok _ (run_position hbelow hnot),
            run_bind_ok _ (run_writeChildren (Document.lt_size_of_cell? hp)
              ((d.children parent).replace old new) ?_),
            run_bind_ok _ (run_writeParent (by simpa using Document.lt_size_of_cell? hc) _),
            run_bind_ok _ (run_writeParent (by simpa using hd.child_lt_size hmem) _), run_count]
          · rfl
          · rw [hbelow, Document.replace_middle new hnot, List.set_append_right _ _ le_rfl]
            simp

/-- An attribute gets a value in place. -/
theorem perform_setAttribute (id : NodeId) (name value : String) :
    (setAttribute id name value).perform d = outcome d ((setAttribute id name value).apply d) := by
  rw [perform, inPlace, apply, Document.setAttribute]
  cases hc : d.cell? id with
  | none =>
      rw [run_bind_error _ (run_node_none hc), Document.payload?, hc]
      rfl
  | some c =>
      rw [run_bind_ok _ (run_node hc), Document.payload?_of_cell? hc]
      cases c.payload with
      | element tag attributes =>
          exact run_bind_ok _ (run_writePayload (Document.lt_size_of_cell? hc) _)
      | document | text _ | comment _ => rfl

/-- An attribute is taken away in place. Erasing one that is not there changes nothing. -/
theorem perform_removeAttribute (id : NodeId) (name : String) :
    (removeAttribute id name).perform d = outcome d ((removeAttribute id name).apply d) := by
  rw [perform, inPlace, apply, Document.removeAttribute]
  cases hc : d.cell? id with
  | none =>
      rw [run_bind_error _ (run_node_none hc), Document.payload?, hc]
      rfl
  | some c =>
      have hpayload := Document.payload?_of_cell? hc
      rw [run_bind_ok _ (run_node hc), hpayload]
      cases hkind : c.payload with
      | element tag attributes =>
          rw [hkind] at hpayload
          have hwrite := run_writePayload (Document.lt_size_of_cell? hc)
            (.element tag (attributes.erase name.toLower))
          cases hvalue : attributes.get? name.toLower with
          | none =>
              rw [OrderedMap.erase_eq_self hvalue, Document.withPayload_self hpayload] at hwrite
              simp only [hvalue, Option.isSome_none, Bool.false_eq_true, if_false]
              rw [OrderedMap.erase_eq_self hvalue, run_bind_ok _ hwrite]
              rfl
          | some value =>
              simp only [hvalue, Option.isSome_some, if_true]
              rw [run_bind_ok _ hwrite]
              rfl
      | document | text _ | comment _ => rfl

/-- A text or a comment gets other data in place. -/
theorem perform_setText (id : NodeId) (text : String) :
    (setText id text).perform d = outcome d ((setText id text).apply d) := by
  rw [perform, inPlace, apply, Document.setText]
  cases hc : d.cell? id with
  | none =>
      rw [run_bind_error _ (run_node_none hc), Document.payload?, hc]
      rfl
  | some c =>
      rw [run_bind_ok _ (run_node hc), Document.payload?_of_cell? hc]
      cases c.payload with
      | text _ | comment _ =>
          exact run_bind_ok _ (run_writePayload (Document.lt_size_of_cell? hc) _)
      | document | element _ _ => rfl

/-- **An edit in place is the function**: in a sound document it comes to the same, or it leaves the
document alone. -/
theorem perform_eq (hd : d.Sound) (e : Edit) : e.perform d = outcome d (e.apply d) := by
  cases e with
  | setAttribute id name value => exact perform_setAttribute id name value
  | removeAttribute id name => exact perform_removeAttribute id name
  | setText id text => exact perform_setText id text
  | appendChild parent child => exact perform_appendChild parent child
  | insertBefore parent child reference => exact perform_insertBefore parent child reference
  | removeChild parent child => exact perform_removeChild hd parent child
  | replaceChild parent new old => exact perform_replaceChild hd parent new old

end Edit

/-! ### What edits do -/

namespace Document

/-- A document with the same nodes as another, but for what some of them are or where they stand,
after so many edits. -/
structure Unchanged (d left : Document) (but : List NodeId) (edits : Nat) : Prop where
  /-- No node is new and none is gone. -/
  size : left.cells.size = d.cells.size
  /-- All other nodes are the same. -/
  cells : ∀ i, i ∉ but → left.cell? i = d.cell? i
  /-- So many edits were counted. -/
  mutations : left.mutations = d.mutations + edits

/-- A document in which one node is something else. It stands where it stood. -/
structure Rewritten (d left : Document) (id : NodeId) (old new : Payload) : Prop
    extends Unchanged d left [id] 1 where
  /-- What the node was. -/
  before : d.payload? id = some old
  /-- What it is. -/
  after : left.payload? id = some new
  /-- The node above it. -/
  parent : left.parent? id = d.parent? id
  /-- The nodes below it. -/
  children : left.children id = d.children id

/-- A document in which the children of one node are others at one position: there, one may be gone
and one may be new. -/
structure Exchanged (d left : Document) (parent : NodeId) (front : List NodeId)
    (gone new : Option NodeId) (behind : List NodeId) : Prop
    extends Unchanged d left (parent :: gone.toList ++ new.toList) 1 where
  /-- The children of the node before. -/
  before : d.children parent = front ++ gone.toList ++ behind
  /-- The children of the node after. -/
  after : left.children parent = front ++ new.toList ++ behind
  /-- The children of every other node are the same. -/
  children : ∀ i, i ≠ parent → left.children i = d.children i
  /-- A child that is gone has no parent any more. -/
  detached : ∀ c ∈ gone, d.parent? c = some parent ∧ left.parent? c = none
  /-- A child that is new had no parent. -/
  attached : ∀ c ∈ new, d.parent? c = none ∧ left.parent? c = some parent
  /-- The parent of every other node is the same. -/
  parents : ∀ c, c ∉ gone → c ∉ new → left.parent? c = d.parent? c
  /-- All nodes are what they were. -/
  payloads : ∀ i, left.payload? i = d.payload? i

end Document

/-- What an edit did that was not refused, and the value that it gave. -/
inductive Edit.Did (d left : Document) : Edit → Option String → Prop
  /-- One attribute has another value. It stands behind the others if it is new. -/
  | setAttribute {id : NodeId} {name value tag : String} {old new : OrderedMap String}
      (node : d.Rewritten left id (.element tag old) (.element tag new))
      (keys : new.keys =
        if name.toLower ∈ old.keys then old.keys else old.keys ++ [name.toLower])
      (values : ∀ key, new.get? key = if key = name.toLower then some value else old.get? key) :
      Did d left (setAttribute id name value) none
  /-- One attribute is gone, and its value is given. -/
  | removeAttribute {id : NodeId} {name value tag : String} {old new : OrderedMap String}
      (node : d.Rewritten left id (.element tag old) (.element tag new))
      (found : old.get? name.toLower = some value)
      (keys : new.keys = old.keys.filter (· ≠ name.toLower))
      (values : ∀ key, new.get? key = if key = name.toLower then none else old.get? key) :
      Did d left (removeAttribute id name) (some value)
  /-- The attribute that was to be taken away was not there. -/
  | removeNothing {id : NodeId} {name tag : String} {old : OrderedMap String}
      (node : d.payload? id = some (.element tag old)) (missing : old.get? name.toLower = none)
      (same : left = d) : Did d left (removeAttribute id name) none
  /-- A text has other data. -/
  | setText {id : NodeId} {old new : String} (node : d.Rewritten left id (.text old) (.text new)) :
      Did d left (setText id new) none
  /-- A comment has other data. -/
  | setComment {id : NodeId} {old new : String}
      (node : d.Rewritten left id (.comment old) (.comment new)) : Did d left (setText id new) none
  /-- A node stands behind the children of another. -/
  | appendChild {parent child : NodeId}
      (links : d.Exchanged left parent (d.children parent) none (some child) []) :
      Did d left (appendChild parent child) none
  /-- A node stands before a child of another. -/
  | insertBefore {parent child reference : NodeId} {front behind : List NodeId}
      (links : d.Exchanged left parent front none (some child) (reference :: behind)) :
      Did d left (insertBefore parent child reference) none
  /-- A child is gone. -/
  | removeChild {parent child : NodeId} {front behind : List NodeId}
      (links : d.Exchanged left parent front (some child) none behind) :
      Did d left (removeChild parent child) none
  /-- A node stands in the place of a child. -/
  | replaceChild {parent new old : NodeId} {front behind : List NodeId}
      (links : d.Exchanged left parent front (some old) (some new) behind) :
      Did d left (replaceChild parent new old) none

namespace Document

variable {d : Document} {parent child new old id : NodeId} {front behind : List NodeId}

/-- Writing what a node is and counting it. -/
theorem rewritten {before after : Payload} (h : d.payload? id = some before) :
    d.Rewritten (d.withPayload id after).counted id before after where
  size := by simp
  cells i hi := by
    rw [List.mem_singleton] at hi
    simp [hi]
  mutations := rfl
  before := h
  after := by rw [payload?_counted, payload?_withPayload (lt_size_of_payload? h), if_pos rfl]
  parent := by simp
  children := by simp

/-- Putting a node somewhere among the children of another and counting it. -/
theorem exchanged_insert (hcheck : d.checkInsert parent child = .ok ())
    (hbelow : d.children parent = front ++ behind) :
    d.Exchanged ((d.withChildren parent (front ++ child :: behind)).withParent child
      (some parent)).counted parent front none (some child) behind := by
  obtain ⟨⟨p, hp, -⟩, ⟨c, hc, horphan⟩, -⟩ := checkInsert_eq_ok_iff.mp hcheck
  have hchild : child < d.cells.size := lt_size_of_cell? hc
  exact
    { size := by simp
      cells := fun i hi => by
        obtain ⟨hparent, hnew⟩ : i ≠ parent ∧ i ≠ child := by simpa using hi
        simp [hparent, hnew]
      mutations := rfl
      before := by simpa using hbelow
      after := by simp [children_withChildren (lt_size_of_cell? hp)]
      children := fun i hi => by simp [children_withChildren (lt_size_of_cell? hp), hi]
      detached := fun c hgone => absurd hgone (Option.not_mem_none c)
      attached := fun c hnew => by
        obtain rfl : child = c := by simpa using hnew
        exact ⟨(parent?_of_cell? hc).trans horphan, by simp [parent?_withParent, hchild]⟩
      parents := fun c _ hnew => by
        have hne : c ≠ child := fun h => hnew (by simp [h])
        simp [parent?_withParent, hchild, hne]
      payloads := by simp }

/-- Taking a child from a node and counting it. -/
theorem exchanged_remove (hd : d.Sound) (hbelow : d.children parent = front ++ child :: behind) :
    d.Exchanged ((d.withChildren parent (front ++ behind)).withParent child none).counted
      parent front (some child) none behind := by
  have hmem : child ∈ d.children parent := by simp [hbelow]
  have hparent := lt_size_of_mem_children hmem
  have hchild := hd.child_lt_size hmem
  exact
    { size := by simp
      cells := fun i hi => by
        obtain ⟨hparent, hgone⟩ : i ≠ parent ∧ i ≠ child := by simpa using hi
        simp [hparent, hgone]
      mutations := rfl
      before := by simpa using hbelow
      after := by simp [children_withChildren hparent]
      children := fun i hi => by simp [children_withChildren hparent, hi]
      detached := fun c hgone => by
        obtain rfl : child = c := by simpa using hgone
        exact ⟨(hd.linked child parent).mpr hmem, by simp [parent?_withParent, hchild]⟩
      attached := fun c hnew => absurd hnew (Option.not_mem_none c)
      parents := fun c hgone _ => by
        have hne : c ≠ child := fun h => hgone (by simp [h])
        simp [parent?_withParent, hchild, hne]
      payloads := by simp }

/-- Putting a node in the place of a child and counting it. The two are different, as only one of
them had a parent. -/
theorem exchanged_replace (hd : d.Sound) (hcheck : d.checkInsert parent new = .ok ())
    (hbelow : d.children parent = front ++ old :: behind) :
    d.Exchanged (((d.withChildren parent (front ++ new :: behind)).withParent new
      (some parent)).withParent old none).counted parent front (some old) (some new) behind := by
  obtain ⟨-, ⟨c, hc, horphan⟩, -⟩ := checkInsert_eq_ok_iff.mp hcheck
  have hmem : old ∈ d.children parent := by simp [hbelow]
  have hparent := lt_size_of_mem_children hmem
  have hold := hd.child_lt_size hmem
  have hnew : new < d.cells.size := lt_size_of_cell? hc
  have habove : d.parent? old = some parent := (hd.linked old parent).mpr hmem
  have hfree : d.parent? new = none := (parent?_of_cell? hc).trans horphan
  have hne : new ≠ old := fun h => Option.some_ne_none parent (habove.symm.trans (h ▸ hfree))
  exact
    { size := by simp
      cells := fun i hi => by
        obtain ⟨hparent, hold, hnew⟩ : i ≠ parent ∧ i ≠ old ∧ i ≠ new := by simpa using hi
        simp [hparent, hold, hnew]
      mutations := rfl
      before := by simpa using hbelow
      after := by simp [children_withChildren hparent]
      children := fun i hi => by simp [children_withChildren hparent, hi]
      detached := fun c hgone => by
        obtain rfl : old = c := by simpa using hgone
        exact ⟨habove, by simp [parent?_withParent, hold]⟩
      attached := fun c hput => by
        obtain rfl : new = c := by simpa using hput
        exact ⟨hfree, by simp [parent?_withParent, hold, hnew, hne]⟩
      parents := fun c hgone hput => by
        have hneOld : c ≠ old := fun h => hgone (by simp [h])
        have hneNew : c ≠ new := fun h => hput (by simp [h])
        simp [parent?_withParent, hold, hnew, hneOld, hneNew]
      payloads := by simp }

end Document

namespace Edit

variable {d left : Document}

/-- An edit that is not refused does just what it says. -/
theorem did_of_apply (hd : d.Sound) {e : Edit} {value : Option String}
    (h : e.apply d = .ok (left, value)) : e.Did d left value := by
  -- only the removal of an attribute gives a value
  have hplain {edit : Except DomError Document} (hedit : edit.map (·, none) = .ok (left, value)) :
      edit = .ok left ∧ value = none := by
    cases edit with
    | error reason => cases hedit
    | ok next =>
        cases hedit
        exact ⟨rfl, rfl⟩
  cases e with
  | setAttribute id name new =>
      obtain ⟨hedit, rfl⟩ := hplain h
      obtain ⟨tag, attributes, hid, rfl⟩ := Document.setAttribute_eq_ok_iff.mp hedit
      exact .setAttribute (Document.rewritten hid) (attributes.keys_insert _ _)
        fun key => attributes.get?_insert _ key _
  | removeAttribute id name =>
      obtain ⟨tag, attributes, hid, hvalue, rfl⟩ := Document.removeAttribute_eq_ok_iff.mp h
      cases value with
      | none => exact .removeNothing hid hvalue rfl
      | some old =>
          exact .removeAttribute (Document.rewritten hid) hvalue (attributes.keys_erase _)
            (attributes.get?_erase _)
  | setText id text =>
      obtain ⟨hedit, rfl⟩ := hplain h
      obtain ⟨payload, ⟨old, hid, rfl⟩ | ⟨old, hid, rfl⟩, rfl⟩ :=
        Document.setText_eq_ok_iff.mp hedit
      · exact .setText (Document.rewritten hid)
      · exact .setComment (Document.rewritten hid)
  | appendChild parent child =>
      obtain ⟨hedit, rfl⟩ := hplain h
      obtain ⟨hcheck, rfl⟩ := Document.appendChild_eq_ok_iff.mp hedit
      exact .appendChild (Document.exchanged_insert hcheck (List.append_nil _).symm)
  | insertBefore parent child reference =>
      obtain ⟨hedit, rfl⟩ := hplain h
      obtain ⟨hcheck, hreference, rfl⟩ := Document.insertBefore_eq_ok_iff.mp hedit
      obtain ⟨front, behind, hbelow, hnot⟩ :=
        List.eq_append_cons_of_mem (Document.checkChild_eq_ok_iff.mp hreference)
      rw [hbelow, Document.putBefore_middle hnot]
      exact .insertBefore (Document.exchanged_insert hcheck hbelow)
  | removeChild parent child =>
      obtain ⟨hedit, rfl⟩ := hplain h
      obtain ⟨hchild, rfl⟩ := Document.removeChild_eq_ok_iff.mp hedit
      obtain ⟨front, behind, hbelow, hnot⟩ :=
        List.eq_append_cons_of_mem (Document.checkChild_eq_ok_iff.mp hchild)
      rw [hbelow, List.erase_append_right _ hnot, List.erase_cons_head]
      exact .removeChild (Document.exchanged_remove hd hbelow)
  | replaceChild parent new old =>
      obtain ⟨hedit, rfl⟩ := hplain h
      obtain ⟨hcheck, hchild, rfl⟩ := Document.replaceChild_eq_ok_iff.mp hedit
      obtain ⟨front, behind, hbelow, hnot⟩ :=
        List.eq_append_cons_of_mem (Document.checkChild_eq_ok_iff.mp hchild)
      rw [hbelow, Document.replace_middle new hnot]
      exact .replaceChild (Document.exchanged_replace hd hcheck hbelow)

/-- **Edits are atomic.** In a document that can be reached, and with any numbers of nodes, an edit
that is refused leaves the document as it was, with as many edits counted; and an edit that is not
refused does just what it says. -/
theorem perform_atomic (hd : d.Reachable) (e : Edit) :
    (∀ reason left, e.perform d = (.error reason, left) → left = d) ∧
      ∀ value left, e.perform d = (.ok value, left) → e.Did d left value := by
  rw [perform_eq hd.sound]
  cases h : e.apply d with
  | error reason =>
      refine ⟨fun _ left hleft => ?_, fun _ left hleft => ?_⟩ <;> cases hleft
      rfl
  | ok done =>
      obtain ⟨next, value⟩ := done
      refine ⟨fun _ left hleft => ?_, fun _ left hleft => ?_⟩ <;> cases hleft
      exact did_of_apply hd.sound h

/-- A text is put below the top, and is not put below itself. -/
theorem perform_atomic_text :
    Document.Reachable (Document.empty.createText "a").1 ∧
      (appendChild 0 1).Did (Document.empty.createText "a").1
        ⟨#[⟨.document, none, [1]⟩, ⟨.text "a", some 0, []⟩], 1⟩ none ∧
      ((appendChild 1 1).perform (Document.empty.createText "a").1).2 =
        (Document.empty.createText "a").1 :=
  have h := Document.Reachable.empty.createText "a"
  ⟨h, (perform_atomic h (appendChild 0 1)).2 none _ rfl,
    (perform_atomic h (appendChild 1 1)).1 (.notAContainer 1) _ rfl⟩

/-- Edits in place come to documents that can be reached. -/
theorem reachable_perform (hd : d.Reachable) (e : Edit) : (e.perform d).2.Reachable := by
  have hkeep {edit : Except DomError Document}
      (hedit : ∀ next, edit = .ok next → next.Reachable) :
      (outcome d (edit.map (·, none))).2.Reachable := by
    cases edit with
    | error reason => exact hd
    | ok next => exact hedit next rfl
  rw [perform_eq hd.sound]
  cases e with
  | setAttribute id name value => exact hkeep fun _ => hd.setAttribute
  | removeAttribute id name =>
      rw [apply]
      cases h : d.removeAttribute id name with
      | error reason => exact hd
      | ok removed => exact hd.removeAttribute h
  | setText id text => exact hkeep fun _ => hd.setText
  | appendChild parent child => exact hkeep fun _ => hd.appendChild
  | insertBefore parent child reference => exact hkeep fun _ => hd.insertBefore
  | removeChild parent child => exact hkeep fun _ => hd.removeChild
  | replaceChild parent new old => exact hkeep fun _ => hd.replaceChild

end Edit

end TwinRender
