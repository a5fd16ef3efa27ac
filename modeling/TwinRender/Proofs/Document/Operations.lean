import TwinRender.Proofs.Document.Loops
import TwinRender.Proofs.Document.Reachable

/-!
# Sequences of operations

A program starts with an empty document or a parsed one and performs operations on it, with any
numbers of nodes. An operation that is refused leaves the document as it was, and the program may go
on. Whatever it does, parents and children agree, no node stands above itself, every loop over the
document ends, and no number is given twice.

## Main definitions

* `Document.Operation`, `Document.perform`, `Document.performAll`: operations and their sequences.
* `Document.Consistent`: what a reader of a document can rely on.
* `Document.Origin`: the documents that a program starts with.

## Main results

* `Document.Sound.consistent`: sound documents are consistent.
* `Document.perform_spec`: an operation keeps a document sound and gives the next number, if any.
* `Document.Reachable.performAll`: operations come to documents that can be reached.
* `Document.performAll_consistent`: **every document that operations come to is consistent, and no
  number is given twice**.
-/

namespace TwinRender.Document

variable {d : Document}

/-! ### Operations -/

/-- An operation on a document, with any numbers of nodes. -/
inductive Operation where
  /-- A new element. -/
  | createElement (tag : String)
  /-- A new text. -/
  | createText (text : String)
  /-- A new comment. -/
  | createComment (text : String)
  /-- An attribute gets a value. -/
  | setAttribute (id : NodeId) (name value : String)
  /-- An attribute is taken away. -/
  | removeAttribute (id : NodeId) (name : String)
  /-- A text or a comment gets other data. -/
  | setText (id : NodeId) (text : String)
  /-- A node is put behind the children of another. -/
  | appendChild (parent child : NodeId)
  /-- A node is put before a child of another. -/
  | insertBefore (parent child reference : NodeId)
  /-- A child is taken from a node. -/
  | removeChild (parent child : NodeId)
  /-- A node is put in the place of a child of another. -/
  | replaceChild (parent new old : NodeId)
  deriving DecidableEq, Repr

/-- The document after an edit, which is the same if the edit is refused. An edit gives no
number. -/
def edited (d : Document) : Except DomError Document → Document × Option NodeId
  | .ok next => (next, none)
  | .error _ => (d, none)

/-- The document after an operation, and the number of the new node if there is one. -/
def perform (d : Document) : Operation → Document × Option NodeId
  | .createElement tag => ((d.createElement tag).1, some (d.createElement tag).2)
  | .createText text => ((d.createText text).1, some (d.createText text).2)
  | .createComment text => ((d.createComment text).1, some (d.createComment text).2)
  | .setAttribute id name value => d.edited (d.setAttribute id name value)
  | .removeAttribute id name => d.edited ((d.removeAttribute id name).map Prod.fst)
  | .setText id text => d.edited (d.setText id text)
  | .appendChild parent child => d.edited (d.appendChild parent child)
  | .insertBefore parent child reference => d.edited (d.insertBefore parent child reference)
  | .removeChild parent child => d.edited (d.removeChild parent child)
  | .replaceChild parent new old => d.edited (d.replaceChild parent new old)

/-- The document after some operations, and the numbers of the new nodes in order. -/
def performAll (d : Document) : List Operation → Document × List NodeId
  | [] => (d, [])
  | op :: rest =>
    let next := d.perform op
    let last := next.1.performAll rest
    (last.1, next.2.toList ++ last.2)

/-- What a program starts with. -/
inductive Origin where
  /-- A new document. -/
  | new
  /-- The document of markup. -/
  | parsed (markup : String)

/-- The document that a program starts with. -/
def Origin.document : Origin → Document
  | new => .empty
  | parsed markup => .parse markup

/-! ### What a reader can rely on -/

/-- A document in which parents and children agree, and in which every loop ends. -/
structure Consistent (d : Document) : Prop where
  /-- A node has a parent exactly when it stands among the children of the parent. -/
  linked : ∀ c p, d.parent? c = some p ↔ c ∈ d.children p
  /-- It stands there once. -/
  once : ∀ c p, c ∈ d.children p → (d.children p).count c = 1
  /-- It stands nowhere else. -/
  nowhereElse : ∀ c p q, c ∈ d.children p → c ∈ d.children q → p = q
  /-- Only the node at the top and elements have children. -/
  container : ∀ p, d.children p ≠ [] →
    d.payload? p = some .document ∨ ∃ tag attributes, d.payload? p = some (.element tag attributes)
  /-- No node is above itself. -/
  acyclic : ∀ x, ¬ Relation.TransGen (fun c p => d.parent? c = some p) x x
  /-- The way up from a node to the top ends. -/
  attached : ∀ x, d.Climbs root x (d.isAttached x)
  /-- The way up that a node is looked for before it is put below another ends. -/
  checked : ∀ parent child, d.Climbs child parent ((d.ancestors parent).contains child)
  /-- The way down from a node ends. -/
  visited : ∀ x, d.Visits (d.children x) (d.descendants x)
  /-- Capturing a known node ends. -/
  captured : ∀ x, (d.cell? x).isSome → ∃ s, d.snapshot? x = .ok s ∧ d.Captures x s
  /-- The names of elements and attributes are in lower case. -/
  lowercase : ∀ id tag attributes, d.payload? id = some (.element tag attributes) →
    tag.toLower = tag ∧ ∀ name ∈ attributes.keys, name.toLower = name

namespace Sound

/-- No node of a sound document is above itself. -/
theorem not_transGen (hd : d.Sound) (x : NodeId) :
    ¬ Relation.TransGen (fun c p => d.parent? c = some p) x x := by
  intro h
  obtain ⟨p, hp, hrest⟩ := Relation.TransGen.head'_iff.mp h
  exact hd.not_above_parent hp hrest

/-- **Sound documents are consistent.** -/
theorem consistent (hd : d.Sound) : d.Consistent where
  linked := hd.linked
  once c p hc := List.count_eq_one_of_mem (hd.nodup p) hc
  nowhereElse c p q hp hq := by
    rw [← hd.linked] at hp hq
    exact Option.some.inj (hp.symm.trans hq)
  container p hp := by
    obtain ⟨payload, hpayload, hcontainer⟩ := (Option.any_eq_true _ _).mp (hd.container p hp)
    cases payload with
    | document => exact .inl hpayload
    | element tag attributes => exact .inr ⟨tag, attributes, hpayload⟩
    | text _ | comment _ => cases hcontainer
  acyclic := hd.not_transGen
  attached := hd.climbs root
  checked parent child := hd.climbs child parent
  visited := hd.visits
  captured x hx := by
    refine ⟨d.tree x, ?_, hd.captures (isSome_cell?_iff.mp hx)⟩
    obtain ⟨c, hc⟩ := Option.isSome_iff_exists.mp hx
    rw [snapshot?, hc]
  lowercase id tag attributes hid :=
    ⟨(hd.lowercase id tag attributes hid).tag, (hd.lowercase id tag attributes hid).attributes⟩

end Sound

/-! ### What operations keep -/

/-- A document that comes from another one: it is sound, and so many nodes are new, with the next
numbers. -/
structure Continues (d next : Document) (created : List NodeId) : Prop where
  /-- The document is sound. -/
  sound : next.Sound
  /-- So many nodes are new. -/
  size : next.cells.size = d.cells.size + created.length
  /-- They have the next numbers. -/
  numbers : created = List.range' d.cells.size created.length

/-- A new node has the next number. -/
theorem continues_create {payload : Payload} (h : (d.create payload).1.Sound) :
    d.Continues (d.create payload).1 [(d.create payload).2] :=
  ⟨h, size_create d payload, rfl⟩

/-- An edit gives no number, whether it is refused or not. -/
theorem continues_edited (hd : d.Sound) {edit : Except DomError Document}
    (h : ∀ next, edit = .ok next → next.Sound ∧ next.cells.size = d.cells.size) :
    d.Continues (d.edited edit).1 (d.edited edit).2.toList := by
  cases edit with
  | error e => exact ⟨hd, rfl, rfl⟩
  | ok next => exact ⟨(h next rfl).1, (h next rfl).2, rfl⟩

/-- The document without an attribute comes with the value that the attribute had. -/
theorem exists_removeAttribute {id : NodeId} {name : String} {next : Document}
    (h : (d.removeAttribute id name).map Prod.fst = .ok next) :
    ∃ value, d.removeAttribute id name = .ok (next, value) := by
  cases hremoved : d.removeAttribute id name with
  | error e => rw [hremoved] at h; cases h
  | ok removed =>
      rw [hremoved] at h
      obtain rfl : removed.1 = next := Except.ok.inj h
      exact ⟨removed.2, rfl⟩

/-- **An operation keeps a document sound**, and gives the next number if it creates a node. -/
theorem perform_spec (hd : d.Sound) (op : Operation) :
    d.Continues (d.perform op).1 (d.perform op).2.toList := by
  cases op with
  | createElement tag => exact continues_create (hd.createElement tag)
  | createText text => exact continues_create (hd.createText text)
  | createComment text => exact continues_create (hd.createComment text)
  | setAttribute id name value =>
      refine continues_edited hd fun next h => ⟨hd.setAttribute h, ?_⟩
      obtain ⟨_, _, -, rfl⟩ := setAttribute_eq_ok_iff.mp h
      simp
  | removeAttribute id name =>
      refine continues_edited hd fun next h => ?_
      obtain ⟨value, hremoved⟩ := exists_removeAttribute h
      refine ⟨hd.removeAttribute hremoved, ?_⟩
      obtain ⟨_, _, -, -, rfl⟩ := removeAttribute_eq_ok_iff.mp hremoved
      split <;> simp
  | setText id text =>
      refine continues_edited hd fun next h => ⟨hd.setText h, ?_⟩
      obtain ⟨_, -, rfl⟩ := setText_eq_ok_iff.mp h
      simp
  | appendChild parent child =>
      refine continues_edited hd fun next h => ⟨hd.appendChild h, ?_⟩
      obtain ⟨-, rfl⟩ := appendChild_eq_ok_iff.mp h
      simp
  | insertBefore parent child reference =>
      refine continues_edited hd fun next h => ⟨hd.insertBefore h, ?_⟩
      obtain ⟨-, -, rfl⟩ := insertBefore_eq_ok_iff.mp h
      simp
  | removeChild parent child =>
      refine continues_edited hd fun next h => ⟨hd.removeChild h, ?_⟩
      obtain ⟨-, rfl⟩ := removeChild_eq_ok_iff.mp h
      simp
  | replaceChild parent new old =>
      refine continues_edited hd fun next h => ⟨hd.replaceChild h, ?_⟩
      obtain ⟨-, -, rfl⟩ := replaceChild_eq_ok_iff.mp h
      simp

/-- **Operations keep a document sound**, and give the next numbers to the nodes that they
create. -/
theorem performAll_spec (hd : d.Sound) (ops : List Operation) :
    d.Continues (d.performAll ops).1 (d.performAll ops).2 := by
  induction ops generalizing d with
  | nil => exact ⟨hd, rfl, rfl⟩
  | cons op rest ih =>
      obtain ⟨hsound, hsize, hnumbers⟩ := perform_spec hd op
      obtain ⟨hlast, hlastSize, hlastNumbers⟩ := ih hsound
      refine ⟨hlast, ?_, ?_⟩
      · rw [performAll, hlastSize, hsize, List.length_append, Nat.add_assoc]
      · rw [performAll, List.length_append, ← List.range'_append_1, ← hnumbers, ← hsize,
          ← hlastNumbers]

/-- An operation, refused or not, comes to a document that can be reached. -/
theorem Reachable.perform (h : d.Reachable) (op : Operation) : (d.perform op).1.Reachable := by
  have hedited {edit : Except DomError Document}
      (hedit : ∀ next, edit = .ok next → next.Reachable) : (d.edited edit).1.Reachable := by
    cases edit with
    | error e => exact h
    | ok next => exact hedit next rfl
  cases op with
  | createElement tag => exact h.createElement tag
  | createText text => exact h.createText text
  | createComment text => exact h.createComment text
  | setAttribute id name value => exact hedited fun _ => h.setAttribute
  | removeAttribute id name =>
      refine hedited fun next hnext => ?_
      obtain ⟨value, hremoved⟩ := exists_removeAttribute hnext
      exact h.removeAttribute hremoved
  | setText id text => exact hedited fun _ => h.setText
  | appendChild parent child => exact hedited fun _ => h.appendChild
  | insertBefore parent child reference => exact hedited fun _ => h.insertBefore
  | removeChild parent child => exact hedited fun _ => h.removeChild
  | replaceChild parent new old => exact hedited fun _ => h.replaceChild

/-- **Operations come to documents that can be reached.** -/
theorem Reachable.performAll (h : d.Reachable) (ops : List Operation) :
    (d.performAll ops).1.Reachable := by
  induction ops generalizing d with
  | nil => exact h
  | cons op rest ih => exact ih (h.perform op)

/-- What a program starts with is sound. -/
theorem Origin.sound (o : Origin) : o.document.Sound := by
  cases o with
  | new => exact .empty
  | parsed markup => exact .parse markup

/-- **Every document that operations come to is consistent**, whatever the numbers in them are and
whichever of them are refused; and the numbers that new nodes get are different from each other and
from the ones that the document had at the start. -/
theorem performAll_consistent (o : Origin) (ops : List Operation) :
    (o.document.performAll ops).1.Consistent ∧ (o.document.performAll ops).2.Nodup ∧
      ∀ id ∈ (o.document.performAll ops).2, o.document.cells.size ≤ id := by
  obtain ⟨hsound, -, hnumbers⟩ := performAll_spec o.sound ops
  refine ⟨hsound.consistent, ?_, fun id hid => ?_⟩
  · rw [hnumbers]
    exact List.nodup_range'
  · rw [hnumbers, List.mem_range'_1] at hid
    exact hid.1

end TwinRender.Document
