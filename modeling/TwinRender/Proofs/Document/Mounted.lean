import TwinRender.Document.Mount
import TwinRender.Proofs.Document.Held
import TwinRender.Proofs.Document.Reachable

/-!
# Mounted nodes

Mounting never fails. It puts the tree of an expected node into the store, with the next numbers
in the order of the document, and leaves every node that was known as it was.

## Main definitions

* `VNode.count`, `VNode.edits`: the number of nodes, and of edits that mounting takes.
* `VNode.mounted`: the tree of a mounted node.
* `Document.Extends`: a document with some more nodes behind the known ones.

## Main results

* `VNode.ids_mounted`: mounted nodes have consecutive numbers.
* `Document.mount_spec`: **mounting builds the tree of the node and nothing else**.
-/

namespace TwinRender

namespace VNode

mutual

/-- The number of nodes in a tree. -/
def count : VNode → Nat
  | .element _ _ children => listCount children + 1
  | .text _ => 1

/-- The number of nodes in some trees. -/
def listCount : List VNode → Nat
  | [] => 0
  | n :: ns => n.count + listCount ns

end

mutual

/-- The number of edits that it takes to mount a node: its attributes, and those of its children,
each of which is put into its place. -/
def edits : VNode → Nat
  | .element _ attributes children => attributes.toList.length + listEdits children
  | .text _ => 0

/-- The number of edits that it takes to mount children. -/
def listEdits : List VNode → Nat
  | [] => 0
  | n :: ns => n.edits + 1 + listEdits ns

end

mutual

/-- The tree of a mounted node, whose nodes are numbered from a number on. -/
def mounted (next : NodeId) : VNode → Snapshot
  | .element tag attributes children =>
    .node next (.element tag.toLower attributes.lowerKeys) (mountedList (next + 1) children)
  | .text s => .node next (.text s) []

/-- The trees of mounted nodes, numbered one behind the other. -/
def mountedList (next : NodeId) : List VNode → List Snapshot
  | [] => []
  | n :: ns => n.mounted next :: mountedList (next + n.count) ns

end

/-- A mounted node has the first of its numbers. -/
@[simp] theorem id_mounted (next : NodeId) (n : VNode) : (n.mounted next).id = next := by
  cases n <;> rfl

/-- There is at least one node in a tree. -/
theorem count_pos (n : VNode) : 0 < n.count := by
  cases n <;> simp [count]

mutual

/-- **Mounted nodes have consecutive numbers**, in the order of the document. -/
theorem ids_mounted (next : NodeId) (n : VNode) :
    (n.mounted next).ids = List.range' next n.count := by
  cases n with
  | text s =>
      rw [mounted, Snapshot.ids_node, count]
      rfl
  | element tag attributes children =>
      rw [mounted, Snapshot.ids_node, listIds_mountedList, count, List.range'_succ]

/-- Nodes mounted one behind the other have consecutive numbers. -/
theorem listIds_mountedList (next : NodeId) (ns : List VNode) :
    Snapshot.listIds (mountedList next ns) = List.range' next (listCount ns) := by
  cases ns with
  | nil => rfl
  | cons n ns =>
      rw [mountedList, Snapshot.listIds_cons, ids_mounted, listIds_mountedList, listCount,
        List.range'_append_1]

end

end VNode

namespace Document

open VNode (mountedList listCount listEdits)

variable {d d' d'' : Document}

/-- A document with some more nodes behind the known ones, after some edits of them. -/
structure Extends (d d' : Document) (count edits : Nat) : Prop where
  /-- There are so many new nodes. -/
  size : d'.cells.size = d.cells.size + count
  /-- There were so many edits. -/
  mutations : d'.mutations = d.mutations + edits
  /-- The known nodes are as they were. -/
  cell : ∀ i < d.cells.size, d'.cell? i = d.cell? i

/-- Giving an element attributes never fails, and changes nothing else. -/
theorem setAttributes_spec {id : NodeId} {tag : String} {attributes : OrderedMap String}
    {parent : Option NodeId} {children : List NodeId}
    (h : d.cell? id = some ⟨.element tag attributes, parent, children⟩)
    (entries : List (String × String)) :
    ∃ d', d.setAttributes id entries = .ok d' ∧ d'.cells.size = d.cells.size ∧
      d'.mutations = d.mutations + entries.length ∧
      ∀ i, d'.cell? i = if i = id then
        some ⟨.element tag (entries.foldl (fun m e => m.insert e.1.toLower e.2) attributes),
          parent, children⟩ else d.cell? i := by
  induction entries generalizing d attributes with
  | nil =>
      refine ⟨d, rfl, rfl, rfl, fun i => ?_⟩
      split
      · next hi => rw [hi, h, List.foldl_nil]
      · rfl
  | cons e rest ih =>
      have hset : d.setAttribute id e.1 e.2 = .ok (d.withPayload id
          (.element tag (attributes.insert e.1.toLower e.2))).counted :=
        setAttribute_eq_ok_iff.mpr ⟨tag, attributes, payload?_of_cell? h, rfl⟩
      have hcell : ((d.withPayload id
          (.element tag (attributes.insert e.1.toLower e.2))).counted).cell? id =
          some ⟨.element tag (attributes.insert e.1.toLower e.2), parent, children⟩ := by
        simp [h]
      obtain ⟨d', hrest, hsize, hmutations, hcells⟩ := ih hcell
      refine ⟨d', ?_, ?_, ?_, fun i => ?_⟩
      · rw [setAttributes, hset]
        exact hrest
      · simpa using hsize
      · rw [hmutations, List.length_cons]
        change d.mutations + 1 + rest.length = _
        omega
      · rw [hcells, List.foldl_cons]
        by_cases hi : i = id
        · rw [if_pos hi, if_pos hi]
        · simp [hi]

/-- A node that stands nowhere can be put below another one that stands nowhere. -/
theorem checkInsert_free {parent child : NodeId} {payload payload' : Payload}
    {children children' : List NodeId}
    (hparent : d.cell? parent = some ⟨payload, none, children⟩)
    (hcontainer : payload.isContainer = true)
    (hchild : d.cell? child = some ⟨payload', none, children'⟩) (hne : child ≠ parent) :
    d.checkInsert parent child = .ok () := by
  have hancestors : d.ancestors parent = [parent] := by
    rw [ancestors]
    cases d.cells.size with
    | zero => rfl
    | succ n => rw [climb, parent?_of_cell? hparent]
  refine checkInsert_eq_ok_iff.mpr ⟨⟨_, hparent, hcontainer⟩, ⟨_, hchild, rfl⟩, ?_⟩
  rw [hancestors, List.mem_singleton]
  exact hne

/-- A mounted tree keeps its nodes below its topmost one when it is put into its place. -/
theorem Holds.attach {parent : Option NodeId} {next : NodeId} {n : VNode}
    (h : d.Holds none (n.mounted next))
    (hcell : d'.cell? next =
      some ⟨(n.mounted next).payload, parent, (n.mounted next).children.map Snapshot.id⟩)
    (hsame : ∀ i, next < i → d'.cell? i = d.cell? i) : d'.Holds parent (n.mounted next) := by
  have hids := VNode.ids_mounted next n
  have hid := VNode.id_mounted next n
  generalize n.mounted next = t at h hcell hids hid
  obtain ⟨id, payload, children⟩ := t
  obtain rfl : id = next := hid
  refine ⟨hcell, HoldsAll.frame children h.2 fun i hi => hsame i ?_⟩
  -- the numbers below the topmost node come behind it
  rw [Snapshot.ids_node] at hids
  have hpos := n.count_pos
  obtain ⟨count, hcount⟩ : ∃ count, n.count = count + 1 := ⟨n.count - 1, by omega⟩
  rw [hcount, List.range'_succ, List.cons.injEq] at hids
  rw [hids.2, List.mem_range'_1] at hi
  exact hi.1

mutual

/-- **Mounting builds the tree of the node and nothing else.** -/
theorem mount_spec (d : Document) (n : VNode) :
    ∃ d', d.mount n = .ok (d', d.cells.size) ∧ d.Extends d' n.count n.edits ∧
      d'.Holds none (n.mounted d.cells.size) := by
  cases n with
  | text s =>
      refine ⟨(d.createText s).1, rfl, ⟨size_create d _, rfl, fun i hi => ?_⟩, ?_, trivial⟩
      · rw [createText, cell?_create, if_neg (Nat.ne_of_lt hi)]
      · rw [createText, cell?_create, if_pos rfl]
        rfl
  | element tag attributes children =>
      have hcreated : (d.createElement tag).1.cell? d.cells.size =
          some ⟨.element tag.toLower .empty, none, []⟩ := by
        rw [createElement, cell?_create, if_pos rfl]
      obtain ⟨d₁, hset, hsize₁, hmutations₁, hcells₁⟩ :=
        setAttributes_spec hcreated attributes.toList
      have hattributes : attributes.toList.foldl (fun m e => m.insert e.1.toLower e.2) .empty =
          attributes.lowerKeys := by
        rw [OrderedMap.lowerKeys, OrderedMap.ofList, List.foldl_map]
        rfl
      have hparent : d₁.cell? d.cells.size =
          some ⟨.element tag.toLower attributes.lowerKeys, none, []⟩ := by
        rw [hcells₁, if_pos rfl, hattributes]
      obtain ⟨d₂, hmount, hsize₂, hmutations₂, hcells₂, hcell₂, hheld⟩ :=
        mountChildren_spec d₁ hparent rfl children
      have hsize : d₁.cells.size = d.cells.size + 1 := by
        rw [hsize₁, createElement, size_create]
      rw [hsize] at hcell₂ hheld
      refine ⟨d₂, ?_, ⟨?_, ?_, fun i hi => ?_⟩, hcell₂, hheld⟩
      · have hsnd : (d.createElement tag).2 = d.cells.size := rfl
        simp only [mount, hsnd, hset, hmount, bind, Except.bind]
        rfl
      · rw [hsize₂, hsize, VNode.count]
        omega
      · rw [hmutations₂, hmutations₁, createElement, mutations_create, VNode.edits]
        omega
      · have hne : i ≠ d.cells.size := Nat.ne_of_lt hi
        rw [hcells₂ i (by rw [hsize]; exact Nat.lt_succ_of_lt hi) hne, hcells₁, if_neg hne,
          createElement, cell?_create, if_neg hne]

/-- Mounting children puts their trees behind the children of a node that stands nowhere. -/
theorem mountChildren_spec (d : Document) {parent : NodeId} {payload : Payload}
    {children : List NodeId} (hparent : d.cell? parent = some ⟨payload, none, children⟩)
    (hcontainer : payload.isContainer = true) (ns : List VNode) :
    ∃ d', d.mountChildren parent ns = .ok d' ∧
      d'.cells.size = d.cells.size + listCount ns ∧ d'.mutations = d.mutations + listEdits ns ∧
      (∀ i < d.cells.size, i ≠ parent → d'.cell? i = d.cell? i) ∧
      d'.cell? parent =
        some ⟨payload, none, children ++ (mountedList d.cells.size ns).map Snapshot.id⟩ ∧
      d'.HoldsAll (some parent) (mountedList d.cells.size ns) := by
  cases ns with
  | nil =>
      refine ⟨d, rfl, rfl, rfl, fun _ _ _ => rfl, ?_, trivial⟩
      rw [hparent, mountedList, List.map_nil, List.append_nil]
  | cons n ns =>
      have hknown := lt_size_of_cell? hparent
      have hne : d.cells.size ≠ parent := Ne.symm (Nat.ne_of_lt hknown)
      obtain ⟨d₁, hmount, hextends, hheld₁⟩ := mount_spec d n
      have hparent₁ : d₁.cell? parent = some ⟨payload, none, children⟩ :=
        (hextends.cell parent hknown).trans hparent
      have htop := hheld₁.cell
      rw [VNode.id_mounted] at htop
      obtain ⟨d₂, happend, hsize₂, hmutations₂, hparent₂, htop₂, hcells₂⟩ :=
        exists_appendChild hparent₁ (checkInsert_free hparent₁ hcontainer htop hne)
      have hsize : d₂.cells.size = d.cells.size + n.count := by rw [hsize₂, hextends.size]
      obtain ⟨d₃, hrest, hsize₃, hmutations₃, hcells₃, hcell₃, hheld₃⟩ :=
        mountChildren_spec d₂ hparent₂ hcontainer ns
      rw [hsize] at hcell₃ hheld₃
      refine ⟨d₃, ?_, ?_, ?_, fun i hi hip => ?_, ?_, ?_, hheld₃⟩
      · simp only [mountChildren, hmount, happend, hrest, bind, Except.bind]
      · rw [hsize₃, hsize, VNode.listCount]
        omega
      · rw [hmutations₃, hmutations₂, hextends.mutations, VNode.listEdits]
        omega
      · rw [hcells₃ i (by rw [hsize]; exact Nat.lt_add_right _ hi) hip,
          hcells₂ i hip (Nat.ne_of_lt hi), hextends.cell i hi]
      · rw [hcell₃, mountedList, List.map_cons, VNode.id_mounted, List.append_assoc,
          List.singleton_append]
      · have hsecond : d₂.Holds (some parent) (n.mounted d.cells.size) := by
          refine hheld₁.attach (by rw [htop₂, htop]; rfl) fun i hi => ?_
          exact hcells₂ i (Nat.ne_of_gt (hknown.trans hi)) (Nat.ne_of_gt hi)
        refine Holds.frame _ hsecond fun i hi => ?_
        have hlt := Holds.lt_size _ hsecond hi
        rw [VNode.ids_mounted, List.mem_range'_1] at hi
        exact hcells₃ i hlt (Nat.ne_of_gt (lt_of_lt_of_le hknown hi.1))

end

/-! ### Reachable documents -/

/-- Attributes are given by edits. -/
theorem Reachable.setAttributes {id : NodeId} {entries : List (String × String)}
    (hd : d.Reachable) (h : d.setAttributes id entries = .ok d') : d'.Reachable := by
  induction entries generalizing d with
  | nil =>
      rw [Document.setAttributes] at h
      cases h
      exact hd
  | cons e rest ih =>
      obtain ⟨name, value⟩ := e
      rw [Document.setAttributes] at h
      cases hset : d.setAttribute id name value with
      | error reason => rw [hset] at h; cases h
      | ok d₁ =>
          rw [hset] at h
          exact ih (hd.setAttribute hset) h

mutual

/-- A document with a mounted node can be reached. -/
theorem Reachable.mount {d d' : Document} {id : NodeId} (hd : d.Reachable) (n : VNode)
    (h : d.mount n = .ok (d', id)) : d'.Reachable := by
  cases n with
  | text s =>
      rw [Document.mount] at h
      cases h
      exact hd.createText s
  | element tag attributes children =>
      rw [Document.mount] at h
      cases hset : (d.createElement tag).1.setAttributes (d.createElement tag).2
          attributes.toList with
      | error reason => simp only [hset] at h; cases h
      | ok d₁ =>
          cases hmount : d₁.mountChildren (d.createElement tag).2 children with
          | error reason => simp only [hset, hmount, bind, Except.bind] at h; cases h
          | ok d₂ =>
              simp only [hset, hmount, bind, Except.bind] at h
              cases h
              exact Reachable.mountChildren ((hd.createElement tag).setAttributes hset) children
                hmount

/-- A document with mounted children can be reached. -/
theorem Reachable.mountChildren {d d' : Document} {parent : NodeId} (hd : d.Reachable)
    (ns : List VNode) (h : d.mountChildren parent ns = .ok d') : d'.Reachable := by
  cases ns with
  | nil =>
      rw [Document.mountChildren] at h
      cases h
      exact hd
  | cons n ns =>
      rw [Document.mountChildren] at h
      cases hmount : d.mount n with
      | error reason => simp only [hmount] at h; cases h
      | ok mounted =>
          obtain ⟨d₁, id⟩ := mounted
          cases happend : d₁.appendChild parent id with
          | error reason => simp only [hmount, happend, bind, Except.bind] at h; cases h
          | ok d₂ =>
              simp only [hmount, happend, bind, Except.bind] at h
              exact Reachable.mountChildren ((hd.mount n hmount).appendChild happend) ns h

end

/-- A node that was known is not below a new one. -/
theorem Extends.above_lt_size {count edits : Nat} (h : d.Extends d' count edits) (hd : d.Sound)
    {a x : NodeId} (ha : d'.Above a x) (hx : x < d.cells.size) : a < d.cells.size := by
  induction ha with
  | refl => exact hx
  | @tail b c _ hp ih =>
      have hparent : d.parent? b = some c := by rwa [parent?, h.cell b ih, ← parent?] at hp
      exact hd.parent_lt_size hparent

/-- **A mounted node can be put below every known node that may have children.** -/
theorem mount_insertable (hd : d.Reachable) {parent : NodeId} {c : Cell}
    (hparent : d.cell? parent = some c) (hcontainer : c.payload.isContainer = true) (n : VNode) :
    ∃ d', d.mount n = .ok (d', d.cells.size) ∧ d.Extends d' n.count n.edits ∧
      d'.Holds none (n.mounted d.cells.size) ∧ d'.Reachable ∧
      d'.checkInsert parent d.cells.size = .ok () := by
  obtain ⟨d', hmount, hextends, hheld⟩ := mount_spec d n
  have hreachable := hd.mount n hmount
  have hknown := lt_size_of_cell? hparent
  have hparent' : d'.cell? parent = some c := (hextends.cell parent hknown).trans hparent
  refine ⟨d', hmount, hextends, hheld, hreachable, checkInsert_eq_ok_iff.mpr
    ⟨⟨c, hparent', hcontainer⟩, ⟨_, by simpa using hheld.cell, rfl⟩, ?_⟩⟩
  rw [hreachable.sound.mem_ancestors_iff (lt_size_of_cell? hparent')]
  intro habove
  exact Nat.lt_irrefl _ (hextends.above_lt_size hd.sound habove hknown)

end Document

end TwinRender
