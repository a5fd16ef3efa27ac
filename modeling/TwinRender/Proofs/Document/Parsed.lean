import TwinRender.Proofs.Document.Mounted
import TwinRender.Proofs.Markup.Parsing

/-!
# Documents of parsed trees

Parsed nodes become trees of a document, numbered in the order of the document from the end of its
store on. Declarations, instructions and fragments become nothing. Where there are none of these,
and no comments, the trees are the ones that mounting would build.

## Main definitions

* `Markup.Node.numbered`: the trees that a parsed node becomes.
* `Document.Gains`: a document with some more trees behind the children of a node.

## Main results

* `Markup.Node.listIds_numberedList`: the trees have consecutive numbers.
* `Document.gains_addNodes`: parsed nodes become trees behind the children of a node.
* `Document.holds_ofForest`: **the document of parsed nodes holds their trees**.
* `Document.ofForest_holds`: they are the ones that mounting would build.
-/

namespace TwinRender

/-! ### Numbered trees -/

namespace Markup.Node

mutual

/-- The number of nodes in a document that a parsed node becomes. -/
def count : Node → Nat
  | element _ _ children => listCount children + 1
  | text _ | comment _ => 1
  | doctype _ | instruction _ _ | fragment _ => 0

/-- The number of nodes in a document that some parsed nodes become. -/
def listCount : List Node → Nat
  | [] => 0
  | n :: ns => n.count + listCount ns

end

mutual

/-- The tree that a parsed node becomes, whose nodes are numbered from a number on, or none. -/
def numbered (next : NodeId) : Node → List Snapshot
  | element tag attributes children =>
    [.node next (.element tag.toLower attributes.lowerKeys) (numberedList (next + 1) children)]
  | text s => [.node next (.text s) []]
  | comment s => [.node next (.comment s) []]
  | doctype _ | instruction _ _ | fragment _ => []

/-- The trees that some parsed nodes become, numbered one behind the other. -/
def numberedList (next : NodeId) : List Node → List Snapshot
  | [] => []
  | n :: ns => n.numbered next ++ numberedList (next + n.count) ns

end

mutual

/-- The tree of a parsed node has consecutive numbers, in the order of the document. -/
theorem listIds_numbered (next : NodeId) (n : Node) :
    Snapshot.listIds (n.numbered next) = List.range' next n.count := by
  cases n with
  | element tag attributes children =>
      rw [numbered, Snapshot.listIds_cons, Snapshot.listIds_nil, List.append_nil,
        Snapshot.ids_node, listIds_numberedList, count, List.range'_succ]
  | text s | comment s => rfl
  | doctype _ | instruction _ _ | fragment _ => rfl

/-- **The trees of parsed nodes have consecutive numbers**, in the order of the document. -/
theorem listIds_numberedList (next : NodeId) (ns : List Node) :
    Snapshot.listIds (numberedList next ns) = List.range' next (listCount ns) := by
  cases ns with
  | nil => rfl
  | cons n ns =>
      rw [numberedList, Snapshot.listIds_append, listIds_numbered, listIds_numberedList, listCount,
        List.range'_append_1]

end

end Markup.Node

namespace VNode

mutual

/-- A node as a parser gives it becomes the tree that mounting builds. -/
theorem numbered_parsed (next : NodeId) (n : VNode) :
    n.parsed.numbered next = [n.mounted next] ∧ n.parsed.count = n.count := by
  cases n with
  | text s => exact ⟨rfl, rfl⟩
  | element tag attributes children =>
      obtain ⟨htrees, hcount⟩ := numberedList_parsedList (next + 1) children
      rw [parsed, Markup.Node.numbered, Markup.Node.count, htrees, hcount]
      exact ⟨rfl, rfl⟩

/-- Nodes as a parser gives them become the trees that mounting builds. -/
theorem numberedList_parsedList (next : NodeId) (ns : List VNode) :
    Markup.Node.numberedList next (parsedList ns) = mountedList next ns ∧
      Markup.Node.listCount (parsedList ns) = listCount ns := by
  cases ns with
  | nil => exact ⟨rfl, rfl⟩
  | cons n ns =>
      obtain ⟨htree, hcount⟩ := numbered_parsed next n
      obtain ⟨htrees, hcounts⟩ := numberedList_parsedList (next + n.count) ns
      rw [parsedList, Markup.Node.numberedList, Markup.Node.listCount, htree, hcount, htrees,
        hcounts]
      exact ⟨rfl, rfl⟩

end

end VNode

namespace Document

open Snapshot (listIds)
open VNode (mountedList parsedList)

variable {d d' d'' : Document} {parent : NodeId} {payload : Payload} {above : Option NodeId}
  {children : List NodeId} {ts us : List Snapshot}

/-! ### Grown documents -/

/-- The nodes after one is added below another. -/
theorem cell?_grow {payload' : Payload} (h : d.cell? parent = some ⟨payload', above, children⟩)
    (payload : Payload) (i : NodeId) :
    (d.grow parent payload).1.cell? i =
      if i = d.cells.size then some ⟨payload, some parent, []⟩
      else if i = parent then some ⟨payload', above, children ++ [d.cells.size]⟩
      else d.cell? i := by
  have hne : d.cells.size ≠ parent := Ne.symm (Nat.ne_of_lt (lt_size_of_cell? h))
  rw [grow, cell?_withChildren, cell?_push, children_of_cell? h]
  by_cases hi : i = parent
  · subst hi
    rw [if_pos rfl, if_neg (Ne.symm hne), if_neg (Ne.symm hne), if_pos rfl, h]
    rfl
  · rw [if_neg hi, if_neg hi]

/-- A node that is added makes the store larger. -/
theorem size_grow (d : Document) (parent : NodeId) (payload : Payload) :
    (d.grow parent payload).1.cells.size = d.cells.size + 1 := by
  rw [grow, size_withChildren]
  exact Array.size_push _

/-- A document with some more trees behind the children of a node, numbered from the end of its store
on. -/
structure Gains (d d' : Document) (parent : NodeId) (payload : Payload) (above : Option NodeId)
    (children : List NodeId) (ts : List Snapshot) : Prop where
  /-- The new nodes have the next numbers. -/
  ids : listIds ts = List.range' d.cells.size (listIds ts).length
  /-- They are the only new nodes. -/
  size : d'.cells.size = d.cells.size + (listIds ts).length
  /-- No edit is counted. -/
  mutations : d'.mutations = d.mutations
  /-- The other known nodes are as they were. -/
  cell : ∀ i < d.cells.size, i ≠ parent → d'.cell? i = d.cell? i
  /-- The trees stand behind the children. -/
  top : d'.cell? parent = some ⟨payload, above, children ++ ts.map Snapshot.id⟩
  /-- The document holds the trees. -/
  held : d'.HoldsAll (some parent) ts

namespace Gains

/-- Nothing is gained by what is left out. -/
theorem refl (h : d.cell? parent = some ⟨payload, above, children⟩) :
    d.Gains d parent payload above children [] where
  ids := rfl
  size := rfl
  mutations := rfl
  cell _ _ _ := rfl
  top := by rw [List.map_nil, List.append_nil, h]
  held := trivial

/-- A new node is gained with the trees that are gained below it. -/
theorem grown (h : d.cell? parent = some ⟨payload, above, children⟩) {new : Payload}
    (hbelow : (d.grow parent new).1.Gains d' d.cells.size new (some parent) [] ts) :
    d.Gains d' parent payload above children [.node d.cells.size new ts] := by
  have hknown := lt_size_of_cell? h
  have hcells := cell?_grow h new
  have hsize := size_grow d parent new
  have hcell (i : NodeId) (hi : i < d.cells.size) :
      d'.cell? i = (d.grow parent new).1.cell? i :=
    hbelow.cell i (hsize ▸ Nat.lt_succ_of_lt hi) (Nat.ne_of_lt hi)
  have hids : listIds [.node d.cells.size new ts] = d.cells.size :: listIds ts := by
    rw [Snapshot.listIds_cons, Snapshot.ids_node, Snapshot.listIds_nil, List.append_nil]
  have hnext := hbelow.ids
  have htotal := hbelow.size
  rw [hsize] at hnext htotal
  refine ⟨?_, ?_, hbelow.mutations, fun i hi hip => ?_, ?_, ⟨hbelow.top, hbelow.held⟩, trivial⟩
  · rw [hids, List.length_cons, List.range'_succ, ← hnext]
  · rw [hids, List.length_cons]
    omega
  · rw [hcell i hi, hcells, if_neg (Nat.ne_of_lt hi), if_neg hip]
  · rw [hcell parent hknown, hcells, if_neg (Nat.ne_of_lt hknown), if_pos rfl]
    rfl

/-- Trees that are gained one after the other stand one behind the other. -/
theorem append (hparent : parent < d.cells.size)
    (h : d.Gains d' parent payload above children ts)
    (h' : d'.Gains d'' parent payload above (children ++ ts.map Snapshot.id) us) :
    d.Gains d'' parent payload above children (ts ++ us) := by
  have hnext := h'.ids
  have hsize := h.size
  rw [hsize] at hnext
  refine ⟨?_, ?_, h'.mutations.trans h.mutations, fun i hi hip => ?_, ?_, ?_⟩
  · rw [Snapshot.listIds_append, List.length_append, ← List.range'_append_1, ← h.ids, ← hnext]
  · rw [h'.size, Snapshot.listIds_append, List.length_append]
    omega
  · exact (h'.cell i (by omega) hip).trans (h.cell i hi hip)
  · rw [h'.top, List.map_append, List.append_assoc]
  · refine holdsAll_append.mpr ⟨HoldsAll.frame ts h.held fun i hi => ?_, h'.held⟩
    -- the first trees have other numbers than the node that gains the second ones
    have hlt := HoldsAll.lt_size ts h.held hi
    rw [h.ids, List.mem_range'_1] at hi
    exact h'.cell i hlt (Nat.ne_of_gt (lt_of_lt_of_le hparent hi.1))

end Gains

mutual

/-- A parsed node becomes a tree behind the children of a node. -/
theorem gains_addNode {d : Document} {parent : NodeId} {payload : Payload}
    {above : Option NodeId} {children : List NodeId}
    (h : d.cell? parent = some ⟨payload, above, children⟩) (n : Markup.Node) :
    d.Gains (d.addNode parent n) parent payload above children (n.numbered d.cells.size) := by
  have hnew (new : Payload) :
      (d.grow parent new).1.cell? d.cells.size = some ⟨new, some parent, []⟩ := by
    rw [cell?_grow h, if_pos rfl]
  cases n with
  | element tag attributes below =>
      have hbelow := gains_addNodes (hnew (.element tag.toLower attributes.lowerKeys)) below
      rw [size_grow] at hbelow
      exact hbelow.grown h
  | text s => exact (Gains.refl (hnew (.text s))).grown h
  | comment s => exact (Gains.refl (hnew (.comment s))).grown h
  | doctype _ | instruction _ _ | fragment _ => exact Gains.refl h

/-- **Parsed nodes become trees behind the children of a node.** -/
theorem gains_addNodes {d : Document} {parent : NodeId} {payload : Payload}
    {above : Option NodeId} {children : List NodeId}
    (h : d.cell? parent = some ⟨payload, above, children⟩) (ns : List Markup.Node) :
    d.Gains (d.addNodes parent ns) parent payload above children
      (Markup.Node.numberedList d.cells.size ns) := by
  cases ns with
  | nil => exact Gains.refl h
  | cons n ns =>
      have hfirst := gains_addNode h n
      have hrest := gains_addNodes hfirst.top ns
      have hcount : (d.addNode parent n).cells.size = d.cells.size + n.count := by
        rw [hfirst.size, Markup.Node.listIds_numbered, List.length_range']
      rw [hcount] at hrest
      exact hfirst.append (lt_size_of_cell? h) hrest

end

/-! ### Documents of parsed nodes -/

/-- The document of parsed nodes has gained their trees. -/
theorem gains_ofForest (ns : List Markup.Node) :
    empty.Gains (ofForest ns) root .document none [] (Markup.Node.numberedList 1 ns) :=
  gains_addNodes rfl ns

/-- **The document of parsed nodes holds their trees**, below its root. -/
theorem holds_ofForest (ns : List Markup.Node) :
    (ofForest ns).Holds none (.node root .document (Markup.Node.numberedList 1 ns)) :=
  ⟨(gains_ofForest ns).top, (gains_ofForest ns).held⟩

/-- The document of nodes as a parser gives them holds the trees that mounting would build. -/
theorem ofForest_holds (ns : List VNode) :
    (ofForest (parsedList ns)).cell? root =
        some ⟨.document, none, (mountedList 1 ns).map Snapshot.id⟩ ∧
      (ofForest (parsedList ns)).HoldsAll (some root) (mountedList 1 ns) := by
  have hheld := holds_ofForest (parsedList ns)
  rwa [(VNode.numberedList_parsedList 1 ns).1] at hheld

end Document

end TwinRender
