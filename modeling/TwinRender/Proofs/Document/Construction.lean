import TwinRender.Document.Construction
import TwinRender.Proofs.Document.Traversal
import TwinRender.Proofs.Document.Written

/-!
# What the loop builds

The loop that builds documents keeps nodes on a stack, and the order in which it takes them is the
one in which a recursion over the parsed nodes comes to them. So every step leaves the document that
is built in the end as it is, and this document is the one of the recursion: its nodes are numbered
in the order of the document, and its tree is that of the parsed nodes, without the ones that a
document does not have.

## Main definitions

* `Markup.Node.trees`, `Markup.Node.treesList`: the trees that parsed nodes stand for.
* `Construction.added`: the document in which everything is added that is to come.
* `Document.MadeOf`: what a reader can rely on who gets a document made of trees.

## Main results

* `Markup.Node.unnumberedList_numberedList`: parsed nodes become the trees that they stand for.
* `Construction.added_eq_of_next?`: a step keeps the document that is built in the end.
* `Construction.run_eq_added`: the loop builds it.
* `Document.construct_eq`: the loop and the recursion build the same document.
* `Document.unnumbered_tree_ofForest`: its tree is that of what the parsed nodes stand for.
* `Document.descendants_ofForest`: the nodes below its root are all other nodes, by number.
* `Document.read_madeOf`: **documents are numbered in their order, and made of what was parsed**.
-/

namespace TwinRender

/-! ### The trees of parsed nodes -/

namespace Markup.Node

mutual

/-- The trees that a parsed node stands for, without numbers and with names in lower case.
Declarations and instructions stand for nothing. What is in a template either stands below it, or is
left out. -/
def trees (contents : Bool) : Node → List Snapshot
  | element tag attributes children =>
    [.node 0 (.element tag.toLower attributes.lowerKeys) (treesList contents children)]
  | text s => [.node 0 (.text s) []]
  | comment s => [.node 0 (.comment s) []]
  | doctype _ | instruction _ _ => []
  | fragment children => if contents then treesList contents children else []

/-- The trees that some parsed nodes stand for. -/
def treesList (contents : Bool) : List Node → List Snapshot
  | [] => []
  | n :: ns => n.trees contents ++ treesList contents ns

end

mutual

/-- The numbered trees of a parsed node are the ones that it stands for. -/
theorem unnumberedList_numbered (next : NodeId) (n : Node) :
    Snapshot.unnumberedList (n.numbered next) = n.trees false := by
  cases n with
  | element tag attributes children =>
      rw [numbered, trees, Snapshot.unnumberedList, Snapshot.unnumbered,
        unnumberedList_numberedList]
      rfl
  | text s | comment s => rfl
  | doctype _ | instruction _ _ | fragment _ => rfl

/-- **The numbered trees of parsed nodes are the ones that they stand for.** -/
theorem unnumberedList_numberedList (next : NodeId) (ns : List Node) :
    Snapshot.unnumberedList (numberedList next ns) = treesList false ns := by
  cases ns with
  | nil => rfl
  | cons n ns =>
      rw [numberedList, treesList, ← unnumberedList_numbered next n,
        ← unnumberedList_numberedList (next + n.count) ns]
      simp only [Snapshot.unnumberedList_eq_map, List.map_append]

end

end Markup.Node

/-! ### The loop -/

namespace Document

/-- A node that no document has is added by doing nothing. -/
theorem addNode_of_payload?_eq_none {n : Markup.Node} (h : n.payload? = none) (d : Document)
    (parent : NodeId) : d.addNode parent n = d := by
  cases n with
  | element _ _ _ | text _ | comment _ => cases h
  | doctype _ | instruction _ _ | fragment _ => rfl

/-- Any other node is added before the nodes below it. -/
theorem addNode_of_payload?_eq_some {n : Markup.Node} {payload : Payload}
    (h : n.payload? = some payload) (d : Document) (parent : NodeId) :
    d.addNode parent n = (d.grow parent payload).1.addNodes d.cells.size n.children := by
  cases n with
  | element _ _ _ | text _ | comment _ =>
      cases h
      rfl
  | doctype _ | instruction _ _ | fragment _ => cases h

end Document

namespace Construction

variable {c c' : Construction}

/-- Adds a node where it belongs. -/
def addPending (d : Document) (p : Markup.Node × NodeId) : Document := d.addNode p.2 p.1

/-- The document in which everything is added that is to come. -/
def added (c : Construction) : Document := c.toCome.foldl addPending c.document

/-- Nodes that belong below the same node are added behind its children. -/
theorem foldl_addPending (d : Document) (parent : NodeId) (ns : List Markup.Node) :
    (ns.map fun n => (n, parent)).foldl addPending d = d.addNodes parent ns := by
  induction ns generalizing d with
  | nil => rfl
  | cons n ns ih => rw [List.map_cons, List.foldl_cons, ih, addPending, Document.addNodes]

/-- **A step keeps the document that is built in the end.** What it puts on the stack comes before
all that was there, as in the recursion what is below a node comes before what is behind it. -/
theorem added_eq_of_next? (h : c.next? = some c') : c'.added = c.added := by
  obtain ⟨node, parent, rest, hcome, hstep⟩ := next?_cases h
  have hadded : c.added = rest.foldl addPending (c.document.addNode parent node) := by
    rw [added, hcome, List.foldl_cons, addPending]
  rcases hstep with ⟨hnone, hdocument, hrest⟩ | ⟨payload, hsome, hdocument, hrest⟩
  · rw [hadded, added, hrest, hdocument, Document.addNode_of_payload?_eq_none hnone]
  · rw [hadded, added, hrest, hdocument, List.foldl_append, foldl_addPending,
      Document.addNode_of_payload?_eq_some hsome]

/-- At the end the document is the one that is built. -/
theorem added_of_next?_eq_none (h : c.next? = none) : c.added = c.document := by
  rw [added, toCome_of_next?_eq_none h, List.foldl_nil]

/-- **The loop adds everything that is to come.** -/
theorem run_eq_added (c : Construction) : c.run = c.added := by
  fun_induction run c with
  | case1 c h => exact (added_of_next?_eq_none h).symm
  | case2 c c' h _ ih => rw [ih, added_eq_of_next? h]

end Construction

namespace Document

open Snapshot (listIds)

/-- **The loop and the recursion build the same document.** -/
theorem construct_eq (nodes : List Markup.Node) : construct nodes = ofForest nodes := by
  have hcome : ((Construction.mk empty #[]).prepend root nodes).toCome =
      nodes.map fun n => (n, root) := by
    simp [Construction.toCome, Construction.prepend]
  rw [construct, Construction.run_eq_added, Construction.added, hcome,
    Construction.foldl_addPending]
  rfl

/-- The document that is read is the parsed one. -/
theorem read_eq_parse (markup : String) : read markup = parse markup :=
  construct_eq (Markup.parse markup)

/-! ### What a reader can rely on -/

/-- What a reader can rely on who gets a document made of trees. -/
structure MadeOf (d : Document) (ts : List Snapshot) : Prop where
  /-- No edit is counted. -/
  mutations : d.mutations = 0
  /-- Every node is attached. -/
  attached : ∀ id < d.cells.size, d.isAttached id = true
  /-- From the root all other nodes are visited by number. -/
  numbered : d.traverse root = List.range' 1 (d.cells.size - 1)
  /-- This is the order of the document. -/
  ordered : d.PreOrder root (root :: d.traverse root)
  /-- Parents and children agree. -/
  linked : ∀ c p, d.parent? c = some p ↔ c ∈ d.children p
  /-- Texts and comments have no children. -/
  leaf : ∀ id, (d.data? id).isSome → d.children id = []
  /-- Names are in lower case. -/
  lowercase : ∀ id tag attributes, d.payload? id = some (.element tag attributes) →
    VNode.HasLowercaseNames tag attributes
  /-- The trees stand below the root, and nothing else does. -/
  tree : (d.tree root).unnumbered = .node 0 .document ts

/-- Without its numbers the tree of the document of parsed nodes is that of what they stand for. -/
theorem unnumbered_tree_ofForest (nodes : List Markup.Node) :
    ((ofForest nodes).tree root).unnumbered =
      .node 0 .document (Markup.Node.treesList false nodes) := by
  rw [tree_ofForest, Snapshot.unnumbered, Markup.Node.unnumberedList_numberedList]

/-- The descendants of the root of this document are all other nodes, by number. -/
theorem descendants_ofForest (nodes : List Markup.Node) :
    (ofForest nodes).descendants root = List.range' 1 ((ofForest nodes).cells.size - 1) := by
  have hids : (ofForest nodes).descendants root = listIds (Markup.Node.numberedList 1 nodes) := by
    rw [descendants, tree_ofForest]
    rfl
  have hsize : (ofForest nodes).cells.size = 1 + Markup.Node.listCount nodes := by
    rw [(gains_ofForest nodes).size, Markup.Node.listIds_numberedList, List.length_range']
    rfl
  rw [hids, Markup.Node.listIds_numberedList, hsize, Nat.add_sub_cancel_left]

/-- **The document of parsed nodes is made of what they stand for.** -/
theorem madeOf_ofForest (nodes : List Markup.Node) :
    (ofForest nodes).MadeOf (Markup.Node.treesList false nodes) := by
  have hd := Sound.ofForest nodes
  have hbelow := descendants_ofForest nodes
  exact
    { mutations := (gains_ofForest nodes).mutations
      attached := fun id hid => by
        rw [hd.isAttached_iff_descendant, hbelow, List.mem_range'_1]
        exact (Nat.eq_zero_or_pos id).imp_right fun hpos => ⟨hpos, by omega⟩
      numbered := (hd.traverse_eq root).trans hbelow
      ordered := by
        rw [hd.traverse_eq]
        exact hd.preOrder root
      linked := hd.linked
      leaf := fun id => hd.children_eq_nil_of_data?
      lowercase := hd.lowercase
      tree := unnumbered_tree_ofForest nodes }

/-- **Documents are numbered in their order, and made of what was parsed.** The loop ends, whatever
nodes a parser gives, with a document in which no edit is counted and every node is attached; the
nodes below the root are visited by number, which is the order of the document; parents and children
agree, texts and comments have no children, and names are in lower case. Its tree is that of the
parsed nodes, where declarations, instructions, and what is in templates, are left out. All this
is so for every markup. -/
theorem read_madeOf :
    (∀ nodes, (construct nodes).MadeOf (Markup.Node.treesList false nodes)) ∧
      ∀ markup, (read markup).MadeOf (Markup.Node.treesList false (Markup.parse markup)) := by
  have hconstruct (nodes : List Markup.Node) :
      (construct nodes).MadeOf (Markup.Node.treesList false nodes) := by
    rw [construct_eq]
    exact madeOf_ofForest nodes
  exact ⟨hconstruct, fun markup => hconstruct (Markup.parse markup)⟩

/-- What is in a template does not stand below it. -/
theorem not_madeOf_contents :
    ¬ ∀ markup, (read markup).MadeOf (Markup.Node.treesList true (Markup.parse markup)) := by
  intro h
  have hparse : Markup.parse "<template>x</template>" =
      [.element "template" .empty [.fragment [.text "x"]]] := by cbv
  have htree := (h "<template>x</template>").tree
  rw [read_eq_parse, parse, unnumbered_tree_ofForest, hparse] at htree
  injection htree with _ _ hbelow
  injection hbelow with htemplate
  injection htemplate with _ _ hchildren
  cases hchildren

end Document

end TwinRender
