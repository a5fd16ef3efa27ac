import TwinRender.Proofs.Document.Traversal
import TwinRender.Proofs.Document.Written

/-!
# Mounting into documents that can be reached

A node whose names are in lower case is mounted as it is: the document gets its tree, under the next
numbers, and keeps everything that it had. Nothing that was done to the document before can make
mounting fail, for the new nodes stand nowhere until they are put below each other.

## Main definitions

* `Document.Mounts`: what is found in a document into which a node was mounted.

## Main results

* `Document.Reachable.exists_mounts`: **mounting builds exactly the tree of the node**.
-/

namespace TwinRender.Document

variable {d d' : Document}

/-- A node was mounted into a document, with this number. -/
structure Mounts (d : Document) (n : VNode) (d' : Document) (id : NodeId) : Prop where
  /-- The mounted node is new. -/
  fresh : id = d.cells.size
  /-- It has no parent. -/
  parent : d'.parent? id = none
  /-- It is not in the tree. -/
  detached : d'.isAttached id = false
  /-- What is captured below it is the tree of the node, with its tags, attributes, texts and
  children in order. -/
  tree : ∃ t, d'.Captures id t ∧ t.unnumbered = n.toSnapshot
  /-- The nodes of the tree have the next numbers, in the order of the document. -/
  numbers : d'.PreOrder id (List.range' d.cells.size n.count)
  /-- There are no other new nodes, and the known ones are as they were. -/
  kept : d.Extends d' n.count n.edits
  /-- The mounted node has the markup of the node. -/
  markup : d'.markup id = n.markup

/-- **Mounting builds exactly the tree of the node.** In every document that can be reached, a node
whose names are in lower case is mounted: its tree is found under the next numbers, standing nowhere,
and all that was known is as it was. -/
theorem Reachable.exists_mounts (hd : d.Reachable) {n : VNode} (hn : n.IsLowercase) :
    ∃ d' id, d.mount n = .ok (d', id) ∧ d'.Reachable ∧ d.Mounts n d' id := by
  obtain ⟨d', hmount, hextends, hheld⟩ := mount_spec d n
  have hreachable := hd.mount n hmount
  have hsound := hreachable.sound
  have hid := VNode.id_mounted d.cells.size n
  have hparent : d'.parent? d.cells.size = none := by
    have hcell := hheld.cell
    rw [hid] at hcell
    exact parent?_of_cell? hcell
  have htree := VNode.unnumbered_mounted d.cells.size n hn
  refine ⟨d', d.cells.size, hmount, hreachable, rfl, hparent, ?_, ?_, ?_, hextends, ?_⟩
  · -- a node without a parent is attached only if it is the root, which was known
    rw [Bool.eq_false_iff]
    intro hattached
    rcases ((hsound.isAttached_iff _).mp hattached).eq_or_parent with heq | ⟨p, hp, -⟩
    · exact Nat.ne_of_gt (lt_size_of_payload? hd.payload?_root) heq
    · rw [hparent] at hp
      cases hp
  · have hcaptures := Holds.captures _ hheld
    rw [hid] at hcaptures
    exact ⟨_, hcaptures, htree⟩
  · have horder := Holds.preOrder _ hheld
    rwa [hid, VNode.ids_mounted] at horder
  · have hheldTree := hsound.tree_eq hheld
    rw [hid] at hheldTree
    rw [Document.markup, hheldTree, ← Snapshot.write_unnumbered, htree,
      VNode.write_toSnapshot false n hn, VNode.markup]

/-- An item with two attributes, an empty text, and an element. -/
def itemNode : VNode :=
  .element "li" (.ofList [("title", "\"a\""), ("hidden", "")])
    [.text "", .element "br" .empty [], .text "b"]

/-- The names in the item are in lower case. -/
theorem isLowercase_itemNode : itemNode.IsLowercase := by
  have hli : VNode.HasLowercaseNames "li" (.ofList [("title", "\"a\""), ("hidden", "")]) :=
    ⟨by decide +kernel, by decide +kernel⟩
  have hbr : VNode.HasLowercaseNames "br" .empty := ⟨by decide +kernel, by decide +kernel⟩
  exact ⟨hli, trivial, ⟨hbr, trivial⟩, trivial, trivial⟩

/-- The item is mounted beside a list, with four numbers from six on. -/
theorem exists_mounts_item :
    (empty.performAll listOperations).1.Reachable ∧ itemNode.IsLowercase ∧
      ∃ d' id, (empty.performAll listOperations).1.mount itemNode = .ok (d', id) ∧
        d'.Reachable ∧ (empty.performAll listOperations).1.Mounts itemNode d' id ∧
        d'.PreOrder id [6, 7, 8, 9] := by
  have hd : (empty.performAll listOperations).1.Reachable :=
    Reachable.performAll .empty listOperations
  obtain ⟨d', id, hmount, hreachable, hmounts⟩ := hd.exists_mounts isLowercase_itemNode
  have hnumbers : List.range' (empty.performAll listOperations).1.cells.size itemNode.count =
      [6, 7, 8, 9] := by decide +kernel
  exact ⟨hd, isLowercase_itemNode, d', id, hmount, hreachable, hmounts,
    hnumbers ▸ hmounts.numbers⟩

end TwinRender.Document
