import TwinRender.Document
import TwinRender.Text.Space

/-!
# Traversing documents

The nodes below a node are visited one after the other. A traversal keeps the nodes that are still
to come on a stack; a node that is visited is taken from the stack, and its children are put on it
in reverse, so that they come before everything else. What is asked for by tag, and the text of a
node, are read off the nodes that a traversal visits.

## Main definitions

* `Traversal`, `Traversal.start`, `Traversal.next?` — a traversal, step by step;
* `Document.traverse` — the nodes that a traversal visits;
* `Document.firstElementByTag?`, `Document.elementsByTag`, `Document.textContent` — what is read off
  them.
-/

namespace TwinRender

/-- A traversal that has come to some place. -/
structure Traversal where
  /-- The nodes that are still to come, the next one last. -/
  stack : Array NodeId
  deriving DecidableEq, Repr, Inhabited

namespace Traversal

/-- The traversal of what is below a node. -/
def start (d : Document) (id : NodeId) : Traversal := ⟨(d.children id).reverse.toArray⟩

/-- The next node, and the traversal behind it; none at the end. -/
def next? (d : Document) (t : Traversal) : Option (NodeId × Traversal) :=
  t.stack.back?.map fun id => (id, ⟨t.stack.pop ++ (d.children id).reverse.toArray⟩)

/-- The next nodes of a traversal, at most so many. -/
def collect (d : Document) : Nat → Traversal → List NodeId
  | 0, _ => []
  | n + 1, t =>
    match t.next? d with
    | none => []
    | some (id, rest) => id :: collect d n rest

end Traversal

/-- The text of a text node. -/
def Payload.text? : Payload → Option String
  | .text s => some s
  | _ => none

namespace Document

/-- The nodes below a node, as a traversal visits them. No traversal visits more nodes than there
are in the store. -/
def traverse (d : Document) (id : NodeId) : List NodeId :=
  (Traversal.start d id).collect d d.cells.size

/-- Whether a node is an element with a tag, in any case of letters. -/
def hasTag (d : Document) (tag : String) (id : NodeId) : Bool :=
  (d.tag? id).any fun t => Text.sameIgnoringCase t tag

/-- The text of a node that is a text. -/
def text? (d : Document) (id : NodeId) : Option String := (d.payload? id).bind Payload.text?

/-- The first element below a node with a tag. -/
def firstElementByTag? (d : Document) (id : NodeId) (tag : String) : Option NodeId :=
  (d.traverse id).find? (d.hasTag tag)

/-- The elements below a node with a tag, in the order of the document. -/
def elementsByTag (d : Document) (id : NodeId) (tag : String) : List NodeId :=
  (d.traverse id).filter (d.hasTag tag)

/-- The text of a node that is a text, and of any other one the texts below it. -/
def textContent (d : Document) (id : NodeId) : String :=
  match d.text? id with
  | some s => s
  | none => String.join ((d.traverse id).filterMap d.text?)

end Document

end TwinRender
