import TwinRender.Document
import TwinRender.Markup.Writer
import TwinRender.Text.Quoted

/-!
# The tree below a node

A snapshot is the tree below a node as it is at one time: the numbers of the nodes and what they
hold. What is said about a part of a document as a whole — its markup, its outline, the order of
its nodes — is said of its snapshot. A snapshot kept for later tells whether the node is still there
and still the same.

## Main definitions

* `Snapshot` — trees of numbered nodes;
* `Document.tree`, `Document.snapshot?` — the tree below a node;
* `Snapshot.write`, `Snapshot.outline` — trees as text;
* `Document.markup`, `Document.innerMarkup`, `Document.descendants` — what is read off a tree.
-/

namespace TwinRender

/-- A node, what it holds, and the nodes below it. -/
inductive Snapshot where
  /-- A node with its number, payload and children. -/
  | node (id : NodeId) (payload : Payload) (children : List Snapshot)
  deriving Repr, Inhabited

namespace Snapshot

/-- The number of the node. -/
def id : Snapshot → NodeId
  | node id _ _ => id

/-- What the node holds. -/
def payload : Snapshot → Payload
  | node _ payload _ => payload

/-- The nodes directly below. -/
def children : Snapshot → List Snapshot
  | node _ _ children => children

/-- The value that an attribute had; the case of its name does not matter. -/
def attribute? (s : Snapshot) (name : String) : Option String :=
  s.payload.attributes?.bind fun attributes => attributes.get? name.toLower

/-- Whether the node is an element with a tag, in any case of letters. -/
def hasTag (s : Snapshot) (tag : String) : Bool :=
  s.payload.tag?.any fun t => Text.sameIgnoringCase t tag

mutual

/-- The node and all nodes below it, in the order of the document. -/
def nodes : Snapshot → List Snapshot
  | node id payload children => node id payload children :: listNodes children

/-- Several trees one behind the other, in the order of the document. -/
def listNodes : List Snapshot → List Snapshot
  | [] => []
  | s :: rest => s.nodes ++ listNodes rest

end

/-- The nodes below, in the order of the document. -/
def descendants (s : Snapshot) : List Snapshot := listNodes s.children

/-- The first element below with a tag. -/
def find? (s : Snapshot) (tag : String) : Option Snapshot :=
  s.descendants.find? fun t => t.hasTag tag

mutual

/-- The markup of a tree. Only the texts directly in an element with raw text are raw. -/
def write (raw : Bool) : Snapshot → String
  | node _ payload children =>
    match payload with
    | .element tag attributes =>
      Markup.elementText tag attributes.toList (children.head?.bind fun c => c.payload.data?)
        (writeList (Html.isRawText tag) children)
    | .text text => Markup.characterData raw text
    | .comment text => Markup.commentText text
    | .document => writeList false children

/-- The markup of several trees. -/
def writeList (raw : Bool) : List Snapshot → String
  | [] => ""
  | s :: rest => s.write raw ++ writeList raw rest

end

/-- A node as an outline shows it. -/
def line (payload : Payload) : String :=
  match payload with
  | .document => "#document"
  | .element tag attributes =>
    "<" ++ tag ++ String.join (attributes.toList.map fun a => " " ++ a.1 ++ "=" ++ Text.quoted a.2) ++
      ">"
  | .text s | .comment s => Text.quoted s

mutual

/-- The lines of an outline, each with two more spaces than the one above it. -/
def lines (margin : String) : Snapshot → List String
  | node _ payload children => (margin ++ line payload) :: listLines (margin ++ "  ") children

/-- The lines of several outlines. -/
def listLines (margin : String) : List Snapshot → List String
  | [] => []
  | s :: rest => s.lines margin ++ listLines margin rest

end

/-- The outline of a tree. -/
def outline (s : Snapshot) : String := "\n".intercalate (s.lines "")

/-- Whether two nodes hold the same: the same tag, attributes in any order, the same data. -/
def samePayload (p q : Payload) : Bool :=
  p.tag? == q.tag? && p.data? == q.data? &&
    (p.attributes?.getD .empty).sameValues (q.attributes?.getD .empty)

mutual

/-- Whether two trees are the same: the same numbers and the same values. -/
def same : Snapshot → Snapshot → Bool
  | node id payload children, node id' payload' children' =>
    id == id' && samePayload payload payload' && sameList children children'

/-- Whether two lists of trees are the same. -/
def sameList : List Snapshot → List Snapshot → Bool
  | [], [] => true
  | s :: rest, t :: rest' => s.same t && sameList rest rest'
  | _, _ => false

end

end Snapshot

namespace Document

/-- The tree below a node, down to a depth. -/
def treeTo (d : Document) : Nat → NodeId → Snapshot
  | 0, id => .node id ((d.payload? id).getD .document) []
  | depth + 1, id =>
    .node id ((d.payload? id).getD .document) ((d.children id).map fun c => d.treeTo depth c)

/-- The tree below a node. A tree is no deeper than the store is large. -/
def tree (d : Document) (id : NodeId) : Snapshot := d.treeTo d.cells.size id

/-- The snapshot of a node that is known. -/
def snapshot? (d : Document) (id : NodeId) : Except DomError Snapshot :=
  match d.cell? id with
  | none => .error (.unknownNode id)
  | some _ => .ok (d.tree id)

/-- Whether a node is the one of a snapshot, and is in the tree. -/
def isNodeOf (d : Document) (s : Snapshot) (id : NodeId) : Bool := s.id == id && d.isAttached id

/-- Whether the node of a snapshot is in the tree, with the same values below it. -/
def stillMatches (d : Document) (s : Snapshot) : Bool :=
  (d.cell? s.id).isSome && (d.tree s.id).same s && d.isAttached s.id

/-- The markup of a node. -/
def markup (d : Document) (id : NodeId) : String := (d.tree id).write false

/-- The markup of the nodes below a node. -/
def innerMarkup (d : Document) (id : NodeId) : String :=
  Snapshot.writeList ((d.tag? id).any Html.isRawText) (d.tree id).children

/-- The nodes below a node, in the order of the document. -/
def descendants (d : Document) (id : NodeId) : List NodeId :=
  (d.tree id).descendants.map Snapshot.id

end Document

end TwinRender
