import TwinRender.OrderedMap

/-!
# Documents

A document keeps its nodes in one store and names them by number. A node that is taken out of the
tree stays in the store, and its number is never given again, so a number that was kept can be
told from the node that took its place. Every edit checks all its conditions before it changes
anything, and is counted.

## Main definitions

* `Payload`, `Cell`, `Document` — nodes and documents;
* `DomError` — the reasons why an edit is refused;
* `Document.createElement`, `Document.createText`, `Document.createComment` — new nodes;
* `Document.appendChild`, `Document.insertBefore`, `Document.removeChild`,
  `Document.replaceChild`, `Document.setAttribute`, `Document.removeAttribute`,
  `Document.setText` — the edits;
* `Document.ancestors`, `Document.isAttached` — the way up from a node.
-/

namespace TwinRender

/-- The number of a node. -/
abbrev NodeId := Nat

/-- What a node is. -/
inductive Payload where
  /-- The node at the top. -/
  | document
  /-- An element with its tag and attributes, whose names are in lower case. -/
  | element (tag : String) (attributes : OrderedMap String)
  /-- A text. -/
  | text (text : String)
  /-- A comment. -/
  | comment (text : String)
  deriving DecidableEq, Repr

namespace Payload

instance : Inhabited Payload := ⟨.document⟩

/-- The tag of an element. -/
def tag? : Payload → Option String
  | .element tag _ => some tag
  | _ => none

/-- The attributes of an element. -/
def attributes? : Payload → Option (OrderedMap String)
  | .element _ attributes => some attributes
  | _ => none

/-- The character data of a text or a comment. -/
def data? : Payload → Option String
  | .text s | .comment s => some s
  | _ => none

/-- Whether a node may have children. -/
def isContainer : Payload → Bool
  | .document | .element _ _ => true
  | _ => false

/-- Whether a node is an element. -/
def isElement : Payload → Bool
  | .element _ _ => true
  | _ => false

/-- Whether a node is a text. -/
def isText : Payload → Bool
  | .text _ => true
  | _ => false

/-- Whether a node is a comment. -/
def isComment : Payload → Bool
  | .comment _ => true
  | _ => false

end Payload

/-- A node with its neighbours. -/
structure Cell where
  /-- What the node is. -/
  payload : Payload
  /-- The node above it. -/
  parent : Option NodeId
  /-- The nodes below it in order. -/
  children : List NodeId
  deriving DecidableEq, Repr, Inhabited

/-- The reasons why an edit is refused. -/
inductive DomError where
  /-- There is no such node. -/
  | unknownNode (id : NodeId)
  /-- The node may not have children. -/
  | notAContainer (id : NodeId)
  /-- The node has no attributes. -/
  | notAnElement (id : NodeId)
  /-- The node has no character data. -/
  | notCharacterData (id : NodeId)
  /-- The node stands somewhere already. -/
  | alreadyAttached (id : NodeId)
  /-- The node does not stand there. -/
  | notAChild (parent child : NodeId)
  /-- The node would stand below itself. -/
  | cycle (parent child : NodeId)
  deriving DecidableEq, Repr, Inhabited

/-- A node as messages name it. -/
def nodeName (id : NodeId) : String := "#" ++ toString id

/-- Why an edit is refused, in words. -/
def DomError.message : DomError → String
  | .unknownNode id => "unknown node " ++ nodeName id
  | .notAContainer id => "node " ++ nodeName id ++ " cannot have children"
  | .notAnElement id => "node " ++ nodeName id ++ " is not an element"
  | .notCharacterData id => "node " ++ nodeName id ++ " has no character data"
  | .alreadyAttached id => "node " ++ nodeName id ++ " is already attached"
  | .notAChild parent child => "node " ++ nodeName child ++ " is not a child of " ++ nodeName parent
  | .cycle parent child =>
    "inserting " ++ nodeName child ++ " under " ++ nodeName parent ++ " would create a cycle"

/-- A store of nodes, and the number of edits so far. The node at the top is the first one. -/
structure Document where
  /-- The nodes by number. -/
  cells : Array Cell
  /-- The number of edits. New nodes do not count. -/
  mutations : Nat
  deriving DecidableEq, Repr

namespace Document

/-- The document without nodes below its top. -/
def empty : Document := ⟨#[⟨.document, none, []⟩], 0⟩

instance : Inhabited Document := ⟨empty⟩

/-- The node at the top. -/
def root : NodeId := 0

/-! ### Looking up -/

/-- A node with its neighbours. -/
def cell? (d : Document) (id : NodeId) : Option Cell := d.cells[id]?

/-- What a node is. -/
def payload? (d : Document) (id : NodeId) : Option Payload := (d.cell? id).map Cell.payload

/-- The node above a node. -/
def parent? (d : Document) (id : NodeId) : Option NodeId := (d.cell? id).bind Cell.parent

/-- The nodes below a node, in order. -/
def children (d : Document) (id : NodeId) : List NodeId := ((d.cell? id).map Cell.children).getD []

/-- The tag of an element. -/
def tag? (d : Document) (id : NodeId) : Option String := (d.payload? id).bind Payload.tag?

/-- The attributes of an element. -/
def attributes? (d : Document) (id : NodeId) : Option (OrderedMap String) :=
  (d.payload? id).bind Payload.attributes?

/-- The value of an attribute; the case of its name does not matter. -/
def attribute? (d : Document) (id : NodeId) (name : String) : Option String :=
  (d.attributes? id).bind fun attributes => attributes.get? name.toLower

/-- The character data of a text or a comment. -/
def data? (d : Document) (id : NodeId) : Option String := (d.payload? id).bind Payload.data?

/-- A node and the nodes above it, given how many there can be at most. -/
def climb (d : Document) : Nat → NodeId → List NodeId
  | 0, id => [id]
  | n + 1, id =>
    match d.parent? id with
    | none => [id]
    | some parent => id :: climb d n parent

/-- A node and the nodes above it. No chain of parents is longer than the store. -/
def ancestors (d : Document) (id : NodeId) : List NodeId := d.climb d.cells.size id

/-- Whether a node is at the top or below it. -/
def isAttached (d : Document) (id : NodeId) : Bool := (d.ancestors id).contains root

/-! ### New nodes -/

/-- A new node that stands nowhere, and its number. -/
def create (d : Document) (payload : Payload) : Document × NodeId :=
  ({ d with cells := d.cells.push ⟨payload, none, []⟩ }, d.cells.size)

/-- A new element. -/
def createElement (d : Document) (tag : String) : Document × NodeId :=
  d.create (.element tag.toLower .empty)

/-- A new text. -/
def createText (d : Document) (text : String) : Document × NodeId := d.create (.text text)

/-- A new comment. -/
def createComment (d : Document) (text : String) : Document × NodeId := d.create (.comment text)

/-! ### Edits -/

/-- The document with one node changed. -/
def modify (d : Document) (id : NodeId) (change : Cell → Cell) : Document :=
  { d with cells := d.cells.modify id change }

/-- The document with another payload in one node. -/
def withPayload (d : Document) (id : NodeId) (payload : Payload) : Document :=
  d.modify id fun c => { c with payload := payload }

/-- The document with other nodes below one node. -/
def withChildren (d : Document) (id : NodeId) (children : List NodeId) : Document :=
  d.modify id fun c => { c with children := children }

/-- The document with another node above one node. -/
def withParent (d : Document) (id : NodeId) (parent : Option NodeId) : Document :=
  d.modify id fun c => { c with parent := parent }

/-- The document with one more edit counted. -/
def counted (d : Document) : Document := { d with mutations := d.mutations + 1 }

/-- Gives an attribute of an element a value. -/
def setAttribute (d : Document) (id : NodeId) (name value : String) : Except DomError Document :=
  match d.payload? id with
  | none => .error (.unknownNode id)
  | some (.element tag attributes) =>
    .ok (d.withPayload id (.element tag (attributes.insert name.toLower value))).counted
  | some _ => .error (.notAnElement id)

/-- Takes an attribute from an element, and gives the value that it had. Only the removal of an
attribute that was there is counted. -/
def removeAttribute (d : Document) (id : NodeId) (name : String) :
    Except DomError (Document × Option String) :=
  match d.payload? id with
  | none => .error (.unknownNode id)
  | some (.element tag attributes) =>
    match attributes.get? name.toLower with
    | none => .ok (d, none)
    | some value =>
      .ok ((d.withPayload id (.element tag (attributes.erase name.toLower))).counted, some value)
  | some _ => .error (.notAnElement id)

/-- Gives a text or a comment other character data. -/
def setText (d : Document) (id : NodeId) (text : String) : Except DomError Document :=
  match d.payload? id with
  | none => .error (.unknownNode id)
  | some (.text _) => .ok (d.withPayload id (.text text)).counted
  | some (.comment _) => .ok (d.withPayload id (.comment text)).counted
  | some _ => .error (.notCharacterData id)

/-- Whether a node can be put below another: both are known, the upper one may have children, and
the lower one stands nowhere and not above the upper one. -/
def checkInsert (d : Document) (parent child : NodeId) : Except DomError Unit :=
  match d.cell? parent with
  | none => .error (.unknownNode parent)
  | some p =>
    if !p.payload.isContainer then .error (.notAContainer parent)
    else
      match d.cell? child with
      | none => .error (.unknownNode child)
      | some c =>
        if c.parent.isSome then .error (.alreadyAttached child)
        else if (d.ancestors parent).contains child then .error (.cycle parent child)
        else .ok ()

/-- Whether a node stands directly below another. -/
def checkChild (d : Document) (parent child : NodeId) : Except DomError Unit :=
  match d.cell? parent with
  | none => .error (.unknownNode parent)
  | some p => if p.children.contains child then .ok () else .error (.notAChild parent child)

/-- A list with a member put before the first occurrence of another. -/
def putBefore (new reference : NodeId) : List NodeId → List NodeId
  | [] => []
  | c :: cs => if c = reference then new :: c :: cs else c :: putBefore new reference cs

/-- Puts a node behind the children of another. -/
def appendChild (d : Document) (parent child : NodeId) : Except DomError Document := do
  d.checkInsert parent child
  return ((d.withChildren parent (d.children parent ++ [child])).withParent child
    (some parent)).counted

/-- Puts a node before a child of another. -/
def insertBefore (d : Document) (parent child reference : NodeId) : Except DomError Document := do
  d.checkInsert parent child
  d.checkChild parent reference
  return ((d.withChildren parent (putBefore child reference (d.children parent))).withParent child
    (some parent)).counted

/-- Takes a child from a node. -/
def removeChild (d : Document) (parent child : NodeId) : Except DomError Document := do
  d.checkChild parent child
  return ((d.withChildren parent ((d.children parent).erase child)).withParent child none).counted

/-- Puts a node in the place of a child of another. -/
def replaceChild (d : Document) (parent new old : NodeId) : Except DomError Document := do
  d.checkInsert parent new
  d.checkChild parent old
  return (((d.withChildren parent ((d.children parent).replace old new)).withParent new
    (some parent)).withParent old none).counted

end Document

end TwinRender
