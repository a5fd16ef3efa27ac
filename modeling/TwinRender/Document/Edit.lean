import TwinRender.Document

/-!
# Edits in place

A document that is edited in place is written node by node. What has been written stays when a
later part of the edit is refused: an edit leaves a document behind it in any case, and its outcome
says whether all of it was done. Each write looks its node up again, so each can be refused.

## Main definitions

* `Editing` — what is done to a document in place;
* `Editing.node`, `Editing.write`, `Editing.position` — the parts of edits;
* `Edit`, `Edit.inPlace` — the edits, with any numbers of nodes.
-/

namespace TwinRender

/-- What is done to a document in place. It leaves a document, also when it is refused. -/
abbrev Editing (α : Type) := ExceptT DomError (StateM Document) α

namespace Editing

/-- A node with its neighbours. -/
def node (id : NodeId) : Editing Cell := do
  match (← get).cell? id with
  | some c => return c
  | none => throw (.unknownNode id)

/-- Writes one node. -/
def write (id : NodeId) (change : Cell → Cell) : Editing Unit := do
  let _ ← node id
  modify fun d => d.modify id change

/-- Writes the nodes below a node. -/
def writeChildren (id : NodeId) (change : List NodeId → List NodeId) : Editing Unit :=
  write id fun c => { c with children := change c.children }

/-- Writes the node above a node. -/
def writeParent (id : NodeId) (parent : Option NodeId) : Editing Unit :=
  write id fun c => { c with parent := parent }

/-- Writes what a node is. -/
def writePayload (id : NodeId) (payload : Payload) : Editing Unit :=
  write id fun c => { c with payload := payload }

/-- Looks whether a node can be put below another. -/
def insertable (parent child : NodeId) : Editing Unit := do
  match (← get).checkInsert parent child with
  | .ok _ => return
  | .error reason => throw reason

/-- The place of a node among the children of another. -/
def position (parent child : NodeId) : Editing Nat := do
  let p ← node parent
  match p.children.idxOf? child with
  | some index => return index
  | none => throw (.notAChild parent child)

/-- Counts an edit. -/
def count : Editing Unit := modify Document.counted

end Editing

/-- An edit of a document, with any numbers of nodes. -/
inductive Edit where
  /-- An attribute gets a value. -/
  | setAttribute (id : NodeId) (name value : String)
  /-- An attribute is taken away. -/
  | removeAttribute (id : NodeId) (name : String)
  /-- A text or a comment gets other data. -/
  | setText (id : NodeId) (text : String)
  /-- A node is put behind the children of another. -/
  | appendChild (parent child : NodeId)
  /-- A node is put before a child of another. -/
  | insertBefore (parent child reference : NodeId)
  /-- A child is taken from a node. -/
  | removeChild (parent child : NodeId)
  /-- A node is put in the place of a child of another. -/
  | replaceChild (parent new old : NodeId)
  deriving DecidableEq, Repr

namespace Edit

open Editing

/-- An edit in place. Only the removal of an attribute gives a value: the one that the attribute
had. -/
def inPlace : Edit → Editing (Option String)
  | setAttribute id name value => do
    match (← node id).payload with
    | .element tag attributes =>
      writePayload id (.element tag (attributes.insert name.toLower value))
    | _ => throw (.notAnElement id)
    count
    return none
  | removeAttribute id name => do
    match (← node id).payload with
    | .element tag attributes =>
      let removed := attributes.get? name.toLower
      writePayload id (.element tag (attributes.erase name.toLower))
      if removed.isSome then count
      return removed
    | _ => throw (.notAnElement id)
  | setText id text => do
    match (← node id).payload with
    | .text _ => writePayload id (.text text)
    | .comment _ => writePayload id (.comment text)
    | _ => throw (.notCharacterData id)
    count
    return none
  | appendChild parent child => do
    insertable parent child
    writeChildren parent (· ++ [child])
    writeParent child (some parent)
    count
    return none
  | insertBefore parent child reference => do
    insertable parent child
    let index ← position parent reference
    writeChildren parent (·.insertIdx index child)
    writeParent child (some parent)
    count
    return none
  | removeChild parent child => do
    let index ← position parent child
    writeChildren parent (·.eraseIdx index)
    writeParent child none
    count
    return none
  | replaceChild parent new old => do
    insertable parent new
    let index ← position parent old
    writeChildren parent (·.set index new)
    writeParent new (some parent)
    writeParent old none
    count
    return none

/-- What an edit comes to, and the document that it leaves. -/
def perform (e : Edit) (d : Document) : Except DomError (Option String) × Document :=
  e.inPlace.run.run d

end Edit

end TwinRender
