import TwinRender.Document
import TwinRender.VNode

/-!
# Mounting expected nodes

An expected node becomes a node of a document, with everything below it. It stands nowhere at
first. Giving it attributes and children counts as edits like any other.

## Main definitions

* `Document.mount` — the document with an expected node, and the number of that node.
-/

namespace TwinRender.Document

/-- Gives an element attributes, one after the other. -/
def setAttributes (d : Document) (id : NodeId) :
    List (String × String) → Except DomError Document
  | [] => .ok d
  | (name, value) :: rest => do
    let d ← d.setAttribute id name value
    d.setAttributes id rest

mutual

/-- Makes a node, and all nodes below it, of an expected node. -/
def mount (d : Document) : VNode → Except DomError (Document × NodeId)
  | .text s => .ok (d.createText s)
  | .element tag attributes children => do
    let created := d.createElement tag
    let d ← created.1.setAttributes created.2 attributes.toList
    let d ← d.mountChildren created.2 children
    return (d, created.2)

/-- Makes nodes of expected nodes, each behind the children of a node. -/
def mountChildren (d : Document) (parent : NodeId) : List VNode → Except DomError Document
  | [] => .ok d
  | n :: ns => do
    let mounted ← d.mount n
    let d ← mounted.1.appendChild parent mounted.2
    d.mountChildren parent ns

end

end TwinRender.Document
