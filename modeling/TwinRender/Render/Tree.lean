import TwinRender.Render
import TwinRender.VNode

/-!
# The expected tree

A client program describes the tree that the client expects. Its events build the tree from the
inside out: an element that ends becomes a child of the one around it, and texts that meet become
one text, as they do in parsed markup.

## Main definitions

* `TreeBuilder` — the part of the tree that has been described;
* `TreeBuilder.step` — the tree after one more event;
* `renderClient` — the expected tree of a program.
-/

namespace TwinRender

/-- An element that has not ended; its children are given last first. -/
structure OpenElement where
  /-- The tag. -/
  tag : String
  /-- The attributes so far. -/
  attributes : OrderedMap String
  /-- The children so far, last first. -/
  children : List VNode
  deriving Repr, Inhabited

/-- The element when it ends. -/
def OpenElement.node (e : OpenElement) : VNode := .element e.tag e.attributes e.children.reverse

/-- The part of a tree that has been described. -/
structure TreeBuilder where
  /-- The nodes at the top, last first. -/
  roots : List VNode
  /-- The elements that have not ended, innermost first. -/
  openElements : List OpenElement
  deriving Repr, Inhabited

namespace TreeBuilder

/-- No nodes. -/
def empty : TreeBuilder := ⟨[], []⟩

/-- The tree with a node behind the others of the innermost element. -/
def push (b : TreeBuilder) (n : VNode) : TreeBuilder :=
  match b.openElements with
  | [] => { b with roots := VNode.push b.roots n }
  | e :: es => { b with openElements := { e with children := VNode.push e.children n } :: es }

/-- The tree after one more event. Attributes outside of any element are lost. -/
def step (b : TreeBuilder) : Event → Except RenderError TreeBuilder
  | .openElement tag => .ok { b with openElements := ⟨tag, .empty, []⟩ :: b.openElements }
  | .attribute name value =>
    match b.openElements with
    | [] => .ok b
    | e :: es =>
      .ok { b with openElements := { e with attributes := e.attributes.insert name value } :: es }
  | .closeElement tag =>
    match b.openElements with
    | e :: es =>
      if e.tag = tag then .ok (push { b with openElements := es } e.node)
      else .error (.unbalancedClose tag)
    | [] => .error (.unbalancedClose tag)
  | .text text => .ok (b.push (.text text))

/-- The nodes of a tree in which every element has ended. -/
def finish (b : TreeBuilder) : Except RenderError (List VNode) :=
  match b.openElements with
  | [] => .ok b.roots.reverse
  | e :: _ => .error (.unbalancedClose e.tag)

end TreeBuilder

/-- The tree of what running a program came to. -/
def Run.tree (r : Run) : Except RenderError (List VNode) := do
  let b ← r.events.foldlM TreeBuilder.step .empty
  let _ ← r.state
  b.finish

/-- The tree that a client program expects for a scope. -/
def renderClient (p : Program) (scope : Scope) : Except RenderError (List VNode) :=
  (p.run .client scope).tree

end TwinRender
