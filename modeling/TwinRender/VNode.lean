import TwinRender.Markup.Writer
import TwinRender.OrderedMap
import TwinRender.Text.Quoted

/-!
# Expected nodes

The tree that a client program describes: elements with attributes in order, and texts, which may
be empty.

## Main definitions

* `VNode` — expected nodes;
* `VNode.display` — a node as messages show it;
* `VNode.markup` — a node as markup;
* `VNode.push` — a node put behind its siblings, where a text joins a text before it.
-/

namespace TwinRender

/-- An expected node. -/
inductive VNode where
  /-- An element with its tag, attributes and children. -/
  | element (tag : String) (attributes : OrderedMap String) (children : List VNode)
  /-- A text. -/
  | text (text : String)
  deriving Repr, Inhabited

namespace VNode

/-- A node as messages show it. -/
def display : VNode → String
  | .element tag _ _ => "<" ++ tag ++ ">"
  | .text s => "text " ++ Text.quoted s

/-- The text that a text node holds. -/
def text? : VNode → Option String
  | .text s => some s
  | .element _ _ _ => none

mutual

/-- A node as markup. Names are written in lower case, and text as it is in elements with raw
text. -/
def write (raw : Bool) : VNode → String
  | .element tag attributes children =>
    let tag := tag.toLower
    Markup.elementText tag attributes.lowerKeys.toList (children.head?.bind text?)
      (writeList (Html.isRawText tag) children)
  | .text s => Markup.characterData raw s

/-- Nodes as markup, one behind the other. -/
def writeList (raw : Bool) : List VNode → String
  | [] => ""
  | n :: ns => n.write raw ++ writeList raw ns

end

/-- A node as markup on its own. -/
def markup (n : VNode) : String := n.write false

/-- A node behind its siblings, which are given last first. Texts that meet become one. -/
def push (siblings : List VNode) (n : VNode) : List VNode :=
  match siblings, n with
  | .text before :: rest, .text s => .text (before ++ s) :: rest
  | siblings, n => n :: siblings

end VNode

end TwinRender
