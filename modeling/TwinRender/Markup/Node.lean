import TwinRender.OrderedMap

/-!
# Trees of markup

What markup stands for: elements with attributes, texts and comments, and some nodes that a page
does not show. What stands in a template is no child of it, but in a fragment of its own, which is
the one child that a template has.

## Main definitions

* `Node` — the nodes of a parsed tree.
-/

namespace TwinRender.Markup

/-- A node of parsed markup. -/
inductive Node where
  /-- An element with its name, its attributes and its children in order. -/
  | element (tag : String) (attributes : OrderedMap String) (children : List Node)
  /-- A run of text. -/
  | text (text : String)
  /-- A comment. -/
  | comment (text : String)
  /-- The declaration of a document's type. -/
  | doctype (name : String)
  /-- An instruction for the reader. -/
  | instruction (target data : String)
  /-- The fragment with what stands in a template. -/
  | fragment (children : List Node)
  deriving Repr, Inhabited

end TwinRender.Markup
