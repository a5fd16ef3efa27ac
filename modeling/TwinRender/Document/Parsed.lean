import TwinRender.Document
import TwinRender.Markup.Parser

/-!
# Parsed documents

Parsed markup becomes a document whose nodes are numbered in the order of the document. Building
it counts as no edit. A document has no declarations, instructions and fragments, so these are left
out, with all that stands in them. A reader that does not overlook anything refuses markup for which
the parser had to.

## Main definitions

* `Document.ofForest` — the document of parsed nodes;
* `Document.parse`, `Document.parseStrict` — the document of markup;
* `ParseError` — what had to be overlooked.
-/

namespace TwinRender

namespace Document

/-- A new node behind the children of another, and its number. It is no edit. -/
def grow (d : Document) (parent : NodeId) (payload : Payload) : Document × NodeId :=
  let id := d.cells.size
  (({ d with cells := d.cells.push ⟨payload, some parent, []⟩ }).withChildren parent
    (d.children parent ++ [id]), id)

mutual

/-- The document with a parsed node, and the nodes below it, behind the children of a node. -/
def addNode (d : Document) (parent : NodeId) : Markup.Node → Document
  | .element tag attributes children =>
    let grown := d.grow parent (.element tag.toLower attributes.lowerKeys)
    addNodes grown.1 grown.2 children
  | .text text => (d.grow parent (.text text)).1
  | .comment text => (d.grow parent (.comment text)).1
  | .doctype _ | .instruction _ _ | .fragment _ => d

/-- The document with parsed nodes behind the children of a node. -/
def addNodes (d : Document) (parent : NodeId) : List Markup.Node → Document
  | [] => d
  | n :: ns => addNodes (d.addNode parent n) parent ns

end

/-- The document of parsed nodes. -/
def ofForest (nodes : List Markup.Node) : Document := empty.addNodes root nodes

/-- The document of markup. No markup is refused. -/
def parse (markup : String) : Document := ofForest (Markup.parse markup)

end Document

/-- What had to be overlooked to parse markup, in order. -/
structure ParseError where
  /-- The descriptions. -/
  errors : List String
  deriving DecidableEq, Repr, Inhabited

/-- How much had to be overlooked, in words. -/
def ParseError.message (e : ParseError) : String :=
  "markup needed " ++ toString e.errors.length ++ " recoveries, first: " ++
    e.errors.head?.getD "none"

/-- The document of markup for which nothing had to be overlooked. -/
def Document.parseStrict (markup : String) : Except ParseError Document :=
  match Markup.recoveries markup with
  | [] => .ok (.parse markup)
  | errors => .error ⟨errors.map Markup.Recovery.text⟩

end TwinRender
