import TwinRender.Expression

/-!
# Templates

A template is a forest of elements, texts, expressions, slots and blocks of control. Every node
remembers where it was written, so that a message can point there.

## Main definitions

* `Location` — a place in the text of a template;
* `Template.Node`, `Template` — the trees;
* `Template.Node.isTextLike` — the nodes that make up a run of text.
-/

namespace TwinRender

/-- A place in the text of a template; `0:0` stands for none. -/
structure Location where
  /-- The line, counted from one. -/
  line : UInt32
  /-- The column, counted from one. -/
  column : UInt32
  deriving DecidableEq, Repr

/-- The place of a node that was not written anywhere. -/
instance : Inhabited Location := ⟨⟨0, 0⟩⟩

namespace Location

/-- No place. -/
def none : Location := ⟨0, 0⟩

/-- Whether this is a place in a text. -/
def isKnown (l : Location) : Bool := 0 < l.line

/-- A place as messages show it. -/
def text (l : Location) : String := toString l.line.toNat ++ ":" ++ toString l.column.toNat

end Location

namespace Template

/-- The value side of an attribute, and the name of a slot. -/
inductive AttributeValue where
  /-- A text. -/
  | literal (value : String)
  /-- A value from the data. -/
  | expression (value : Expression)
  /-- No value: the attribute is just present. -/
  | boolean
  deriving DecidableEq, Repr, Inhabited

/-- An attribute of an element. -/
structure Attribute where
  /-- The name as written. -/
  name : String
  /-- The value. -/
  value : AttributeValue
  /-- Where the attribute was written. -/
  location : Location
  deriving DecidableEq, Repr, Inhabited

/-- The content of a text node. -/
inductive TextValue where
  /-- A text. -/
  | literal (value : String)
  /-- A value from the data. -/
  | expression (value : Expression)
  deriving DecidableEq, Repr, Inhabited

/-- A node of a template. -/
inductive Node where
  /-- An element with its attributes and children in order. -/
  | element (tag : String) (attributes : List Attribute) (children : List Node)
      (location : Location)
  /-- A text. -/
  | text (value : TextValue) (location : Location)
  /-- An expression shown as text. -/
  | expression (value : Expression) (location : Location)
  /-- A place for content from outside, with what stands there when none is given. -/
  | slot (name : Option AttributeValue) (fallback : List Node) (location : Location)
  /-- Children shown when a condition holds, or fails if it is negated. -/
  | cond (condition : Expression) (negated : Bool) (children : List Node) (location : Location)
  /-- A chain of branches, of which the first shows whose condition holds or is missing. -/
  | chain (branches : List (Option Expression × List Node)) (location : Location)
  /-- Children shown once for each item of a collection. -/
  | each (collection : Expression) (item : String) (index : Option String)
      (children : List Node) (location : Location)
  deriving Repr, Inhabited, BEq

namespace Node

/-- Where a node was written. -/
def location : Node → Location
  | .element _ _ _ l => l
  | .text _ l => l
  | .expression _ l => l
  | .slot _ _ l => l
  | .cond _ _ _ l => l
  | .chain _ l => l
  | .each _ _ _ _ l => l

/-- The same node, written elsewhere. -/
def moveTo (l : Location) : Node → Node
  | .element tag attributes children _ => .element tag attributes children l
  | .text value _ => .text value l
  | .expression value _ => .expression value l
  | .slot name fallback _ => .slot name fallback l
  | .cond condition negated children _ => .cond condition negated children l
  | .chain branches _ => .chain branches l
  | .each collection item index children _ => .each collection item index children l

/-- Whether a node is part of a run of text. -/
def isTextLike : Node → Bool
  | .text _ _ | .expression _ _ => true
  | _ => false

/-- The tag of an element. -/
def tag? : Node → Option String
  | .element tag _ _ _ => some tag
  | _ => none

end Node

end Template

/-- A template: a name for listings, and its nodes in order. -/
structure Template where
  /-- The name. -/
  name : String
  /-- The nodes. -/
  nodes : List Template.Node
  deriving Repr, Inhabited, BEq

end TwinRender
