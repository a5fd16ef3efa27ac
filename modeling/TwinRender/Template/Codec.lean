import TwinRender.Template
import TwinRender.Value.Form

/-!
# Templates as data

Templates are kept as data values. Writing one names every field; reading one takes defaults for
the fields that may be left out, overlooks fields that it does not know, and refuses all else.

## Main definitions

* `Expression.toValue`, `Expression.ofValue?` — expressions as data;
* `Template.toValue`, `Template.ofValue?` — templates as data.
-/

namespace TwinRender

open Value (Form required optional nullable)

/-! ### Literals and expressions -/

/-- A literal as data. -/
def Literal.toValue : Literal → Value
  | .string s => .object [("type", .string "string"), ("value", .string s)]
  | .number n => .object [("type", .string "number"), ("value", .number n)]
  | .bool b => .object [("type", .string "bool"), ("value", .bool b)]
  | .null => .object [("type", .string "null")]

/-- The literal that data stands for. -/
def Literal.ofValue? (v : Value) : Option Literal :=
  match v.content? with
  | some ("string", some (.string s)) => some (.string s)
  | some ("number", some (.number n)) => some (.number n)
  | some ("bool", some (.bool b)) => some (.bool b)
  | some ("null", none) | some ("null", some .null) => some .null
  | _ => none

namespace Expression

/-- An expression as data. -/
def toValue : Expression → Value
  | .identifier name => .object [("name", .string name), ("type", .string "identifier")]
  | .member object property =>
    .object [("object", object.toValue), ("property", .string property),
      ("type", .string "member")]
  | .literal l => .object [("type", .string "literal"), ("value", l.toValue)]

/-- The expression that one level of data stands for, given those of its parts. -/
def ofForm? (form : Form (Option Expression)) : Option Expression :=
  match form.case? "type" with
  | some ("identifier", r) => do
    let fields ← r.record? ["name"]
    let name ← required fields "name" (·.1.string?)
    return .identifier name
  | some ("member", r) => do
    let fields ← r.record? ["object", "property"]
    let object ← required fields "object" (·.2)
    let property ← required fields "property" (·.1.string?)
    return .member object property
  | some ("literal", r) => do
    let fields ← r.record? ["value"]
    let value ← required fields "value" (Literal.ofValue? ·.1)
    return .literal value
  | _ => none

/-- The expression that data stands for. -/
def ofValue? (v : Value) : Option Expression :=
  v.fold ofForm?

end Expression

/-! ### Places -/

namespace Location

/-- A place as data. -/
def toValue (l : Location) : Value :=
  .object [("column", .ofNat l.column.toNat), ("line", .ofNat l.line.toNat)]

/-- The place that data stands for. Both coordinates are needed. -/
def ofValue? (v : Value) : Option Location := do
  let fields ← v.record? ["line", "column"]
  let line ← required fields "line" Value.word?
  let column ← required fields "column" Value.word?
  return ⟨line, column⟩

end Location

namespace Template

/-! ### Attributes and texts -/

/-- The value of an attribute as data. -/
def AttributeValue.toValue : AttributeValue → Value
  | .literal s => .object [("type", .string "literal"), ("value", .string s)]
  | .expression e => .object [("type", .string "expression"), ("value", e.toValue)]
  | .boolean => .object [("type", .string "boolean")]

/-- The value of an attribute that data stands for. -/
def AttributeValue.ofValue? (v : Value) : Option AttributeValue :=
  match v.content? with
  | some ("literal", some (.string s)) => some (.literal s)
  | some ("expression", some e) => (Expression.ofValue? e).map .expression
  | some ("boolean", none) | some ("boolean", some .null) => some .boolean
  | _ => none

/-- The content of a text node as data. -/
def TextValue.toValue : TextValue → Value
  | .literal s => .object [("type", .string "literal"), ("value", .string s)]
  | .expression e => .object [("type", .string "expression"), ("value", e.toValue)]

/-- The content of a text node that data stands for. -/
def TextValue.ofValue? (v : Value) : Option TextValue :=
  match v.content? with
  | some ("literal", some (.string s)) => some (.literal s)
  | some ("expression", some e) => (Expression.ofValue? e).map .expression
  | _ => none

namespace Attribute

/-- An attribute as data. -/
def toValue (a : Attribute) : Value :=
  .object [("location", a.location.toValue), ("name", .string a.name),
    ("value", a.value.toValue)]

/-- The attribute that data stands for. -/
def ofValue? (v : Value) : Option Attribute := do
  let fields ← v.record? ["name", "value", "location"]
  let name ← required fields "name" Value.string?
  let value ← required fields "value" AttributeValue.ofValue?
  let location ← optional fields "location" Location.ofValue? .none
  return ⟨name, value, location⟩

/-- The attributes that data stands for. -/
def listOfValue? : Value → Option (List Attribute)
  | .array items => items.mapM ofValue?
  | _ => none

end Attribute

/-! ### Nodes -/

namespace Node

/-- An optional value, absent as `null`. -/
def absent {α : Type} (write : α → Value) : Option α → Value
  | none => .null
  | some a => write a

mutual

/-- A node as data. -/
def toValue : Node → Value
  | .element tag attributes children location =>
    .object [("attributes", .array (attributes.map Attribute.toValue)),
      ("children", .array (listToValue children)), ("location", location.toValue),
      ("tag", .string tag), ("type", .string "element")]
  | .text value location =>
    .object [("location", location.toValue), ("type", .string "text"),
      ("value", value.toValue)]
  | .expression value location =>
    .object [("expression", value.toValue), ("location", location.toValue),
      ("type", .string "expression")]
  | .slot name fallback location =>
    .object [("fallback", .array (listToValue fallback)), ("location", location.toValue),
      ("name", absent AttributeValue.toValue name), ("type", .string "slot")]
  | .cond condition negated children location =>
    .object [("children", .array (listToValue children)), ("condition", condition.toValue),
      ("kind", .string "if"), ("location", location.toValue), ("negated", .bool negated),
      ("type", .string "directive")]
  | .chain branches location =>
    .object [("branches", .array (branchesToValue branches)), ("kind", .string "if_chain"),
      ("location", location.toValue), ("type", .string "directive")]
  | .each collection item index children location =>
    .object [("children", .array (listToValue children)), ("collection", collection.toValue),
      ("index", absent Value.string index), ("item", .string item),
      ("kind", .string "for_each"), ("location", location.toValue),
      ("type", .string "directive")]

/-- Nodes as data. -/
def listToValue : List Node → List Value
  | [] => []
  | n :: ns => n.toValue :: listToValue ns

/-- The branches of a chain as data. -/
def branchesToValue : List (Option Expression × List Node) → List Value
  | [] => []
  | (condition, children) :: bs =>
    .object [("children", .array (listToValue children)),
      ("condition", absent Expression.toValue condition)] :: branchesToValue bs

end

/-- What a value stands for in each of the places where it may occur in a template. -/
structure Roles where
  /-- As a node. -/
  node : Option Node
  /-- As a list of nodes. -/
  nodes : Option (List Node)
  /-- As a branch of a chain. -/
  branch : Option (Option Expression × List Node)
  /-- As a list of branches. -/
  branches : Option (List (Option Expression × List Node))

/-- A place among the fields of a node; none if it is left out. -/
def locationOf? (fields : List (String × Value × Roles)) : Option Location :=
  optional fields "location" (Location.ofValue? ·.1) .none

/-- A list of nodes among the fields of a node; empty if it is left out. -/
def nodesOf? (fields : List (String × Value × Roles)) (name : String) : Option (List Node) :=
  optional fields name (·.2.nodes) []

/-- An expression among the fields of a node. -/
def expressionOf? (fields : List (String × Value × Roles)) (name : String) : Option Expression :=
  required fields name (Expression.ofValue? ·.1)

/-- The block of control that one level of data stands for. -/
def blockOfForm? (form : Form Roles) : Option Node :=
  match form.case? "kind" with
  | some ("if", r) => do
    let fields ← r.record? ["condition", "negated", "children", "location"]
    let condition ← expressionOf? fields "condition"
    let negated ← optional fields "negated" (·.1.bool?) false
    return .cond condition negated (← nodesOf? fields "children") (← locationOf? fields)
  | some ("if_chain", r) => do
    let fields ← r.record? ["branches", "location"]
    let branches ← required fields "branches" (·.2.branches)
    return .chain branches (← locationOf? fields)
  | some ("for_each", r) => do
    let fields ← r.record? ["collection", "item", "index", "children", "location"]
    let collection ← expressionOf? fields "collection"
    let item ← required fields "item" (·.1.string?)
    let index ← optional fields "index" (nullable Value.string? ·.1) none
    return .each collection item index (← nodesOf? fields "children") (← locationOf? fields)
  | _ => none

/-- The node that one level of data stands for. -/
def nodeOfForm? (form : Form Roles) : Option Node :=
  match form.case? "type" with
  | some ("element", r) => do
    let fields ← r.record? ["tag", "attributes", "children", "location"]
    let tag ← required fields "tag" (·.1.string?)
    let attributes ← optional fields "attributes" (Attribute.listOfValue? ·.1) []
    return .element tag attributes (← nodesOf? fields "children") (← locationOf? fields)
  | some ("text", r) => do
    let fields ← r.record? ["value", "location"]
    let value ← required fields "value" (TextValue.ofValue? ·.1)
    return .text value (← locationOf? fields)
  | some ("expression", r) => do
    let fields ← r.record? ["expression", "location"]
    return .expression (← expressionOf? fields "expression") (← locationOf? fields)
  | some ("slot", r) => do
    let fields ← r.record? ["name", "fallback", "location"]
    let name ← optional fields "name" (nullable AttributeValue.ofValue? ·.1) none
    return .slot name (← nodesOf? fields "fallback") (← locationOf? fields)
  | some ("directive", r) => blockOfForm? r
  | _ => none

/-- The branch that one level of data stands for. -/
def branchOfForm? (form : Form Roles) : Option (Option Expression × List Node) := do
  let fields ← form.record? ["condition", "children"]
  let condition ← optional fields "condition" (nullable Expression.ofValue? ·.1) none
  return (condition, ← nodesOf? fields "children")

/-- What one level of data stands for in each place. -/
def rolesOfForm (form : Form Roles) : Roles :=
  let node := nodeOfForm? form
  let branch := branchOfForm? form
  match form with
  | .listed items => ⟨node, items.mapM (·.2.node), branch, items.mapM (·.2.branch)⟩
  | _ => ⟨node, none, branch, none⟩

/-- The node that data stands for. -/
def ofValue? (v : Value) : Option Node :=
  (v.fold rolesOfForm).node

/-- The list of nodes that data stands for. -/
def listOfValue? (v : Value) : Option (List Node) :=
  (v.fold rolesOfForm).nodes

end Node

/-- A template as data. -/
def toValue (t : Template) : Value :=
  .object [("name", .string t.name), ("nodes", .array (Node.listToValue t.nodes))]

/-- The template that data stands for. -/
def ofValue? (v : Value) : Option Template := do
  let fields ← v.record? ["name", "nodes"]
  let name ← required fields "name" Value.string?
  let nodes ← required fields "nodes" Node.listOfValue?
  return ⟨name, nodes⟩

end Template

end TwinRender
