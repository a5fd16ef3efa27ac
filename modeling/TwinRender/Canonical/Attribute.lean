import TwinRender.Canonical.Style
import TwinRender.Html
import TwinRender.Value.Printer

/-!
# Canonical attributes

Attribute values are never compared as they are written but in a canonical form that depends on
the name of the attribute. Absence is a value of its own; an empty style is no style.

## Main definitions

* `AttributeKind` — the ways in which values are compared;
* `canonicalAttribute` — the canonical form of a value or its absence;
* `sameAttribute` — equality of two values of one attribute;
* `attributeOfValue` — the attribute that a data value stands for.
-/

namespace TwinRender

/-- The ways in which attribute values are compared. -/
inductive AttributeKind where
  /-- A list of declarations. -/
  | style
  /-- A list of words. -/
  | words
  /-- Only presence counts. -/
  | boolean
  /-- Any other text, without space around it. -/
  | generic
  deriving DecidableEq, Repr, Inhabited

/-- How values of the attribute with a name are compared. -/
def AttributeKind.ofName (name : String) : AttributeKind :=
  if Text.sameIgnoringCase name "style" then .style
  else if Text.sameIgnoringCase name "class" then .words
  else if Html.isBoolean name then .boolean
  else .generic

/-- The canonical form of a value that is present. -/
def AttributeKind.canonicalize (kind : AttributeKind) (raw : String) : String :=
  match kind with
  | .style => Style.normalize raw
  | .words => " ".intercalate ((Text.words raw.toList).map String.ofList)
  | .boolean => ""
  | .generic => Text.trimmed raw

/-- The canonical form of an attribute value. A style without declarations is absent. -/
def canonicalAttribute (name : String) (raw : Option String) : Option String :=
  raw.bind fun raw =>
    let kind := AttributeKind.ofName name
    let value := kind.canonicalize raw
    if kind = .style ∧ value.isEmpty then none else some value

/-- Whether two values of the attribute with a name are the same, or both absent. -/
def sameAttribute (name : String) (a b : Option String) : Bool :=
  canonicalAttribute name a == canonicalAttribute name b

/-- The attribute that a data value stands for: `null` and `false` for none, `true` for a bare
one, anything else for its content. For a boolean attribute only the truth of the value counts. -/
def attributeOfValue (name : String) (value : Value) : Option String :=
  if Html.isBoolean name then if value.truthy then some "" else none
  else
    match value with
    | .null | .bool false => none
    | .bool true => some ""
    | value => some value.content

end TwinRender
