import TwinRender.Html
import TwinRender.Template
import TwinRender.Text.Quoted

/-!
# Faults of a template

A template can be compiled when no node breaks a rule. All faults are listed in the order of the
document, those of one node in a fixed order; the first one is the one that is reported.

## Main definitions

* `Template.Violation`, `Template.Fault` — what can be wrong, and where;
* `Template.Node.faults` — the faults of a node and of everything below it;
* `Template.validate` — the first fault of a template.
-/

namespace TwinRender.Template

open Text (quoted)

/-- The two names that a loop binds. -/
inductive Binding where
  /-- The name of the item. -/
  | item
  /-- The name of the position. -/
  | index
  deriving DecidableEq, Repr, Inhabited

/-- A binding as templates write it. -/
def Binding.text : Binding → String
  | .item => "for:item"
  | .index => "for:index"

/-- What can be wrong with a node. -/
inductive Violation where
  /-- The tag is not a name. -/
  | invalidTag (tag : String)
  /-- The name of an attribute cannot be written. -/
  | invalidAttribute (element name : String)
  /-- An attribute stands twice, perhaps in different case. -/
  | duplicateAttribute (element name : String)
  /-- An element that has no content has children. -/
  | voidWithChildren (tag : String)
  /-- The name of a slot is not a text. -/
  | computedSlotName
  /-- A loop binds something that is not an identifier. -/
  | invalidBinding (binding : Binding) (name : String)
  /-- A loop binds one name twice. -/
  | duplicateBinding (name : String)
  /-- A chain has no branches. -/
  | emptyChain
  /-- A branch without condition is followed by another one. -/
  | misplacedElse (position : Nat)
  deriving DecidableEq, Repr, Inhabited

/-- What is wrong, in words. -/
def Violation.message : Violation → String
  | .invalidTag tag => "invalid tag name: " ++ quoted tag
  | .invalidAttribute element name =>
    "invalid attribute " ++ quoted name ++ " on <" ++ element ++ ">"
  | .duplicateAttribute element name =>
    "duplicate attribute " ++ quoted name ++ " on <" ++ element ++ ">"
  | .voidWithChildren tag => "void element <" ++ tag ++ "> cannot have children"
  | .computedSlotName => "slot name must be a literal string"
  | .invalidBinding binding name =>
    "invalid " ++ binding.text ++ " binding " ++ quoted name ++ ": expected an identifier"
  | .duplicateBinding name => "for:item and for:index both bind " ++ quoted name
  | .emptyChain => "conditional chain has no branches"
  | .misplacedElse position =>
    "branch " ++ toString position ++ " has no condition but is not the last branch"

/-- A violation and where it stands. -/
structure Fault where
  /-- The place of the node or attribute. -/
  location : Location
  /-- What is wrong there. -/
  violation : Violation
  deriving DecidableEq, Repr, Inhabited

/-- A fault in words. -/
def Fault.message (f : Fault) : String := f.location.text ++ ": " ++ f.violation.message

/-- The attributes whose names came before, given the names so far. -/
def repeated (seen : List String) : List Attribute → List Attribute
  | [] => []
  | a :: rest =>
    let name := a.name.toLower
    if seen.contains name then a :: repeated seen rest else repeated (name :: seen) rest

/-- The faults of an element itself: its tag, attributes that stand twice, attributes whose names
cannot be written, and children of an element that has none. -/
def elementFaults (tag : String) (attributes : List Attribute) (hasChildren : Bool)
    (location : Location) : List Fault :=
  (if Html.isTagName tag then [] else [⟨location, .invalidTag tag⟩]) ++
    (repeated [] attributes).map (fun a => ⟨a.location, .duplicateAttribute tag a.name⟩) ++
    (attributes.filter fun a => !Html.isAttributeName a.name).map
      (fun a => ⟨a.location, .invalidAttribute tag a.name⟩) ++
    (if Html.isVoid tag && hasChildren then [⟨location, .voidWithChildren tag⟩] else [])

/-- The faults of a slot itself. -/
def slotFaults (name : Option AttributeValue) (location : Location) : List Fault :=
  match name with
  | none | some (.literal _) => []
  | some _ => [⟨location, .computedSlotName⟩]

/-- The faults of a chain itself: no branches, or a branch without condition before the last. -/
def chainFaults (branches : List (Option Expression × List Node)) (location : Location) :
    List Fault :=
  if branches.isEmpty then [⟨location, .emptyChain⟩]
  else
    match branches.findIdx? fun b => b.1.isNone with
    | some position =>
      if position + 1 = branches.length then [] else [⟨location, .misplacedElse position⟩]
    | none => []

/-- The faults of a loop itself: bindings that are no identifiers, and equal bindings. -/
def loopFaults (item : String) (index : Option String) (location : Location) : List Fault :=
  (if Html.isIdentifier item then [] else [⟨location, .invalidBinding .item item⟩]) ++
    (match index with
      | none => []
      | some name =>
        (if Html.isIdentifier name then [] else [⟨location, .invalidBinding .index name⟩]) ++
          (if name = item then [⟨location, .duplicateBinding item⟩] else []))

namespace Node

mutual

/-- The faults of a node and of everything below it, in the order of the document. -/
def faults : Node → List Fault
  | .element tag attributes children location =>
    elementFaults tag attributes (!children.isEmpty) location ++ listFaults children
  | .text _ _ => []
  | .expression _ _ => []
  | .slot name fallback location => slotFaults name location ++ listFaults fallback
  | .cond _ _ children _ => listFaults children
  | .chain branches location => chainFaults branches location ++ branchFaults branches
  | .each _ item index children location => loopFaults item index location ++ listFaults children

/-- The faults of a list of nodes. -/
def listFaults : List Node → List Fault
  | [] => []
  | n :: ns => n.faults ++ listFaults ns

/-- The faults in the branches of a chain. -/
def branchFaults : List (Option Expression × List Node) → List Fault
  | [] => []
  | (_, children) :: bs => listFaults children ++ branchFaults bs

end

end Node

/-- All faults of a template, in the order of the document. -/
def faults (t : Template) : List Fault := Node.listFaults t.nodes

/-- Succeeds on a template without faults, and reports the first fault of any other. -/
def validate (t : Template) : Except Fault Unit :=
  match t.faults with
  | [] => .ok ()
  | f :: _ => .error f

end TwinRender.Template
