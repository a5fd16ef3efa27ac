import TwinRender.Hydration.Mismatch
import TwinRender.OrderedMap

/-!
# Repairing mismatches

What is done about a mismatch is a choice. Values are patched in place, so that the node stays the
same one; a style is different, and its element is replaced unless told otherwise. Nodes that
differ are replaced, or only reported.

## Main definitions

* `RepairAction` — what can be done about a mismatch;
* `HydrationOptions` — the choices;
* `HydrationOptions.classify` — what is done about a mismatch.
-/

namespace TwinRender

open Text (sameIgnoringCase)

/-- What can be done about a mismatch. -/
inductive RepairAction where
  /-- The live value becomes the expected one, in the same node. -/
  | patchValue
  /-- A new node takes the place of the live one. -/
  | replaceNode
  /-- It is reported, and nothing is changed. -/
  | reportOnly
  /-- Nothing at all. -/
  | ignore
  deriving DecidableEq, Repr, Inhabited

namespace RepairAction

/-- Whether the mismatch is reported. -/
def isReported (a : RepairAction) : Bool := a != .ignore

/-- Whether the live tree is changed. -/
def mutates : RepairAction → Bool
  | .patchValue | .replaceNode => true
  | _ => false

/-- The name of an action. -/
def text : RepairAction → String
  | .patchValue => "patch_value"
  | .replaceNode => "replace_node"
  | .reportOnly => "report_only"
  | .ignore => "ignore"

/-- The action with a name. -/
def ofText? (name : String) : Option RepairAction :=
  [patchValue, replaceNode, reportOnly, ignore].find? fun a => a.text == name

end RepairAction

/-- The choices that a pass is made with. -/
structure HydrationOptions where
  /-- What is done about styles. -/
  styleAction : RepairAction
  /-- What is done about other attributes. -/
  attributeAction : RepairAction
  /-- What is done about texts. -/
  textAction : RepairAction
  /-- Whether differing nodes are replaced, and not only reported. -/
  structuralRepair : Bool
  /-- What is done about single attributes, before any other choice. -/
  attributeOverrides : OrderedMap RepairAction
  /-- The attributes that are not looked at. -/
  ignoreAttributes : List String
  deriving DecidableEq, Repr

namespace HydrationOptions

/-- Values are patched, and nodes and elements with another style are replaced. -/
def standard : HydrationOptions :=
  ⟨.replaceNode, .patchValue, .patchValue, true, .empty, []⟩

instance : Inhabited HydrationOptions := ⟨standard⟩

/-- The options with another choice for an attribute. -/
def withOverride (o : HydrationOptions) (name : String) (action : RepairAction) :
    HydrationOptions :=
  { o with attributeOverrides := o.attributeOverrides.insert name.toLower action }

/-- The options with one more attribute that is not looked at. -/
def withIgnored (o : HydrationOptions) (name : String) : HydrationOptions :=
  { o with ignoreAttributes := o.ignoreAttributes ++ [name.toLower] }

/-- Whether an attribute is not looked at. -/
def isIgnored (o : HydrationOptions) (name : String) : Bool :=
  o.ignoreAttributes.any fun ignored => sameIgnoringCase ignored name

/-- The choice for a single attribute: the first one whose name agrees up to case. -/
def override? (o : HydrationOptions) (name : String) : Option RepairAction :=
  (o.attributeOverrides.toList.find? fun e => sameIgnoringCase e.1 name).map Prod.snd

/-- What is done about the attribute with a name. -/
def attributeActionFor (o : HydrationOptions) (name : String) : RepairAction :=
  if o.isIgnored name then .ignore
  else (o.override? name).getD
    (if sameIgnoringCase name "style" then o.styleAction else o.attributeAction)

/-- What is done about a divergence. -/
def actionFor (o : HydrationOptions) : Divergence → RepairAction
  | .attribute name _ _ => o.attributeActionFor name
  | .text _ _ => o.textAction
  | .missing _ _ | .extra _ => if o.structuralRepair then .replaceNode else .reportOnly

/-- What is done about a mismatch. -/
def classify (o : HydrationOptions) (m : Mismatch) : RepairAction := o.actionFor m.divergence

end HydrationOptions

end TwinRender
