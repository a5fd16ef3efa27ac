import TwinRender.Canonical.Attribute
import TwinRender.Program
import TwinRender.Template.Fault

/-!
# Compiling templates

A template is lowered node by node. What the template fixes is computed here, once: literal
attributes get their canonical form, literal expressions their text. What depends on the data
becomes an instruction and the import of a helper. Neighbouring texts share one buffer, which is
given out behind the last of them.

## Main definitions

* `CompileOptions`, `Context` — what lowering depends on besides the node;
* `Fragment` — instructions and the helpers they need;
* `lowerNode`, `lowerNodes` — the fragments of nodes;
* `compile` — the program of a template, or its first fault.
-/

namespace TwinRender

open Template (AttributeValue TextValue Node Fault)

/-- The choices of the compiler. -/
structure CompileOptions where
  /-- Whether neighbouring texts are given out together. -/
  coalesceText : Bool
  deriving DecidableEq, Repr

/-- Texts are given out together unless told otherwise. -/
def CompileOptions.standard : CompileOptions := ⟨true⟩

instance : Inhabited CompileOptions := ⟨.standard⟩

/-- What lowering depends on besides the node. -/
structure Context where
  /-- What the program is for. -/
  target : Target
  /-- The choices of the compiler. -/
  options : CompileOptions
  /-- The tag of the enclosing element. -/
  parent : Option String
  /-- Whether a text here is the last of its run. -/
  lastInRun : Bool
  deriving DecidableEq, Repr, Inhabited

namespace Context

/-- The context of the nodes of a template. -/
def root (target : Target) (options : CompileOptions) : Context := ⟨target, options, none, true⟩

/-- The context of the children of an element. -/
def within (c : Context) (tag : String) : Context := { c with parent := some tag }

/-- The context of a node that is the last of its run, or not. Without coalescing every text is a
run of its own. -/
def position (c : Context) (last : Bool) : Context :=
  { c with lastInRun := last || !c.options.coalesceText }

/-- Whether the program writes markup. -/
def isServer (c : Context) : Bool := c.target == .server

end Context

/-- Instructions and the helpers they need, in order of first use. -/
structure Fragment where
  /-- The instructions. -/
  instructions : List Instruction
  /-- The helpers. -/
  imports : List Helper
  deriving DecidableEq, Repr, Inhabited

namespace Fragment

/-- No instructions. -/
def empty : Fragment := ⟨[], []⟩

/-- One fragment behind another. -/
def append (a b : Fragment) : Fragment :=
  ⟨a.instructions ++ b.instructions, Helper.union a.imports b.imports⟩

instance : Append Fragment := ⟨append⟩

/-- One instruction without helpers. -/
def instruction (i : Instruction) : Fragment := ⟨[i], []⟩

/-- A helper that is needed if a condition holds. -/
def helper (needed : Bool) (h : Helper) : Fragment := ⟨[], if needed then [h] else []⟩

/-- The number of instructions. -/
def length (f : Fragment) : Nat := f.instructions.length

end Fragment

open Fragment (instruction helper)

/-- What an attribute becomes: nothing, or an attribute with a source. -/
def attributeSource (name : String) : AttributeValue → Option AttributeSource
  | .literal raw => (canonicalAttribute name (some raw)).map fun value => some (.fixed value)
  | .boolean => if Text.sameIgnoringCase name "style" then none else some none
  | .expression (.literal l) =>
    (canonicalAttribute name (attributeOfValue name l.value)).map fun value => some (.fixed value)
  | .expression e => some (some (.computed e))

/-- The fragment of an attribute. An attribute that is known to be absent leaves no instruction;
one that is just present is not escaped. -/
def lowerAttribute (c : Context) (a : Template.Attribute) : Fragment :=
  let name := a.name.toLower
  let isStyle := Text.sameIgnoringCase a.name "style"
  match attributeSource name a.value with
  | none => .empty
  | some source =>
    let computed := match source with
      | some (.computed _) => true
      | _ => false
    helper computed (if isStyle then .style else .attribute) ++
      helper (c.isServer && source.isSome) .escape ++
      instruction (if isStyle then .setStyle source else .setAttribute name source)

/-- The fragments of the attributes of an element. -/
def lowerAttributes (c : Context) : List Template.Attribute → Fragment
  | [] => .empty
  | a :: rest => lowerAttribute c a ++ lowerAttributes c rest

/-- Where the content of a text comes from. -/
def textSource : TextValue → Source
  | .literal text => .fixed text
  | .expression (.literal l) => .fixed l.value.content
  | .expression e => .computed e

/-- The fragment of a text. The last text of a run gives the buffer out, and the server escapes it
unless it stands in an element with raw text. -/
def lowerText (c : Context) (value : TextValue) : Fragment :=
  let source := textSource value
  let computed := match source with
    | .computed _ => true
    | .fixed _ => false
  let raw := c.parent.any Html.isRawText
  helper computed .content ++ instruction (.bufferText source) ++
    (if c.lastInRun then helper (c.isServer && !raw) .escape ++ instruction .yieldText else .empty)

/-- A branch, given the fragments of its two bodies. -/
def branchFragment (condition : Expression) (negated : Bool) (consequent alternate : Fragment) :
    Fragment :=
  helper true .branch ++
    instruction (.branch condition negated consequent.length alternate.length) ++
    consequent ++ alternate

mutual

/-- The fragment of a node, or the fault that keeps it from being lowered. -/
def lowerNode (c : Context) : Node → Except Fault Fragment
  | .element tag attributes children _ => do
    let name := tag.toLower
    let content ← if Html.isVoid name then .ok .empty else lowerNodes (c.within tag) children
    return instruction (.openElement name) ++ lowerAttributes c attributes ++ content ++
      instruction (.closeElement name)
  | .text value _ => .ok (lowerText c value)
  | .expression value _ => .ok (lowerText c (.expression value))
  | .slot (some (.expression _)) _ location | .slot (some .boolean) _ location =>
    .error ⟨location, .computedSlotName⟩
  | .slot (some (.literal name)) fallback _ => do
    let body ← lowerNodes c fallback
    return helper true .slot ++ instruction (.projectSlot (some name) body.length) ++ body
  | .slot none fallback _ => do
    let body ← lowerNodes c fallback
    return helper true .slot ++ instruction (.projectSlot none body.length) ++ body
  | .cond condition negated children _ => do
    let body ← lowerNodes c children
    return branchFragment condition negated body .empty
  | .chain branches _ => lowerChain c branches
  | .each collection item index children _ => do
    let body ← lowerNodes c children
    return helper true .each ++ instruction (.iterate collection item index body.length) ++ body

/-- The fragment of neighbouring nodes. A text is the last of its run when no text follows. -/
def lowerNodes (c : Context) : List Node → Except Fault Fragment
  | [] => .ok .empty
  | n :: ns => do
    let last := !(ns.head?.any Node.isTextLike)
    let first ← lowerNode (c.position last) n
    let rest ← lowerNodes c ns
    return first ++ rest

/-- The fragment of a chain: each branch has the rest of the chain as its alternative. The last
branch is lowered first. -/
def lowerChain (c : Context) : List (Option Expression × List Node) → Except Fault Fragment
  | [] => .ok .empty
  | (condition, children) :: rest => do
    let alternate ← lowerChain c rest
    let body ← lowerNodes c children
    match condition with
    | some condition => return branchFragment condition false body alternate
    | none => return body

end

/-- The program of a template, or its first fault. -/
def compile (t : Template) (target : Target) (options : CompileOptions) : Except Fault Program := do
  t.validate
  let body ← lowerNodes (.root target options) t.nodes
  return ⟨t.name, target, body.instructions, body.imports⟩

/-- What a fault of a template is when it is compiled, in words. -/
def Template.Fault.compileMessage (f : Fault) : String :=
  "compile error at " ++ f.location.text ++ ": " ++ f.violation.message

end TwinRender
