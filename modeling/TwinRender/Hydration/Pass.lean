import TwinRender.Canonical.Attribute
import TwinRender.Canonical.Text
import TwinRender.Document.Mount
import TwinRender.Hydration.Diagnostics
import TwinRender.Hydration.Policy
import TwinRender.Render.Tree

/-!
# Hydration

A pass walks the live nodes below a root side by side with the expected nodes, in the order of the
document. Comments are passed over. Where the two differ it makes a record, and repairs the live
tree as the options say; it never stops at a difference. A node that is put in the place of
another is made from the expected one, so nothing below it is looked at.

The document is edited in place. A repair that is refused would leave it as the repairs before it
have made it, so a refusal comes with the document of that time.

## Main definitions

* `Pass`, `Refusal` — the state of a pass, and what is left when a repair is refused;
* `Pass.walkNode`, `Pass.walkNodes` — one node and neighbouring nodes;
* `hydrateNodesInPlace`, `hydrateInPlace` — a whole pass: the document that it leaves, and its
  report or the reason why there is none;
* `hydrateNodes`, `hydrate` — the same, with no document where there is no report;
* `HydrationError` — the reasons why a pass does not start.
-/

namespace TwinRender

/-- A mismatch, and what was done about it. -/
structure Record where
  /-- The mismatch. -/
  mismatch : Mismatch
  /-- What was done about it. -/
  action : RepairAction
  deriving DecidableEq, Repr, Inhabited

/-- The state of a pass. -/
structure Pass where
  /-- The document as it is now. -/
  document : Document
  /-- The records so far, in order. -/
  records : List Record
  /-- The messages so far. -/
  diagnostics : Diagnostics
  /-- The number of nodes put in, taken out or replaced. -/
  replaced : Nat
  /-- The number of values patched. -/
  patched : Nat
  deriving Repr, Inhabited

/-- An edit that was refused in a pass. -/
structure Refusal where
  /-- The document as the edits before it have left it. -/
  document : Document
  /-- Why it was refused. -/
  reason : DomError
  deriving DecidableEq, Repr, Inhabited

/-- An edit in a pass. A refusal tells what the document was. -/
def Document.attempt {α : Type} (d : Document) (edit : Except DomError α) : Except Refusal α :=
  edit.mapError (Refusal.mk d)

/-- An edit that is not refused is done. -/
@[simp] theorem Document.attempt_ok {α : Type} (d : Document) (a : α) :
    d.attempt (.ok a) = .ok a := rfl

/-- A live node as messages show it. -/
def Document.describe (d : Document) (id : NodeId) : String :=
  match d.payload? id with
  | some (.element tag _) => "<" ++ tag ++ ">"
  | some (.text text) => "text " ++ Text.quoted text
  | some (.comment _) => "comment"
  | some .document | none => "#document"

/-- The live nodes directly below a node, without comments. -/
def Document.liveChildren (d : Document) (id : NodeId) : List NodeId :=
  (d.children id).filter fun c => !(d.payload? c).any Payload.isComment

namespace Pass

/-- A pass that has not begun. -/
def start (d : Document) : Pass := ⟨d, [], .empty, 0, 0⟩

/-- The pass with one more record, and a message for it unless it is ignored. -/
def record (p : Pass) (m : Mismatch) (action : RepairAction) : Pass :=
  { p with
    records := p.records ++ [⟨m, action⟩]
    diagnostics := if action.isReported then p.diagnostics.report m else p.diagnostics }

/-- The pass with another document, in which one more value is patched. -/
def patchedTo (p : Pass) (d : Document) : Pass :=
  { p with document := d, patched := p.patched + 1 }

/-- The pass with another document, in which one more node is replaced. -/
def replacedTo (p : Pass) (d : Document) : Pass :=
  { p with document := d, replaced := p.replaced + 1 }

/-- Puts a new node in the place of a live one. -/
def replace (p : Pass) (parent : NodeId) (n : VNode) (old : NodeId) : Except Refusal Pass := do
  let mounted ← p.document.attempt (p.document.mount n)
  let d ← mounted.1.attempt (mounted.1.replaceChild parent mounted.2 old)
  return p.replacedTo d

/-- A node is expected where another kind of node is found, or none. -/
def missing (o : HydrationOptions) (p : Pass) (parent : NodeId) (n : VNode)
    (found : Option NodeId) (path : List Nat) : Except Refusal Pass := do
  let m : Mismatch :=
    ⟨path, p.document.describe parent, .missing n.display (found.map p.document.describe)⟩
  let action := o.classify m
  if action = .replaceNode then
    match found with
    | some old => return (← p.replace parent n old).record m action
    | none =>
      let mounted ← p.document.attempt (p.document.mount n)
      let d ← mounted.1.attempt (mounted.1.appendChild parent mounted.2)
      return (p.replacedTo d).record m action
  else return p.record m action

/-- A node is found where none is expected. -/
def extra (o : HydrationOptions) (p : Pass) (parent id : NodeId) (path : List Nat) :
    Except Refusal Pass := do
  let m : Mismatch := ⟨path, p.document.describe parent, .extra (p.document.describe id)⟩
  let action := o.classify m
  if action = .replaceNode then
    let d ← p.document.attempt (p.document.removeChild parent id)
    return (p.replacedTo d).record m action
  else return p.record m action

/-- Live nodes behind the last expected one. -/
def extras (o : HydrationOptions) (parent : NodeId) (path : List Nat) (p : Pass) (index : Nat) :
    List NodeId → Except Refusal Pass
  | [] => .ok p
  | id :: rest => do
    let p ← p.extra o parent id (path ++ [index])
    extras o parent path p (index + 1) rest

/-- A text where a text is expected. -/
def walkText (o : HydrationOptions) (p : Pass) (parent : NodeId) (expected : String) (id : NodeId)
    (path : List Nat) : Except Refusal Pass := do
  let found := (p.document.data? id).getD ""
  if canonicalText found = canonicalText expected then return p
  let m : Mismatch := ⟨path, p.document.describe parent, .text expected found⟩
  let action := o.classify m
  match action with
  | .patchValue =>
    let d ← p.document.attempt (p.document.setText id expected)
    return (p.patchedTo d).record m action
  | .replaceNode => return (← p.replace parent (.text expected) id).record m action
  | .reportOnly | .ignore => return p.record m action

/-- The names of the attributes that are compared: the expected ones, then the others. -/
def comparedNames (expected found : OrderedMap String) : List String :=
  expected.keys ++ found.keys.filter fun name => !expected.contains name

/-- The attributes in which a live element differs from the expected one, and what is done about
each. -/
def attributeRecords (o : HydrationOptions) (d : Document) (tag : String)
    (expected : OrderedMap String) (id : NodeId) (path : List Nat) : List Record :=
  (comparedNames expected ((d.attributes? id).getD .empty)).filterMap fun name =>
    let want := expected.get? name
    let found := d.attribute? id name
    if sameAttribute name want found then none
    else
      let m : Mismatch := ⟨path, "<" ++ tag ++ ">", .attribute name want found⟩
      some ⟨m, o.classify m⟩

/-- Gives an attribute of a live element the value that is expected. -/
def patchAttribute (p : Pass) (id : NodeId) : Divergence → Except Refusal Pass
  | .attribute name (some value) _ => do
    return p.patchedTo (← p.document.attempt (p.document.setAttribute id name value))
  | .attribute name none _ => do
    return p.patchedTo (← p.document.attempt (p.document.removeAttribute id name)).1
  | _ => .ok p

/-- Records differing attributes, and patches those that are to be patched, unless the element is
to be replaced. -/
def repairAttributes (id : NodeId) (replace : Bool) (p : Pass) : List Record → Except Refusal Pass
  | [] => .ok p
  | r :: rest => do
    let p ← if r.action = .patchValue && !replace then p.patchAttribute id r.mismatch.divergence
      else .ok p
    repairAttributes id replace (p.record r.mismatch r.action) rest

mutual

/-- A live node where a node is expected. -/
def walkNode (o : HydrationOptions) (parent id : NodeId) (path : List Nat) (p : Pass) :
    VNode → Except Refusal Pass
  | .element tag attributes children =>
    if p.document.tag? id = some tag then do
      let records := attributeRecords o p.document tag attributes id path
      let replace := records.any fun r => r.action = .replaceNode
      let p ← repairAttributes id replace p records
      if replace then p.replace parent (.element tag attributes children) id
      else walkNodes o id path p 0 (p.document.liveChildren id) children
    else p.missing o parent (.element tag attributes children) (some id) path
  | .text s =>
    if (p.document.payload? id).any Payload.isText then p.walkText o parent s id path
    else p.missing o parent (.text s) (some id) path

/-- Live nodes and expected nodes side by side, from a position on. -/
def walkNodes (o : HydrationOptions) (parent : NodeId) (path : List Nat) (p : Pass) (index : Nat)
    (live : List NodeId) : List VNode → Except Refusal Pass
  | [] => extras o parent path p index live
  | n :: ns =>
    match live with
    | [] => do
      let p ← p.missing o parent n none (path ++ [index])
      walkNodes o parent path p (index + 1) [] ns
    | id :: rest => do
      let p ← walkNode o parent id (path ++ [index]) p n
      walkNodes o parent path p (index + 1) rest ns

end

/-- The whole of the live nodes below a root. -/
def walk (o : HydrationOptions) (d : Document) (root : NodeId) (expected : List VNode) :
    Except Refusal Pass :=
  walkNodes o root [] (start d) 0 (d.liveChildren root) expected

end Pass

/-! ### A whole pass -/

/-- How a pass ended. -/
inductive HydrationState where
  /-- Nothing was reported. -/
  | cleanFinish
  /-- Something was reported. -/
  | finishedWithMismatches
  deriving DecidableEq, Repr, Inhabited

/-- The name of a state. -/
def HydrationState.text : HydrationState → String
  | .cleanFinish => "CleanFinish"
  | .finishedWithMismatches => "FinishedWithMismatches"

/-- What a pass came to. -/
structure Report where
  /-- How the pass ended. -/
  state : HydrationState
  /-- The records in order, also of what was not reported. -/
  records : List Record
  /-- The messages in order. -/
  diagnostics : Diagnostics
  /-- The number of nodes put in, taken out or replaced. -/
  replaced : Nat
  /-- The number of values patched. -/
  patched : Nat
  deriving Repr, Inhabited

namespace Report

/-- The records that were reported. -/
def reported (r : Report) : List Record := r.records.filter fun record => record.action.isReported

/-- Whether nothing was reported. -/
def isClean (r : Report) : Bool := r.state == .cleanFinish

end Report

/-- The report of a pass that is over. -/
def Pass.report (p : Pass) : Report where
  state :=
    if p.records.any fun record => record.action.isReported then .finishedWithMismatches
    else .cleanFinish
  records := p.records
  diagnostics := p.diagnostics.finish
  replaced := p.replaced
  patched := p.patched

/-- The reasons why a pass does not start, or does not come to its end. -/
inductive HydrationError where
  /-- The program does not describe a tree. -/
  | wrongTarget (target : Target)
  /-- The root is not in the tree. -/
  | detachedRoot (id : NodeId)
  /-- The root may not have children. -/
  | invalidRoot (id : NodeId)
  /-- The program cannot be run. -/
  | render (reason : RenderError)
  /-- The document refuses. -/
  | dom (reason : DomError)
  deriving DecidableEq, Repr, Inhabited

/-- Why a pass does not start, in words. -/
def HydrationError.message : HydrationError → String
  | .wrongTarget target =>
    "hydration needs a client program, found a " ++ target.text ++ " program"
  | .detachedRoot id => "hydration root " ++ nodeName id ++ " is not attached to the document"
  | .invalidRoot id => "hydration root " ++ nodeName id ++ " is not an element or document"
  | .render reason => "failed to render expected tree: " ++ reason.message
  | .dom reason => "failed to repair live tree: " ++ reason.message

/-- Whether a pass can start at a node: it is known, may have children, and is in the tree. -/
def Document.checkRoot (d : Document) (root : NodeId) : Except HydrationError Unit :=
  match d.payload? root with
  | none => .error (.dom (.unknownNode root))
  | some payload =>
    if !payload.isContainer then .error (.invalidRoot root)
    else if !d.isAttached root then .error (.detachedRoot root)
    else .ok ()

/-- A pass over the nodes below a root, given the expected nodes: the document that it leaves, and
the report or the reason why there is none. -/
def hydrateNodesInPlace (o : HydrationOptions) (d : Document) (root : NodeId)
    (expected : List VNode) : Document × Except HydrationError Report :=
  match d.checkRoot root with
  | .error e => (d, .error e)
  | .ok _ =>
    match Pass.walk o d root expected with
    | .ok p => (p.document, .ok p.report)
    | .error refusal => (refusal.document, .error (.dom refusal.reason))

/-- The nodes that a program expects. -/
def expectedNodes (p : Program) (scope : Scope) : Except HydrationError (List VNode) :=
  if p.target = .client then (renderClient p scope).mapError .render
  else .error (.wrongTarget p.target)

/-- A pass over the nodes below a root, given a client program and its scope: the document that it
leaves, and the report or the reason why there is none. -/
def hydrateInPlace (o : HydrationOptions) (d : Document) (root : NodeId) (p : Program)
    (scope : Scope) : Document × Except HydrationError Report :=
  match expectedNodes p scope with
  | .error e => (d, .error e)
  | .ok expected => hydrateNodesInPlace o d root expected

/-- A pass over the nodes below a root, given the expected nodes: the document behind it, and the
report. -/
def hydrateNodes (o : HydrationOptions) (d : Document) (root : NodeId) (expected : List VNode) :
    Except HydrationError (Document × Report) :=
  let left := hydrateNodesInPlace o d root expected
  left.2.map fun report => (left.1, report)

/-- A pass over the nodes below a root, given a client program and its scope. -/
def hydrate (o : HydrationOptions) (d : Document) (root : NodeId) (p : Program) (scope : Scope) :
    Except HydrationError (Document × Report) :=
  let left := hydrateInPlace o d root p scope
  left.2.map fun report => (left.1, report)

end TwinRender
