import TwinRender.Canonical.Attribute
import TwinRender.OrderedMap
import TwinRender.Program

/-!
# Running programs

A program is run in three steps. The flat list of instructions is read into steps with their
bodies; a body that does not fit is a step of its own, which fails when it is reached. The steps
are then run on the data, and what they produce is a list of events: elements begin and end, get
attributes, and texts are given out. Last, the events are turned into markup or into a tree, in
modules of their own.

Content from outside is run with the data alone: bindings of loops are not visible in it, and it
has no slots.

## Main definitions

* `Step`, `Step.ofInstructions` — the instructions as a tree;
* `Event`, `Run` — what running produces;
* `Scope` — the data and the content from outside;
* `runSteps`, `Program.run` — running steps and programs.
-/

namespace TwinRender

/-- A program that cannot be run to its end. -/
inductive RenderError where
  /-- The program was compiled for something else. -/
  | wrongTarget (expected found : Target)
  /-- A loop runs over something that is neither an array nor absent. -/
  | notIterable (expression : String) (found : String)
  /-- An instruction owns more instructions than its block has left. -/
  | malformedProgram (index : Nat)
  /-- An element ends that is not the innermost one, or does not end. -/
  | unbalancedClose (tag : String)
  deriving DecidableEq, Repr, Inhabited

/-- The reason of a failure, in words. -/
def RenderError.message : RenderError → String
  | .wrongTarget expected found =>
    "program compiled for " ++ found.text ++ " cannot run on the " ++ expected.text ++ " renderer"
  | .notIterable expression found =>
    "cannot iterate over " ++ expression ++ ": value is " ++ found
  | .malformedProgram index =>
    "instruction " ++ toString index ++ " spans past the end of its block"
  | .unbalancedClose tag => "unbalanced </" ++ tag ++ ">"

/-! ### The instructions as a tree -/

/-- An instruction with its bodies. -/
inductive Step where
  /-- An element begins. -/
  | openElement (tag : String)
  /-- The innermost element ends. -/
  | closeElement (tag : String)
  /-- The element that has just begun gets an attribute. -/
  | attribute (name : String) (source : AttributeSource)
  /-- The pending text grows. -/
  | buffer (source : Source)
  /-- The pending text is given out. -/
  | flush
  /-- Content from outside, or else the fallback. -/
  | slot (name : Option String) (fallback : List Step)
  /-- One of two bodies. -/
  | branch (condition : Expression) (negated : Bool) (consequent alternate : List Step)
  /-- A body for each item of a collection. -/
  | each (collection : Expression) (item : String) (index : Option String) (body : List Step)
  /-- The instruction at this index owns more instructions than there are. -/
  | malformed (index : Nat)
  deriving Repr, Inhabited

/-- The first `n` of some instructions and the ones behind them, if there are that many. -/
def splitBlock? (n : Nat) (instructions : List Instruction) :
    Option (List Instruction × List Instruction) :=
  if n ≤ instructions.length then some (instructions.take n, instructions.drop n) else none

/-- The parts of a block are no longer than the block. -/
theorem length_of_splitBlock? {n : Nat} {instructions body rest : List Instruction}
    (h : splitBlock? n instructions = some (body, rest)) :
    body.length ≤ instructions.length ∧ rest.length ≤ instructions.length := by
  simp only [splitBlock?] at h
  split at h
  · obtain ⟨rfl, rfl⟩ := by simpa using h
    rw [List.length_take, List.length_drop]
    exact ⟨Nat.min_le_right .., Nat.sub_le ..⟩
  · simp at h

/-- The steps of a block whose first instruction has the given index. -/
def Step.ofInstructions (index : Nat) (instructions : List Instruction) : List Step :=
  match instructions with
  | [] => []
  | .openElement tag :: rest => .openElement tag :: ofInstructions (index + 1) rest
  | .closeElement tag :: rest => .closeElement tag :: ofInstructions (index + 1) rest
  | .setAttribute name source :: rest => .attribute name source :: ofInstructions (index + 1) rest
  | .setStyle source :: rest => .attribute "style" source :: ofInstructions (index + 1) rest
  | .bufferText source :: rest => .buffer source :: ofInstructions (index + 1) rest
  | .yieldText :: rest => .flush :: ofInstructions (index + 1) rest
  | .projectSlot name n :: rest =>
    match h : splitBlock? n rest with
    | none => [.malformed index]
    | some (fallback, behind) =>
      have := length_of_splitBlock? h
      .slot name (ofInstructions (index + 1) fallback) :: ofInstructions (index + 1 + n) behind
  | .branch condition negated m n :: rest =>
    match h : splitBlock? m rest with
    | none => [.malformed index]
    | some (consequent, others) =>
      match h' : splitBlock? n others with
      | none => [.malformed index]
      | some (alternate, behind) =>
        have := length_of_splitBlock? h
        have := length_of_splitBlock? h'
        .branch condition negated (ofInstructions (index + 1) consequent)
            (ofInstructions (index + 1 + m) alternate) ::
          ofInstructions (index + 1 + m + n) behind
  | .iterate collection item position n :: rest =>
    match h : splitBlock? n rest with
    | none => [.malformed index]
    | some (body, behind) =>
      have := length_of_splitBlock? h
      .each collection item position (ofInstructions (index + 1) body) ::
        ofInstructions (index + 1 + n) behind
termination_by instructions.length
decreasing_by all_goals (simp_wf; try omega)

/-! ### Events -/

/-- What a program produces. -/
inductive Event where
  /-- An element begins. -/
  | openElement (tag : String)
  /-- The element that has just begun gets an attribute. -/
  | attribute (name value : String)
  /-- The innermost element ends. -/
  | closeElement (tag : String)
  /-- A run of text, perhaps empty. -/
  | text (text : String)
  deriving DecidableEq, Repr, Inhabited

/-- What running a part of a program comes to: the events in order, and the text that is pending
behind it, or the reason why it failed. -/
structure Run where
  /-- The events in order. -/
  events : List Event
  /-- The pending text, or the failure. -/
  state : Except RenderError String

namespace Run

/-- Nothing happened. -/
def idle (pending : String) : Run := ⟨[], .ok pending⟩

/-- A failure. -/
def failed (e : RenderError) : Run := ⟨[], .error e⟩

/-- A part behind another. Nothing is run behind a failure. -/
def andThen (r : Run) (next : String → Run) : Run :=
  match r.state with
  | .error _ => r
  | .ok pending =>
    let rest := next pending
    ⟨r.events ++ rest.events, rest.state⟩

/-- A part that is run for one item after another. -/
def forEach {α : Type} (body : α → String → Run) : List α → String → Run
  | [], pending => idle pending
  | a :: rest, pending => (body a pending).andThen (forEach body rest)

end Run

/-! ### Scopes -/

/-- Content from outside, compiled for both targets. -/
structure SlotContent where
  /-- The instructions that write markup. -/
  server : Program
  /-- The instructions that describe the tree. -/
  client : Program
  deriving Repr, Inhabited

/-- The program for a target. -/
def SlotContent.program (c : SlotContent) : Target → Program
  | .server => c.server
  | .client => c.client

/-- The data, and the content from outside by the name of its slot; the slot without a name has the
empty one. -/
structure Scope where
  /-- The data. -/
  data : Value
  /-- The content for slots. -/
  slots : OrderedMap SlotContent
  deriving Repr

namespace Scope

/-- Data without content for slots. -/
def ofData (data : Value) : Scope := ⟨data, .empty⟩

instance : Inhabited Scope := ⟨ofData .null⟩

/-- The scope with content for a slot. -/
def withSlot (s : Scope) (name : Option String) (content : SlotContent) : Scope :=
  { s with slots := s.slots.insert (name.getD "") content }

/-- The content for a slot. -/
def slot? (s : Scope) (name : Option String) : Option SlotContent :=
  s.slots.get? (name.getD "")

end Scope

/-- What the steps of a program are run with. -/
structure Environment where
  /-- The data. -/
  data : Value
  /-- The names bound by loops, innermost first. -/
  bindings : List (String × Value)
  /-- What running the content for a slot comes to. -/
  project : Option String → Option Run

namespace Environment

/-- The value of a name: bound by the innermost loop that binds it, or a member of the data. -/
def lookup (env : Environment) (name : String) : Value :=
  match env.bindings.lookup name with
  | some v => v
  | none => (env.data.field? name).getD .null

/-- The value of an expression. -/
def eval (env : Environment) (e : Expression) : Value := e.eval env.lookup

/-- The environment of the body of a loop, for one item. The name of the item comes before the name
of the position. -/
def bind (env : Environment) (item : String) (index : Option String) (value : Value)
    (position : Nat) : Environment :=
  let positions := match index with
    | none => []
    | some name => [(name, Value.ofNat position)]
  { env with bindings := (item, value) :: positions ++ env.bindings }

end Environment

/-! ### Running -/

/-- The text of a source. -/
def Source.content (env : Environment) : Source → String
  | .fixed text => text
  | .computed e => (env.eval e).content

/-- The value of an attribute; none if it is absent. -/
def AttributeSource.value (env : Environment) (name : String) : AttributeSource → Option String
  | none => some ""
  | some (.fixed value) => some value
  | some (.computed e) => canonicalAttribute name (attributeOfValue name (env.eval e))

/-- The items that a loop runs over; `null` has none. -/
def itemsOf (collection : Expression) : Value → Except RenderError (List Value)
  | .array items => .ok items
  | .null => .ok []
  | v => .error (.notIterable collection.text v.kindName)

mutual

/-- A step, run with the text that is pending before it. -/
def runStep (env : Environment) (pending : String) : Step → Run
  | .openElement tag => ⟨[.openElement tag], .ok pending⟩
  | .closeElement tag => ⟨[.closeElement tag], .ok pending⟩
  | .attribute name source =>
    match source.value env name with
    | none => .idle pending
    | some value => ⟨[.attribute name value], .ok pending⟩
  | .buffer source => .idle (pending ++ source.content env)
  | .flush => ⟨[.text pending], .ok ""⟩
  | .slot name fallback =>
    match env.project name with
    | some projected => ⟨projected.events, projected.state.map fun _ => pending⟩
    | none => runSteps env pending fallback
  | .branch condition negated consequent alternate =>
    if (env.eval condition).truthy != negated then runSteps env pending consequent
    else runSteps env pending alternate
  | .each collection item index body =>
    match itemsOf collection (env.eval collection) with
    | .error e => .failed e
    | .ok items =>
      Run.forEach (fun entry pending => runSteps (env.bind item index entry.1 entry.2) pending body)
        items.zipIdx pending
  | .malformed index => .failed (.malformedProgram index)

/-- Steps, run one behind the other. -/
def runSteps (env : Environment) (pending : String) : List Step → Run
  | [] => .idle pending
  | s :: rest => (runStep env pending s).andThen fun pending => runSteps env pending rest

end

namespace Program

/-- The steps of a program. -/
def steps (p : Program) : List Step := Step.ofInstructions 0 p.instructions

/-- Running content from outside: with the data alone. -/
def runProjected (p : Program) (data : Value) : Run :=
  runSteps ⟨data, [], fun _ => none⟩ "" p.steps

/-- Running a program for a target. -/
def run (p : Program) (target : Target) (scope : Scope) : Run :=
  if p.target = target then
    runSteps ⟨scope.data, [], fun name =>
      (scope.slot? name).map fun content => (content.program target).runProjected scope.data⟩
      "" p.steps
  else .failed (.wrongTarget target p.target)

end Program

end TwinRender
