import TwinRender.Render.Stream
import TwinRender.Render.Tree

/-!
# Programs run in place

A program is run without reading it into a tree first. A block is a part of the instructions, given
with the index of its first one, and is run with a cursor that counts from there. All places and
lengths are machine words. An instruction that owns others cuts its bodies out of its own block, and
is refused if they are not there, before anything else is looked at; what it runs is pushed on the
callers, which say how to go on behind it. What comes out goes to a visitor, event by event.

## Main definitions

* `Visitor` — what a renderer does with events;
* `checkedAdd`, `part?`, `Activation.split` — cutting bodies out of a block;
* `Activation`, `Interpreter`, `Caller`, `Config` — a program that is being run;
* `Config.next` — one step of it.
-/

namespace TwinRender

/-- What a renderer does with events, one after the other. -/
structure Visitor (σ : Type) where
  /-- What it begins with. -/
  start : σ
  /-- What it makes of one more event. -/
  visit : σ → Event → Except RenderError σ

namespace Visitor

/-- The writer of markup, with what it has written. -/
def markup : Visitor (Writer × List Piece) where
  start := (.start, [])
  visit s e := (s.1.step e).map fun next => (next.1, s.2 ++ next.2)

/-- The builder of trees. -/
def tree : Visitor TreeBuilder := ⟨.empty, TreeBuilder.step⟩

end Visitor

/-! ### Blocks -/

/-- The sum of two words, if it is one. -/
def checkedAdd (a b : UInt64) : Option UInt64 :=
  if a.toNat + b.toNat < UInt64.size then some (a + b) else none

/-- The instructions from one place of a block to another, if these are places of it in order. -/
def part? (block : List Instruction) (first last : UInt64) : Option (List Instruction) :=
  if first ≤ last ∧ last.toNat ≤ block.length then
    some ((block.take last.toNat).drop first.toNat)
  else none

/-- A block that is being run. -/
structure Activation where
  /-- Its instructions. -/
  block : List Instruction
  /-- The index of the first one in the program. -/
  offset : UInt64
  /-- The place in the block, counted from its first instruction. -/
  cursor : UInt64
  deriving Repr

namespace Activation

/-- A block before its first instruction. -/
def ofProgram (instructions : List Instruction) : Activation := ⟨instructions, 0, 0⟩

/-- The instruction that comes next. -/
def instruction? (a : Activation) : Option Instruction := a.block[a.cursor.toNat]?

/-- The index in the program of the instruction that comes next. -/
def index (a : Activation) : UInt64 := a.offset + a.cursor

/-- The block with some instructions passed over. -/
def advance (a : Activation) (n : UInt64) : Activation := { a with cursor := a.cursor + n }

/-- The next `n` instructions as a block of their own, and the block behind them. The instruction at
`index` owns them. -/
def split (a : Activation) (n index : UInt64) : Except RenderError (Activation × Activation) :=
  match (checkedAdd a.cursor n).bind (part? a.block a.cursor) with
  | some body => .ok (⟨body, a.offset + a.cursor, 0⟩, a.advance (.ofNat body.length))
  | none => .error (.malformedProgram index.toNat)

end Activation

/-! ### Programs that are being run -/

/-- What the instructions of a program are run with. Content from outside has its own. -/
structure Interpreter where
  /-- The instructions of the program. -/
  program : List Instruction
  /-- Whether content is projected into slots. -/
  slots : Bool
  /-- The bindings of the loops that are being run, innermost first. -/
  frames : List (List (String × Value))
  /-- The pending text. -/
  buffer : String

namespace Interpreter

/-- The bindings of a loop for one item and its position. -/
def frame (item : String) (index : Option String) (entry : Value × Nat) : List (String × Value) :=
  (item, entry.1) :: (index.map fun name => (name, Value.ofNat entry.2)).toList

/-- The values of names. -/
def names (i : Interpreter) (scope : Scope) : Environment :=
  ⟨scope.data, i.frames.flatten, fun _ => none⟩

/-- The content that is projected into a slot. -/
def content? (i : Interpreter) (scope : Scope) (name : Option String) : Option SlotContent :=
  if i.slots then scope.slot? name else none

/-- The interpreter in the body of a loop. -/
def push (i : Interpreter) (bindings : List (String × Value)) : Interpreter :=
  { i with frames := bindings :: i.frames }

/-- The interpreter behind the body of a loop. -/
def pop (i : Interpreter) : Interpreter := { i with frames := i.frames.tail }

end Interpreter

/-- How a program goes on when a block has been run. -/
inductive Caller where
  /-- With the block around it. -/
  | block (behind : Activation)
  /-- With the next item of a loop, or with the block around the loop. -/
  | loop (body behind : Activation) (item : String) (index : Option String)
    (rest : List (Value × Nat))
  /-- With the program into which the content was projected. -/
  | content (behind : Activation) (outer : Interpreter)

/-- A program that is being run. -/
structure Config (σ : Type) where
  /-- The block that is being run. -/
  active : Activation
  /-- What it is run with. -/
  interpreter : Interpreter
  /-- How the program goes on behind it, innermost first. -/
  callers : List Caller
  /-- What the visitor has come to. -/
  visitor : σ

namespace Config

variable {σ : Type}

/-- A program before it is run. -/
def start (v : Visitor σ) (p : Program) : Config σ :=
  ⟨.ofProgram p.instructions, ⟨p.instructions, true, [], ""⟩, [], v.start⟩

/-- The program with its next instruction passed over. -/
def passed (c : Config σ) : Config σ := { c with active := c.active.advance 1 }

/-- The program with a block begun, and how it goes on behind it. -/
def enter (c : Config σ) (body behind : Activation) : Config σ :=
  { c with active := body, callers := .block behind :: c.callers }

/-- The program with content from outside begun: without bindings, pending text and slots. -/
def project (c : Config σ) (instructions : List Instruction) (behind : Activation) : Config σ :=
  { c with
    active := .ofProgram instructions
    interpreter := ⟨instructions, false, [], ""⟩
    callers := .content behind c.interpreter :: c.callers }

/-- The program with a loop that comes to its next item, or ends. -/
def iterate (c : Config σ) (body behind : Activation) (item : String) (index : Option String) :
    List (Value × Nat) → Config σ
  | [] => { c with active := behind }
  | entry :: rest =>
    { c with
      active := body
      interpreter := c.interpreter.push (Interpreter.frame item index entry)
      callers := .loop body behind item index rest :: c.callers }

/-- The program behind a block that has been run; none if it was the whole program. -/
def leave (c : Config σ) : Option (Config σ) :=
  match c.callers with
  | [] => none
  | .block behind :: callers => some { c with active := behind, callers := callers }
  | .loop body behind item index rest :: callers =>
    some (iterate { c with interpreter := c.interpreter.pop, callers := callers } body behind item
      index rest)
  | .content behind outer :: callers =>
    some { c with active := behind, interpreter := outer, callers := callers }

/-- The program with one more event given to the visitor. -/
def emit (v : Visitor σ) (c : Config σ) (e : Event) : Except RenderError (Config σ) := do
  return { c with visitor := ← v.visit c.visitor e }

/-- The program with an attribute given to the visitor, unless it is absent. -/
def emitAttribute (v : Visitor σ) (scope : Scope) (c : Config σ) (name : String)
    (source : AttributeSource) : Except RenderError (Config σ) :=
  match source.value (c.interpreter.names scope) name with
  | some value => c.emit v (.attribute name value)
  | none => .ok c

/-- The program behind an instruction at an index, with the cursor behind it already. -/
def execute (v : Visitor σ) (target : Target) (scope : Scope) (c : Config σ) (index : UInt64) :
    Instruction → Except RenderError (Config σ)
  | .openElement tag => c.emit v (.openElement tag)
  | .closeElement tag => c.emit v (.closeElement tag)
  | .setAttribute name source => c.emitAttribute v scope name source
  | .setStyle source => c.emitAttribute v scope "style" source
  | .bufferText source =>
    let text := source.content (c.interpreter.names scope)
    .ok { c with interpreter := { c.interpreter with buffer := c.interpreter.buffer ++ text } }
  | .yieldText =>
    emit v { c with interpreter := { c.interpreter with buffer := "" } }
      (.text c.interpreter.buffer)
  | .projectSlot name n => do
    let (fallback, behind) ← c.active.split (.ofNat n) index
    match c.interpreter.content? scope name with
    | some content => return c.project (content.program target).instructions behind
    | none => return c.enter fallback behind
  | .branch condition negated m n => do
    let (consequent, between) ← c.active.split (.ofNat m) index
    let (alternate, behind) ← between.split (.ofNat n) index
    if ((c.interpreter.names scope).eval condition).truthy != negated then
      return c.enter consequent behind
    else return c.enter alternate behind
  | .iterate collection item position n => do
    let (body, behind) ← c.active.split (.ofNat n) index
    let items ← itemsOf collection ((c.interpreter.names scope).eval collection)
    return c.iterate body behind item position items.zipIdx

/-- One step of a program: its next instruction, or the way out of its block. Nothing comes behind a
program that has been run. -/
def next (v : Visitor σ) (target : Target) (scope : Scope) (c : Config σ) :
    Except RenderError (Option (Config σ)) :=
  match c.active.instruction? with
  | none => .ok c.leave
  | some i => (execute v target scope c.passed c.active.index i).map some

end Config

end TwinRender
