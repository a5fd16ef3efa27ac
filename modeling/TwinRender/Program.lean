import TwinRender.Expression
import TwinRender.Text.Quoted

/-!
# Programs

A template is compiled to a flat list of instructions. An instruction of control owns the
instructions that follow it, and says how many. One program writes markup on the server, its twin
describes the tree that the client expects; they differ only in the helpers they import.

## Main definitions

* `Target`, `Source`, `Instruction`, `Helper`, `Program` — programs;
* `Instruction.text`, `Program.listing` — programs as they are shown.
-/

namespace TwinRender

open Text (quoted)

/-- What a program is for. -/
inductive Target where
  /-- Writing markup. -/
  | server
  /-- Describing the expected tree. -/
  | client
  deriving DecidableEq, Repr, Inhabited

/-- The name of a target. -/
def Target.text : Target → String
  | .server => "server"
  | .client => "client"

/-- Where a value or a text comes from. -/
inductive Source where
  /-- It was computed when the template was compiled. -/
  | fixed (value : String)
  /-- It is computed from the data. -/
  | computed (value : Expression)
  deriving DecidableEq, Repr, Inhabited

/-- A source as listings show it. -/
def Source.text : Source → String
  | .fixed value => quoted value
  | .computed e => "\x7b" ++ e.text ++ "\x7d"

/-- The source of an attribute; none stands for an attribute that is just present. -/
abbrev AttributeSource := Option Source

/-- The source of an attribute as listings show it. -/
def AttributeSource.text : AttributeSource → String
  | none => "present"
  | some source => source.text

/-- An instruction. -/
inductive Instruction where
  /-- An element begins. -/
  | openElement (tag : String)
  /-- The innermost element ends. -/
  | closeElement (tag : String)
  /-- The element that has just begun gets an attribute. -/
  | setAttribute (name : String) (source : AttributeSource)
  /-- The element that has just begun gets a style. -/
  | setStyle (source : AttributeSource)
  /-- The pending text grows. -/
  | bufferText (source : Source)
  /-- The pending text is given out. -/
  | yieldText
  /-- Content from outside, or else the next `fallback` instructions. -/
  | projectSlot (name : Option String) (fallback : Nat)
  /-- The next `consequent` instructions if the condition holds (or fails, when negated), or else
  the `alternate` instructions behind them. -/
  | branch (condition : Expression) (negated : Bool) (consequent alternate : Nat)
  /-- The next `body` instructions, once for each item of a collection. -/
  | iterate (collection : Expression) (item : String) (index : Option String) (body : Nat)
  deriving DecidableEq, Repr, Inhabited

namespace Instruction

/-- The number of instructions that an instruction owns. -/
def span : Instruction → Nat
  | .projectSlot _ fallback => fallback
  | .branch _ _ consequent alternate => consequent + alternate
  | .iterate _ _ _ body => body
  | _ => 0

/-- An instruction as listings show it. -/
def text : Instruction → String
  | .openElement tag => "open <" ++ tag ++ ">"
  | .closeElement tag => "close </" ++ tag ++ ">"
  | .setAttribute name source => "attr " ++ name ++ " = " ++ source.text
  | .setStyle source => "style " ++ source.text
  | .bufferText source => "buffer " ++ source.text
  | .yieldText => "yield"
  | .projectSlot name fallback =>
    "slot " ++ (name.map quoted).getD "default" ++ " (fallback +" ++ toString fallback ++ ")"
  | .branch condition negated consequent alternate =>
    "branch " ++ (if negated then "!" else "") ++ condition.text ++
      " (then +" ++ toString consequent ++ ", else +" ++ toString alternate ++ ")"
  | .iterate collection item index body =>
    "each " ++ collection.text ++ " as " ++ item ++ ((index.map (", " ++ ·)).getD "") ++
      " (+" ++ toString body ++ ")"

end Instruction

/-- The functions that a program needs when it runs. -/
inductive Helper where
  /-- Escaping of text and attribute values. -/
  | escape
  /-- The text of a value. -/
  | content
  /-- The canonical form of a style. -/
  | style
  /-- The canonical form of any other attribute. -/
  | attribute
  /-- Content from outside. -/
  | slot
  /-- Conditions. -/
  | branch
  /-- Loops. -/
  | each
  deriving DecidableEq, Repr, Inhabited

namespace Helper

/-- The name under which a helper is imported. -/
def name : Helper → String
  | .escape => "htmlEscape"
  | .content => "massageTextContent"
  | .style => "normalizeStyle"
  | .attribute => "normalizeAttribute"
  | .slot => "projectSlot"
  | .branch => "renderBranch"
  | .each => "renderEach"

/-- All helpers. -/
def all : List Helper := [.escape, .content, .style, .attribute, .slot, .branch, .each]

/-- The helper with a name. -/
def ofName? (name : String) : Option Helper :=
  all.find? fun h => h.name == name

/-- Helpers in the order of first use, after some more are used. -/
def union (used : List Helper) (more : List Helper) : List Helper :=
  more.foldl (fun acc h => if acc.contains h then acc else acc ++ [h]) used

end Helper

/-- A compiled template. -/
structure Program where
  /-- The name of the template. -/
  name : String
  /-- What the program is for. -/
  target : Target
  /-- The instructions in order. -/
  instructions : List Instruction
  /-- The helpers in order of first use. -/
  imports : List Helper
  deriving DecidableEq, Repr, Inhabited

namespace Program

/-- A line number, at least four digits wide. -/
def lineNumber (index : Nat) : String :=
  let digits := toString index
  String.ofList (List.replicate (4 - digits.length) '0') ++ digits

/-- The lines of a listing from an index on. An instruction is set in by the number of blocks that
it stands in, given the ends of the blocks. -/
def lines (index : Nat) (blocks : List Nat) : List Instruction → List String
  | [] => []
  | i :: rest =>
    let blocks := blocks.filter fun last => index < last
    let margin := String.ofList (List.replicate (2 * blocks.length) ' ')
    let inner := if 0 < i.span then blocks ++ [index + 1 + i.span] else blocks
    (lineNumber index ++ " " ++ margin ++ i.text) :: lines (index + 1) inner rest

/-- A program as it is shown: its name, target and imports, and its instructions line by line. -/
def listing (p : Program) : String :=
  let head := ["; " ++ p.name ++ " (" ++ p.target.text ++ ")",
    "; imports: " ++ ", ".intercalate (p.imports.map Helper.name)]
  String.join ((head ++ lines 0 [] p.instructions).map (· ++ "\n"))

end Program

end TwinRender
