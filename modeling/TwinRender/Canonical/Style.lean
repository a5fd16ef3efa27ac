import TwinRender.Text.Space

/-!
# Styles

A style is a list of declarations. Two styles mean the same when they have the same declarations
in the same order, however they are spaced. A style is read by cutting it at the semicolons that
stand neither in quotes nor in parentheses; it is written with one space where space is needed.

## Main definitions

* `Style.Declaration` — a property, its value and its priority;
* `Style.parse` — the declarations of a style;
* `Style.normalize` — the style as it is written from its declarations.
-/

namespace TwinRender.Style

open Text (isSpace trim trimStart trimEnd)

/-- A declaration: a property, its value, and its priority mark as it was written. -/
structure Declaration where
  /-- The name of the property; in lower case unless it is a custom property. -/
  property : String
  /-- The value with single spaces, without the mark. -/
  value : String
  /-- The mark that puts the declaration before others, if there is one. -/
  priority : Option String
  deriving DecidableEq, Repr, Inhabited

/-! ### Cutting a style into declarations -/

/-- Where a reader of a style stands: in which quotes, and in how many parentheses. -/
structure Nesting where
  /-- The mark that ends the quotation, inside one. -/
  quote : Option Char
  /-- The number of open parentheses. -/
  depth : Nat
  deriving DecidableEq, Repr, Inhabited

namespace Nesting

/-- Outside of quotes and parentheses. -/
def outside : Nesting := ⟨none, 0⟩

/-- The nesting behind a character. Parentheses inside quotes do not count. -/
def step (n : Nesting) (c : Char) : Nesting :=
  match n.quote with
  | some q => if c = q then { n with quote := none } else n
  | none =>
    if c = '"' ∨ c = '\'' then { n with quote := some c }
    else if c = '(' then { n with depth := n.depth + 1 }
    else if c = ')' then { n with depth := n.depth - 1 }
    else n

/-- Whether a character ends a declaration here. -/
def separates (n : Nesting) (c : Char) : Bool :=
  n.quote.isNone && n.depth == 0 && c == ';'

/-- The nesting behind a text that is not cut. -/
def after (n : Nesting) (cs : List Char) : Nesting := cs.foldl step n

end Nesting

/-- The text up to the first separator, and the texts behind it. -/
def cut (n : Nesting) : List Char → List Char × List (List Char)
  | [] => ([], [])
  | c :: cs =>
    if n.separates c then
      let rest := cut n cs
      ([], rest.1 :: rest.2)
    else
      let rest := cut (n.step c) cs
      (c :: rest.1, rest.2)

/-- The texts between the separators of a style. -/
def split (cs : List Char) : List (List Char) :=
  let parts := cut .outside cs
  parts.1 :: parts.2

/-! ### Reading a declaration -/

/-- The text before and behind the first occurrence of a character. -/
def splitAtFirst (c : Char) : List Char → Option (List Char × List Char)
  | [] => none
  | d :: ds =>
    if d = c then some ([], ds) else (splitAtFirst c ds).map fun p => (d :: p.1, p.2)

/-- The text before and behind the last occurrence of a character. -/
def splitAtLast (c : Char) : List Char → Option (List Char × List Char)
  | [] => none
  | d :: ds =>
    match splitAtLast c ds with
    | some p => some (d :: p.1, p.2)
    | none => if d = c then some ([], ds) else none

/-- Text in which each run of space outside quotes is one space. A run at the end is left out;
`pending` says that a run has just been passed. -/
def collapseFrom (quote : Option Char) (pending : Bool) : List Char → List Char
  | [] => []
  | c :: cs =>
    match quote with
    | some q => c :: collapseFrom (if c = q then none else quote) pending cs
    | none =>
      if isSpace c then collapseFrom none true cs
      else
        let quote := if c = '"' ∨ c = '\'' then some c else none
        if pending then ' ' :: c :: collapseFrom quote false cs
        else c :: collapseFrom quote false cs

/-- Text without space at its ends, with single spaces outside quotes. -/
def collapse (cs : List Char) : List Char :=
  collapseFrom none false (trim cs)

/-- The one word that may stand behind an exclamation mark at the end of a value. -/
def isPriority (cs : List Char) : Bool :=
  cs.map Char.toLower == "important".toList

/-- A value without its priority mark, and the mark. -/
def splitPriority (cs : List Char) : List Char × Option (List Char) :=
  match splitAtLast '!' cs with
  | none => (cs, none)
  | some (before, behind) =>
    if isPriority (trim behind) then (trimEnd before, some ('!' :: trim behind)) else (cs, none)

/-- The name of a property: custom properties keep their case. -/
def propertyName (cs : List Char) : List Char :=
  match cs with
  | '-' :: '-' :: _ => cs
  | _ => cs.map Char.toLower

/-- The declaration that a text between separators stands for. Text without a colon is kept as a
property without value. -/
def readDeclaration (cs : List Char) : Declaration :=
  match splitAtFirst ':' cs with
  | none => ⟨String.ofList (collapse cs), "", none⟩
  | some (property, rest) =>
    let value := splitPriority rest
    ⟨String.ofList (propertyName (trim property)), String.ofList (collapse value.1),
      value.2.map String.ofList⟩

/-- The declarations of a style, in order. Empty ones are left out. -/
def parse (raw : String) : List Declaration :=
  (((split raw.toList).map trim).filter fun part => !part.isEmpty).map readDeclaration

/-! ### Writing a style -/

/-- A declaration as it is written. -/
def Declaration.text (d : Declaration) : String :=
  match d.priority with
  | none => if d.value.isEmpty then d.property else d.property ++ ": " ++ d.value
  | some mark =>
    if d.value.isEmpty then d.property ++ ": " ++ mark
    else d.property ++ ": " ++ d.value ++ " " ++ mark

/-- A list of declarations as it is written. -/
def render (ds : List Declaration) : String :=
  " ".intercalate (ds.map fun d => d.text ++ ";")

/-- The written form of a style. -/
def normalize (raw : String) : String :=
  render (parse raw)

end TwinRender.Style
