import TwinRender.Value.Printer

/-!
# Expressions

Expressions name parts of the data: an identifier, a member of what another expression names, or
a literal. They are small by design; whatever is richer is computed before rendering.

## Main definitions

* `Literal`, `Expression` — the expressions;
* `Expression.path` — the expression that a dotted path stands for;
* `Expression.text` — an expression as listings show it;
* `Expression.eval` — the value of an expression; what is missing is `null`.
-/

namespace TwinRender

/-- A literal value. -/
inductive Literal where
  /-- A string. -/
  | string (s : String)
  /-- A number. -/
  | number (n : Number)
  /-- A truth value. -/
  | bool (b : Bool)
  /-- The absent value. -/
  | null
  deriving DecidableEq, Repr, Inhabited

/-- The data value of a literal. -/
def Literal.value : Literal → Value
  | .string s => .string s
  | .number n => .number n
  | .bool b => .bool b
  | .null => .null

/-- A literal as listings show it: compact JSON. -/
def Literal.text (l : Literal) : String := l.value.compact

/-- An expression over the data. -/
inductive Expression where
  /-- The value that a name stands for. -/
  | identifier (name : String)
  /-- A member of the value of an expression. -/
  | member (object : Expression) (property : String)
  /-- A literal. -/
  | literal (value : Literal)
  deriving DecidableEq, Repr, Inhabited

namespace Expression

/-- The segments of a dotted path: the first one, and the ones behind dots. -/
def segments : List Char → List Char × List (List Char)
  | [] => ([], [])
  | c :: cs =>
    let rest := segments cs
    if c = '.' then ([], rest.1 :: rest.2) else (c :: rest.1, rest.2)

/-- The expression of a dotted path. Empty segments are names too. -/
def path (p : String) : Expression :=
  let parts := segments p.toList
  parts.2.foldl (fun e part => .member e (String.ofList part)) (.identifier (String.ofList parts.1))

/-- The name at the root of a chain of members. -/
def root? : Expression → Option String
  | .identifier name => some name
  | .member object _ => object.root?
  | .literal _ => none

/-- The literal that an expression is. -/
def literal? : Expression → Option Literal
  | .literal l => some l
  | _ => none

/-- An expression as listings show it. -/
def text : Expression → String
  | .identifier name => name
  | .member object property => object.text ++ "." ++ property
  | .literal l => l.text

/-- The value of an expression, given the values of names. -/
def eval (lookup : String → Value) : Expression → Value
  | .identifier name => lookup name
  | .member object property => (object.eval lookup).member property
  | .literal l => l.value

/-- Only the root name of an expression is looked up. -/
theorem eval_congr {e : Expression} {f g : String → Value}
    (h : ∀ name, e.root? = some name → f name = g name) : e.eval f = e.eval g := by
  induction e with
  | identifier name => exact h name rfl
  | member object property ih => simp only [eval, ih h]
  | literal l => rfl

end Expression

end TwinRender
