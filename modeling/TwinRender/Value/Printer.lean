import TwinRender.Decimal.Shortest
import TwinRender.Value

/-!
# The text of a value

Values are shown in two ways. Their compact form is JSON without spaces. As content, strings
stand for themselves and `null` for nothing, so that a template never shows quotes around text.

## Main definitions

* `Value.compact` — compact JSON;
* `Value.content` — the text a value renders as.
-/

namespace TwinRender

/-- Floating-point numbers are positional from `0.00001` up to sixteen digits, with a decimal
at all times, and have a signed exponent elsewhere. -/
def Number.layout : Decimal.Layout := ⟨-5, 16⟩

/-- The text of a number: integers as digits, others as the shortest decimal. -/
def Number.text : Number → String
  | .int n => toString n
  | .float bits => Number.layout.write bits

namespace Value

/-- The escape for a character inside a JSON string. -/
def jsonChar (c : Char) : List Char :=
  match c with
  | '"' => ['\\', '"']
  | '\\' => ['\\', '\\']
  | '\x08' => ['\\', 'b']
  | '\x0c' => ['\\', 'f']
  | '\n' => ['\\', 'n']
  | '\r' => ['\\', 'r']
  | '\t' => ['\\', 't']
  | c =>
    if c.toNat < 0x20 then
      ['\\', 'u', '0', '0', Nat.digitChar (c.toNat / 16), Nat.digitChar (c.toNat % 16)]
    else [c]

/-- A JSON string. Only quotes, backslashes and characters below the space are escaped. -/
def jsonString (s : String) : String :=
  String.ofList ('"' :: s.toList.flatMap jsonChar ++ ['"'])

mutual

/-- Compact JSON: no spaces, members in key order. -/
def compact : Value → String
  | .null => "null"
  | .bool b => if b then "true" else "false"
  | .number n => n.text
  | .string s => jsonString s
  | .array items => "[" ++ compactItems items ++ "]"
  | .object fields => "\x7b" ++ compactFields fields ++ "\x7d"

/-- The items of an array between commas. -/
def compactItems : List Value → String
  | [] => ""
  | [v] => compact v
  | v :: vs => compact v ++ "," ++ compactItems vs

/-- The members of an object between commas. -/
def compactFields : List (String × Value) → String
  | [] => ""
  | [(k, v)] => jsonString k ++ ":" ++ compact v
  | (k, v) :: fs => jsonString k ++ ":" ++ compact v ++ "," ++ compactFields fs

end

/-- The text a value renders as: nothing for `null`, strings as they are, JSON for the rest. -/
def content : Value → String
  | .null => ""
  | .string s => s
  | v => v.compact

end Value

end TwinRender
