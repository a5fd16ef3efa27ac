import TwinRender.Text.Shown

/-!
# Quoted strings

Listings, messages and outlines show strings between double quotes. Quotes and backslashes get a
backslash, the usual control characters a letter, and every other character that does not show
its code point in braces.

## Main definitions

* `quoted` — a string as it is shown in messages.
-/

namespace TwinRender.Text

/-- The digits of a code point, lowercase and without padding. -/
def codePointDigits (c : Char) : List Char :=
  Nat.toDigits 16 c.toNat

/-- The form of one character between double quotes. -/
def quotedChar (c : Char) : List Char :=
  match c with
  | '"' => ['\\', '"']
  | '\\' => ['\\', '\\']
  | '\x00' => ['\\', '0']
  | '\t' => ['\\', 't']
  | '\n' => ['\\', 'n']
  | '\r' => ['\\', 'r']
  | c => if isShown c then [c] else ['\\', 'u', '\x7b'] ++ codePointDigits c ++ ['\x7d']

/-- A string between double quotes, with everything that does not show written out. -/
def quoted (s : String) : String :=
  String.ofList ('"' :: s.toList.flatMap quotedChar ++ ['"'])

end TwinRender.Text
