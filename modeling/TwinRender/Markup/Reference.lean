import TwinRender.Markup.Reference.Table

/-!
# Character references

Text and attribute values hold references such as `&amp;` and `&#x27;`. A reference that is not
one stays as written. Some are read although they are flawed: numbers without a semicolon, old
names without one, numbers of characters that do not exist.

## Main definitions

* `Reading.ofReference` — the reference at the front of a text, behind its ampersand;
* `decode` — a text with its references replaced, and a mark where something was flawed;
* `decode_cons_of_ne` — a character other than the ampersand stands for itself.
-/

namespace TwinRender.Markup

/-- A piece of decoded text. -/
inductive Piece where
  /-- A character. -/
  | char (c : Char)
  /-- What follows was not written properly. -/
  | flaw
  deriving DecidableEq, Repr, Inhabited

/-- The outcome of reading a reference behind its ampersand. -/
structure Reading where
  /-- The characters the reference stands for. -/
  chars : List Char
  /-- Whether the reference is not written properly. -/
  flawed : Bool
  /-- How many characters behind the ampersand belong to it. -/
  consumed : Nat
  deriving DecidableEq, Repr, Inhabited

/-- The character put in place of one that cannot stand in a text. -/
def replacement : Char := '\ufffd'

/-- What the numbers from 128 to 159 stand for; zero where the number stands for itself. -/
def legacyControls : List Nat :=
  [0x20AC, 0, 0x201A, 0x192, 0x201E, 0x2026, 0x2020, 0x2021, 0x2C6, 0x2030, 0x160, 0x2039,
    0x152, 0, 0x17D, 0, 0, 0x2018, 0x2019, 0x201C, 0x201D, 0x2022, 0x2013, 0x2014, 0x2DC,
    0x2122, 0x161, 0x203A, 0x153, 0, 0x17E, 0x178]

/-- The character with a number, and whether referring to it is a flaw. -/
def numberedChar (n : Nat) : Char × Bool :=
  if 0x10FFFF < n || n == 0 || (0xD800 ≤ n && n ≤ 0xDFFF) then (replacement, true)
  else if 0x80 ≤ n && n ≤ 0x9F then
    let m := legacyControls.getD (n - 0x80) 0
    (Char.ofNat (if m = 0 then n else m), true)
  else
    (Char.ofNat n,
      n ≤ 0x8 || n == 0xB || (0xD ≤ n && n ≤ 0x1F) || n == 0x7F || (0xFDD0 ≤ n && n ≤ 0xFDEF) ||
        n % 0x10000 == 0xFFFE || n % 0x10000 == 0xFFFF)

/-- The value of a digit in base ten or sixteen. -/
def digitIn? (base : Nat) (c : Char) : Option Nat :=
  let n := c.toNat
  if 48 ≤ n ∧ n ≤ 57 then some (n - 48)
  else if base = 16 ∧ 97 ≤ n ∧ n ≤ 102 then some (n - 87)
  else if base = 16 ∧ 65 ≤ n ∧ n ≤ 70 then some (n - 55)
  else none

/-- ASCII letters and digits, which names are made of. -/
def isNamePart (c : Char) : Bool :=
  c.isAlphanum

namespace Reading

/-- No reference: the ampersand stands for itself. -/
def literal (flawed : Bool) : Reading := ⟨['&'], flawed, 0⟩

/-- A numeric reference behind `&#`. -/
def ofNumber (cs : List Char) : Reading :=
  let hexadecimal := cs.head? == some 'x' || cs.head? == some 'X'
  let base := if hexadecimal then 16 else 10
  let marker := if hexadecimal then 1 else 0
  let behind := cs.drop marker
  let digits := behind.takeWhile fun c => (digitIn? base c).isSome
  if digits.isEmpty then literal true
  else
    let n := digits.foldl (fun n c => base * n + (digitIn? base c).getD 0) 0
    let closed := (behind.drop digits.length).head? == some ';'
    let (c, bad) := numberedChar n
    ⟨[c], bad || !closed, 1 + marker + digits.length + if closed then 1 else 0⟩

/-- The longest old name that starts a text. -/
def legacyName? (cs : List Char) : Option String :=
  legacyNames.foldl (fun best name =>
    if name.toList.isPrefixOf cs && (best.map String.length).getD 0 < name.length then some name
    else best) none

/-- A named reference behind its ampersand. A name and a semicolon always count. An old name
without a semicolon counts in text; in an attribute value only when no letter, digit or equals
sign follows. -/
def ofName (inAttribute : Bool) (cs : List Char) : Reading :=
  let name := cs.takeWhile isNamePart
  let closed := (cs.drop name.length).head? == some ';'
  match if closed then characterNames.lookup (String.ofList name) else none with
  | some chars => ⟨chars.toList, false, name.length + 1⟩
  | none =>
    match legacyName? name with
    | none => literal (closed && !name.isEmpty)
    | some known =>
      let next := (cs.drop known.length).head?
      if inAttribute && next == some '=' then literal true
      else if inAttribute && next.any isNamePart then literal false
      else ⟨((characterNames.lookup known).getD "").toList, true, known.length⟩

/-- The reference at the front of a text, behind its ampersand. -/
def ofReference (inAttribute : Bool) (cs : List Char) : Reading :=
  match cs with
  | '#' :: rest => ofNumber rest
  | cs => ofName inAttribute cs

end Reading

/-- A text with its references replaced. -/
def decode (inAttribute : Bool) : List Char → List Piece
  | [] => []
  | c :: cs =>
    if c = '&' then
      let r := Reading.ofReference inAttribute cs
      (if r.flawed then [.flaw] else []) ++ r.chars.map .char ++
        decode inAttribute (cs.drop r.consumed)
    else .char c :: decode inAttribute cs
termination_by cs => cs.length
decreasing_by
  · simp only [List.length_cons, List.length_drop]; omega
  · simp

/-- A character other than the ampersand stands for itself. -/
theorem decode_cons_of_ne (inAttribute : Bool) {c : Char} (h : c ≠ '&') (cs : List Char) :
    decode inAttribute (c :: cs) = .char c :: decode inAttribute cs := by
  rw [decode, if_neg h]

/-- The characters of a decoded text. -/
def Piece.chars (pieces : List Piece) : List Char :=
  pieces.filterMap fun
    | .char c => some c
    | .flaw => none

/-- Whether any part of a decoded text was not written properly. -/
def Piece.flawed (pieces : List Piece) : Bool :=
  pieces.any (· == .flaw)

end TwinRender.Markup
