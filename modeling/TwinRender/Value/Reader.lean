import TwinRender.Value

/-!
# Reading values

A JSON text is read over its list of characters. Every function returns what it read and what is
left; a fuel argument as long as the text bounds the nesting. A number without point and exponent
that fits into sixty-four bits, signed or not, is an integer, and every other number is the
nearest floating-point number; `-0` is the negative zero.

## Main definitions

* `Value.parse?` — the value of a JSON text.
-/

namespace TwinRender.Value

/-- The text after JSON white space. -/
def skipBlank (cs : List Char) : List Char :=
  cs.dropWhile fun c => c == ' ' || c == '\t' || c == '\n' || c == '\r'

/-- The value of a hexadecimal digit. -/
def hexDigit? (c : Char) : Option Nat :=
  let n := c.toNat
  if 48 ≤ n ∧ n ≤ 57 then some (n - 48)
  else if 97 ≤ n ∧ n ≤ 102 then some (n - 87)
  else if 65 ≤ n ∧ n ≤ 70 then some (n - 55)
  else none

/-- Four hexadecimal digits as a code unit. -/
def codeUnit? : List Char → Option (Nat × List Char)
  | a :: b :: c :: d :: rest => do
    let a ← hexDigit? a
    let b ← hexDigit? b
    let c ← hexDigit? c
    let d ← hexDigit? d
    return (((a * 16 + b) * 16 + c) * 16 + d, rest)
  | _ => none

/-- The character after `\u`: one code unit, or a surrogate pair. -/
def escapedChar? (cs : List Char) : Option (Char × List Char) := do
  let (high, rest) ← codeUnit? cs
  if 0xD800 ≤ high ∧ high < 0xDC00 then
    match rest with
    | '\\' :: 'u' :: rest =>
      let (low, rest) ← codeUnit? rest
      if 0xDC00 ≤ low ∧ low < 0xE000 then
        some (Char.ofNat (0x10000 + (high - 0xD800) * 0x400 + (low - 0xDC00)), rest)
      else none
    | _ => none
  else if 0xDC00 ≤ high ∧ high < 0xE000 then none
  else some (Char.ofNat high, rest)

/-- The rest of a string after its opening quote, given the characters read so far in reverse. -/
def readString (fuel : Nat) (acc : List Char) (cs : List Char) : Option (String × List Char) :=
  match fuel, cs with
  | 0, _ | _, [] => none
  | fuel + 1, c :: rest =>
    match c with
    | '"' => some (String.ofList acc.reverse, rest)
    | '\\' =>
      match rest with
      | 'u' :: rest => do
        let (c, rest) ← escapedChar? rest
        readString fuel (c :: acc) rest
      | e :: rest =>
        match e with
        | '"' | '\\' | '/' => readString fuel (e :: acc) rest
        | 'b' => readString fuel ('\x08' :: acc) rest
        | 'f' => readString fuel ('\x0c' :: acc) rest
        | 'n' => readString fuel ('\n' :: acc) rest
        | 'r' => readString fuel ('\r' :: acc) rest
        | 't' => readString fuel ('\t' :: acc) rest
        | _ => none
      | [] => none
    | c => if c.toNat < 0x20 then none else readString fuel (c :: acc) rest

/-- The number that a list of decimal digits stands for. -/
def digitsValue (digits : List Char) : Nat :=
  digits.foldl (fun n c => 10 * n + (c.toNat - 48)) 0

/-- The number with the given sign, digits before and after the point, and exponent; `plain`
holds when it was written without point and exponent. -/
def numberOf (negative plain : Bool) (whole fraction : List Char) (exponent : Int) : Number :=
  let n := digitsValue whole
  if plain && !negative && n < UInt64.size then .int n
  else if plain && negative && 0 < n && 2 * n ≤ UInt64.size then .int (-n)
  else
    let digits := digitsValue (whole ++ fraction)
    let e := exponent - fraction.length
    let magnitude := Float.ofScientific digits (e < 0) e.natAbs
    .float (if negative then -magnitude else magnitude).toBits

/-- A number: an optional minus sign, digits, and optionally a fraction and an exponent. -/
def readNumber? (cs : List Char) : Option (Number × List Char) := do
  let (negative, cs) := match cs with
    | '-' :: rest => (true, rest)
    | _ => (false, cs)
  let whole := cs.takeWhile Char.isDigit
  let cs := cs.dropWhile Char.isDigit
  if whole.isEmpty || (1 < whole.length && whole.head? == some '0') then none
  let (fraction, afterFraction) := match cs with
    | '.' :: rest => (rest.takeWhile Char.isDigit, rest.dropWhile Char.isDigit)
    | _ => ([], cs)
  if cs.head? == some '.' && fraction.isEmpty then none
  match afterFraction with
  | e :: rest =>
    if e == 'e' || e == 'E' then
      let (down, rest) := match rest with
        | '-' :: rest => (true, rest)
        | '+' :: rest => (false, rest)
        | _ => (false, rest)
      let digits := rest.takeWhile Char.isDigit
      if digits.isEmpty then none
      let size : Int := digitsValue digits
      some (numberOf negative false whole fraction (if down then -size else size),
        rest.dropWhile Char.isDigit)
    else some (numberOf negative (cs.head? != some '.') whole fraction 0, afterFraction)
  | [] => some (numberOf negative (cs.head? != some '.') whole fraction 0, afterFraction)

mutual

/-- One value, with white space allowed before it. -/
def readValue (fuel : Nat) (cs : List Char) : Option (Value × List Char) :=
  match fuel with
  | 0 => none
  | fuel + 1 =>
    match skipBlank cs with
    | 'n' :: 'u' :: 'l' :: 'l' :: rest => some (.null, rest)
    | 't' :: 'r' :: 'u' :: 'e' :: rest => some (.bool true, rest)
    | 'f' :: 'a' :: 'l' :: 's' :: 'e' :: rest => some (.bool false, rest)
    | '"' :: rest => do
      let (s, rest) ← readString (rest.length + 1) [] rest
      return (.string s, rest)
    | '[' :: rest =>
      match skipBlank rest with
      | ']' :: rest => some (.array [], rest)
      | rest => do
        let (items, rest) ← readItems fuel rest
        return (.array items, rest)
    | '\x7b' :: rest =>
      match skipBlank rest with
      | '\x7d' :: rest => some (.object [], rest)
      | rest => do
        let (fields, rest) ← readFields fuel rest
        return (.ofFields fields, rest)
    | rest => do
      let (n, rest) ← readNumber? rest
      return (.number n, rest)

/-- The items of an array up to its closing bracket. -/
def readItems (fuel : Nat) (cs : List Char) : Option (List Value × List Char) :=
  match fuel with
  | 0 => none
  | fuel + 1 => do
    let (v, rest) ← readValue fuel cs
    match skipBlank rest with
    | ',' :: rest =>
      let (vs, rest) ← readItems fuel rest
      return (v :: vs, rest)
    | ']' :: rest => return ([v], rest)
    | _ => none

/-- The members of an object up to its closing brace. -/
def readFields (fuel : Nat) (cs : List Char) : Option (List (String × Value) × List Char) :=
  match fuel with
  | 0 => none
  | fuel + 1 =>
    match skipBlank cs with
    | '"' :: rest => do
      let (key, rest) ← readString (rest.length + 1) [] rest
      match skipBlank rest with
      | ':' :: rest =>
        let (v, rest) ← readValue fuel rest
        match skipBlank rest with
        | ',' :: rest =>
          let (fs, rest) ← readFields fuel rest
          return ((key, v) :: fs, rest)
        | '\x7d' :: rest => return ([(key, v)], rest)
        | _ => none
      | _ => none
    | _ => none

end

/-- The value of a text that holds one JSON value and white space around it. -/
def parse? (text : String) : Option Value := do
  let cs := text.toList
  let (v, rest) ← readValue (2 * cs.length + 2) cs
  if (skipBlank rest).isEmpty then some v else none

end TwinRender.Value
