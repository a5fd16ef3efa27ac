import TwinRender.Setting.Assembly
import TwinRender.Value.Reader

/-!
# Reading configuration files

Configuration files are written in TOML: line by line a header or a pair, with comments behind
them. Every function returns what it read and what is left. Numbers and dates are no settings of
any kind here, but they must be written properly all the same.

## Main definitions

* `Setting.value` — one value;
* `Setting.statements` — the statements of a file;
* `Setting.parse?` — the settings of a file.
-/

namespace TwinRender.Setting

open Value (hexDigit? digitsValue)

/-! ### Space and comments -/

/-- The text behind spaces and tabs. -/
def skipSpace (cs : List Char) : List Char := cs.dropWhile fun c => c == ' ' || c == '\t'

/-- The text behind the end of a line. -/
def newline? : List Char → Option (List Char)
  | '\n' :: rest => some rest
  | '\r' :: '\n' :: rest => some rest
  | _ => none

/-- A character that may stand in a comment or in a text without escapes. -/
def isPlain (c : Char) : Bool :=
  let n := c.toNat
  n == 9 || (0x20 ≤ n && n != 0x7f)

/-- The text behind a comment, if there is one. -/
def skipComment : List Char → List Char
  | '#' :: rest => rest.dropWhile isPlain
  | cs => cs

/-- The text behind the end of a line, with space and a comment before it. -/
def endLine? (cs : List Char) : Option (List Char) :=
  match skipComment (skipSpace cs) with
  | [] => some []
  | rest => newline? rest

/-- The text behind space, comments and ends of lines. -/
def skipLines : Nat → List Char → List Char
  | 0, cs => cs
  | fuel + 1, cs =>
    match newline? (skipComment (skipSpace cs)) with
    | some rest => skipLines fuel rest
    | none => skipSpace cs

/-- The text behind space, comments and ends of lines. -/
def skipBlankLines (cs : List Char) : List Char := skipLines (cs.length + 1) cs

/-! ### Texts -/

/-- The character with a code point in hexadecimal digits. -/
def codePoint? (digits : List Char) : Option Char := do
  let values ← digits.mapM hexDigit?
  let n := values.foldl (fun n d => 16 * n + d) 0
  if n < 0xD800 || (0xE000 ≤ n && n < 0x110000) then some (Char.ofNat n) else none

/-- The character that an escape stands for, behind its backslash. -/
def escaped? : List Char → Option (Char × List Char)
  | 'b' :: rest => some ('\x08', rest)
  | 't' :: rest => some ('\t', rest)
  | 'n' :: rest => some ('\n', rest)
  | 'f' :: rest => some ('\x0c', rest)
  | 'r' :: rest => some ('\r', rest)
  | '"' :: rest => some ('"', rest)
  | '\\' :: rest => some ('\\', rest)
  | 'u' :: rest =>
    if rest.length < 4 then none
    else (codePoint? (rest.take 4)).map fun c => (c, rest.drop 4)
  | 'U' :: rest =>
    if rest.length < 8 then none
    else (codePoint? (rest.take 8)).map fun c => (c, rest.drop 8)
  | _ => none

/-- The rest of a text in one line, behind its opening mark. Between apostrophes there are no
escapes. -/
def lineText (mark : Char) : Nat → List Char → Option (List Char × List Char)
  | 0, _ => none
  | _, [] => none
  | fuel + 1, c :: rest =>
    if c = mark then some ([], rest)
    else if c = '\\' ∧ mark = '"' then do
      let (e, rest) ← escaped? rest
      let (cs, rest) ← lineText mark fuel rest
      return (e :: cs, rest)
    else if isPlain c then do
      let (cs, rest) ← lineText mark fuel rest
      return (c :: cs, rest)
    else none

/-- The text behind space and ends of lines that a backslash has joined; none if the line does not
end there. -/
def joinLines? (cs : List Char) : Option (List Char) :=
  (newline? (skipSpace cs)).map fun rest =>
    rest.dropWhile fun c => c == ' ' || c == '\t' || c == '\n' || c == '\r'

/-- The rest of a text over several lines, behind its opening marks. Up to two marks may stand
before the closing ones. -/
def linesText (mark : Char) : Nat → List Char → Option (List Char × List Char)
  | 0, _ => none
  | _, [] => none
  | fuel + 1, c :: rest =>
    if c = mark then
      let run := 1 + (rest.takeWhile (· == mark)).length
      if 3 ≤ run then
        let inside := min (run - 3) 2
        some (List.replicate inside mark, (c :: rest).drop (inside + 3))
      else do
        let (cs, rest) ← linesText mark fuel rest
        return (c :: cs, rest)
    else if c = '\\' ∧ mark = '"' then
      match joinLines? rest with
      | some rest => linesText mark fuel rest
      | none => do
        let (e, rest) ← escaped? rest
        let (cs, rest) ← linesText mark fuel rest
        return (e :: cs, rest)
    else
      match newline? (c :: rest) with
      | some rest => do
        let (cs, rest) ← linesText mark fuel rest
        return ('\n' :: cs, rest)
      | none =>
        if isPlain c then do
          let (cs, rest) ← linesText mark fuel rest
          return (c :: cs, rest)
        else none

/-- A text in quotes or apostrophes, in one line or over several. -/
def quotedText (cs : List Char) : Option (String × List Char) :=
  let read := fun (r : Option (List Char × List Char)) =>
    r.map fun p => (String.ofList p.1, p.2)
  let fuel := cs.length + 1
  match cs with
  | '"' :: '"' :: '"' :: rest => read (linesText '"' fuel ((newline? rest).getD rest))
  | '\'' :: '\'' :: '\'' :: rest => read (linesText '\'' fuel ((newline? rest).getD rest))
  | '"' :: rest => read (lineText '"' fuel rest)
  | '\'' :: rest => read (lineText '\'' fuel rest)
  | _ => none

/-! ### Numbers and dates -/

/-- Digits between which single underscores may stand, without them. -/
def digits (isDigit : Char → Bool) : Nat → List Char → Option (List Char × List Char)
  | 0, _ => none
  | fuel + 1, cs =>
    match cs with
    | [] => none
    | c :: rest =>
      if !isDigit c then none
      else
        match rest with
        | '_' :: rest => (digits isDigit fuel rest).map fun p => (c :: p.1, p.2)
        | d :: _ =>
          if isDigit d then (digits isDigit fuel rest).map fun p => (c :: p.1, p.2)
          else some ([c], rest)
        | [] => some ([c], [])

/-- Decimal digits with underscores. -/
def decimals (cs : List Char) : Option (List Char × List Char) :=
  digits Char.isDigit (cs.length + 1) cs

/-- A sign, and whether it is a minus. -/
def sign : List Char → Bool × List Char
  | '-' :: rest => (true, rest)
  | '+' :: rest => (false, rest)
  | cs => (false, cs)

/-- A whole number without a leading zero. -/
def whole (cs : List Char) : Option (List Char × List Char) :=
  match cs with
  | '0' :: rest => some (['0'], rest)
  | _ => decimals cs

/-- An integer with a base, behind its `0` and letter; it fits into sixty-three bits. -/
def based? (base : Nat) (cs : List Char) : Option (List Char) := do
  let isDigit := fun c => (hexDigit? c).any (· < base)
  let (ds, rest) ← digits isDigit (cs.length + 1) cs
  let n := (ds.filterMap hexDigit?).foldl (fun n d => base * n + d) 0
  if 2 * n < UInt64.size then some rest else none

/-- Whether a positive decimal rounds to no finite floating-point number. -/
def overflows (ds : List Char) (exponent : Int) : Bool :=
  let n := digitsValue ds
  if n = 0 then false
  else if exponent + ds.length < 300 then false
  else if 310 + (ds.length : Int) < exponent + ds.length then true
  else
    decide ((Nat.pow 2 1024 - Nat.pow 2 970) * Nat.pow 10 (-exponent).toNat ≤
      n * Nat.pow 10 exponent.toNat)

/-- The text behind a number with a fraction or an exponent. -/
def float? (cs : List Char) : Option (List Char) := do
  let (negative, cs) := sign cs
  match cs with
  | 'i' :: 'n' :: 'f' :: rest => some rest
  | 'n' :: 'a' :: 'n' :: rest => some rest
  | cs =>
    let (before, rest) ← whole cs
    let (behind, afterFraction) ← match rest with
      | '.' :: rest => decimals rest
      | rest => some ([], rest)
    let (exponent, final) ← match afterFraction with
      | e :: r =>
        if e = 'e' ∨ e = 'E' then do
          let (down, r) := sign r
          let (ds, r) ← decimals r
          let size : Int := digitsValue ds
          some (some (if down then -size else size), r)
        else some (none, afterFraction)
      | [] => some (none, afterFraction)
    if behind.isEmpty && exponent.isNone then none
    else if !negative && overflows (before ++ behind) (exponent.getD 0 - behind.length) then none
    else some final

/-- The text behind an integer, which fits into sixty-four bits. -/
def integer? (cs : List Char) : Option (List Char) :=
  match cs with
  | '0' :: 'x' :: rest => based? 16 rest
  | '0' :: 'o' :: rest => based? 8 rest
  | '0' :: 'b' :: rest => based? 2 rest
  | _ => do
    let (negative, cs) := sign cs
    let (ds, rest) ← whole cs
    let n := digitsValue ds
    if 2 * n < UInt64.size || (negative && 2 * n = UInt64.size) then some rest else none

/-- Exactly `n` digits. -/
def fixedDigits? (n : Nat) (cs : List Char) : Option (Nat × List Char) :=
  let ds := cs.take n
  if ds.length = n ∧ ds.all Char.isDigit then some (digitsValue ds, cs.drop n) else none

/-- The number of days in a month. -/
def daysIn (year month : Nat) : Nat :=
  if month = 2 then
    if (year % 4 = 0 ∧ year % 100 ≠ 0) ∨ year % 400 = 0 then 29 else 28
  else if month = 4 ∨ month = 6 ∨ month = 9 ∨ month = 11 then 30
  else 31

/-- The text behind a character. -/
def after? (c : Char) : List Char → Option (List Char)
  | d :: rest => if d = c then some rest else none
  | [] => none

/-- The text behind a date. -/
def date? (cs : List Char) : Option (List Char) := do
  let (year, cs) ← fixedDigits? 4 cs
  let cs ← after? '-' cs
  let (month, cs) ← fixedDigits? 2 cs
  let cs ← after? '-' cs
  let (day, cs) ← fixedDigits? 2 cs
  if 1 ≤ month ∧ month ≤ 12 ∧ 1 ≤ day ∧ day ≤ daysIn year month then some cs else none

/-- The text behind a time of day. -/
def time? (cs : List Char) : Option (List Char) := do
  let (hour, cs) ← fixedDigits? 2 cs
  let cs ← after? ':' cs
  let (minute, cs) ← fixedDigits? 2 cs
  let cs ← after? ':' cs
  let (second, cs) ← fixedDigits? 2 cs
  if hour < 24 ∧ minute < 60 ∧ second ≤ 60 then
    match cs with
    | '.' :: rest =>
      if (rest.head?.any Char.isDigit) then some (rest.dropWhile Char.isDigit) else some cs
    | cs => some cs
  else none

/-- The text behind the offset of a time, if there is one. -/
def skipOffset (cs : List Char) : List Char :=
  let offset := fun (cs : List Char) => do
    let (hour, cs) ← fixedDigits? 2 cs
    let cs ← after? ':' cs
    let (minute, cs) ← fixedDigits? 2 cs
    if hour < 24 ∧ minute < 60 then some cs else none
  match cs with
  | 'Z' :: rest | 'z' :: rest => rest
  | '+' :: rest | '-' :: rest => (offset rest).getD cs
  | _ => cs

/-- The text behind a date, a time, or both. -/
def dateTime? (cs : List Char) : Option (List Char) :=
  match date? cs with
  | none => time? cs
  | some rest =>
    match rest with
    | d :: more =>
      if d = 'T' ∨ d = 't' ∨ d = ' ' then
        match time? more with
        | some rest => some (skipOffset rest)
        | none => some rest
      else some rest
    | [] => some rest

/-- The text behind a date or a number. -/
def scalar? (cs : List Char) : Option (List Char) :=
  (dateTime? cs).orElse fun _ => (float? cs).orElse fun _ => integer? cs

/-! ### Keys -/

/-- A character of a key without quotes. -/
def isKeyChar (c : Char) : Bool := c.isAlphanum || c == '_' || c == '-'

/-- One segment of a key. -/
def keySegment (cs : List Char) : Option (String × List Char) :=
  match cs with
  | '"' :: rest => (lineText '"' (rest.length + 1) rest).map fun p => (String.ofList p.1, p.2)
  | '\'' :: rest => (lineText '\'' (rest.length + 1) rest).map fun p => (String.ofList p.1, p.2)
  | _ =>
    let name := cs.takeWhile isKeyChar
    if name.isEmpty then none else some (String.ofList name, cs.dropWhile isKeyChar)

/-- The segments of a dotted key, with the space around them. -/
def keySegments : Nat → List Char → Option (List String × List Char)
  | 0, _ => none
  | fuel + 1, cs => do
    let (segment, rest) ← keySegment (skipSpace cs)
    match skipSpace rest with
    | '.' :: rest =>
      let (segments, rest) ← keySegments fuel rest
      return (segment :: segments, rest)
    | rest => return ([segment], rest)

/-- A dotted key with fewer than eighty segments: the ones before the last, and the last. -/
def key (cs : List Char) : Option (List String × String × List Char) := do
  let (segments, rest) ← keySegments 79 cs
  let last ← segments.getLast?
  return (segments.dropLast, last, rest)

/-! ### Values -/

mutual

/-- One value. Lists and tables stand at most `depth` deep in each other. -/
def value (fuel depth : Nat) (cs : List Char) : Option (Setting × List Char) :=
  match fuel with
  | 0 => none
  | fuel + 1 =>
    match cs with
    | '"' :: _ | '\'' :: _ => (quotedText cs).map fun p => (.text p.1, p.2)
    | 't' :: 'r' :: 'u' :: 'e' :: rest => some (.flag true, rest)
    | 'f' :: 'a' :: 'l' :: 's' :: 'e' :: rest => some (.flag false, rest)
    | '[' :: rest =>
      match depth with
      | 0 => none
      | depth + 1 => do
        let (items, rest) ← listItems fuel depth (skipBlankLines rest)
        return (.list items, rest)
    | '\x7b' :: rest =>
      match depth with
      | 0 => none
      | depth + 1 => do
        let (pairs, rest) ← match skipSpace rest with
          | '\x7d' :: rest => some ([], rest)
          | rest => tablePairs fuel depth rest
        return (← inlineTable? pairs, rest)
    | cs => (scalar? cs).map fun rest => (.other, rest)

/-- The items of a list up to its closing bracket. A comma may stand behind the last one. -/
def listItems (fuel depth : Nat) (cs : List Char) : Option (List Setting × List Char) :=
  match fuel with
  | 0 => none
  | fuel + 1 =>
    match cs with
    | ']' :: rest => some ([], rest)
    | cs => do
      let (item, rest) ← value fuel depth cs
      match skipBlankLines rest with
      | ',' :: rest =>
        let (items, rest) ← listItems fuel depth (skipBlankLines rest)
        return (item :: items, rest)
      | ']' :: rest => return ([item], rest)
      | _ => none

/-- The pairs of a table in one line, up to its closing brace. -/
def tablePairs (fuel depth : Nat) (cs : List Char) :
    Option (List (List String × String × Setting) × List Char) :=
  match fuel with
  | 0 => none
  | fuel + 1 => do
    let (path, last, rest) ← key cs
    let rest ← after? '=' rest
    let (item, rest) ← value fuel depth (skipSpace rest)
    match skipSpace rest with
    | ',' :: rest =>
      let (pairs, rest) ← tablePairs fuel depth rest
      return ((path, last, item) :: pairs, rest)
    | '\x7d' :: rest => return ([(path, last, item)], rest)
    | _ => none

end

/-- One value, with lists and tables less than eighty deep in each other. -/
def wholeValue (cs : List Char) : Option (Setting × List Char) := value (2 * cs.length + 2) 79 cs

/-! ### Statements -/

/-- One statement, up to the end of its line. -/
def statement (cs : List Char) : Option (Statement × List Char) :=
  match cs with
  | '[' :: '[' :: rest => do
    let (path, last, rest) ← key rest
    let rest ← after? ']' rest
    let rest ← after? ']' rest
    return (.listHeader path last, ← endLine? rest)
  | '[' :: rest => do
    let (path, last, rest) ← key rest
    let rest ← after? ']' rest
    return (.header path last, ← endLine? rest)
  | cs => do
    let (path, last, rest) ← key cs
    let rest ← after? '=' rest
    let (s, rest) ← wholeValue (skipSpace rest)
    return (.pair path last s, ← endLine? rest)

/-- The statements of a file. -/
def statements : Nat → List Char → Option (List Statement)
  | 0, _ => none
  | fuel + 1, cs =>
    match skipSpace cs with
    | [] => some []
    | '#' :: rest => do statements fuel (← endLine? ('#' :: rest))
    | '\n' :: rest => statements fuel rest
    | '\r' :: '\n' :: rest => statements fuel rest
    | cs => do
      let (s, rest) ← statement cs
      return s :: (← statements fuel rest)

/-- The settings of a file. A mark of byte order at its beginning does not count. -/
def parse? (source : String) : Option Setting := do
  let cs := match source.toList with
    | '\ufeff' :: rest => rest
    | cs => cs
  assemble? (← statements (cs.length + 1) cs)

end TwinRender.Setting
