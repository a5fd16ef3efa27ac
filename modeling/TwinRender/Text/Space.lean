/-!
# White space and letter case

Two character classes decide how written values are compared. White space is the Unicode
property `White_Space`, twenty-five characters in all; letter case is the ASCII one, so that
`É` and `é` stay different names.

## Main definitions

* `isSpace` — membership in the white space class;
* `trim`, `words` — the text between the spaces;
* `sameIgnoringCase` — equality of names up to ASCII case.
-/

namespace TwinRender.Text

/-- A character of the Unicode class `White_Space`. -/
def isSpace (c : Char) : Bool :=
  let n := c.toNat
  (9 ≤ n && n ≤ 13) || n == 0x20 || n == 0x85 || n == 0xA0 || n == 0x1680 ||
    (0x2000 ≤ n && n ≤ 0x200A) || n == 0x2028 || n == 0x2029 || n == 0x202F || n == 0x205F ||
    n == 0x3000

/-- Text without the white space in front. -/
def trimStart (cs : List Char) : List Char :=
  cs.dropWhile isSpace

/-- Text without the white space behind. -/
def trimEnd (cs : List Char) : List Char :=
  (cs.reverse.dropWhile isSpace).reverse

/-- Text without the white space on either side. -/
def trim (cs : List Char) : List Char :=
  trimEnd (trimStart cs)

/-- A string without the white space on either side. -/
def trimmed (s : String) : String :=
  String.ofList (trim s.toList)

/-- The words of a text, given the letters of the current word in reverse. -/
def wordsFrom (word : List Char) : List Char → List (List Char)
  | [] => if word.isEmpty then [] else [word.reverse]
  | c :: cs =>
    if isSpace c then
      if word.isEmpty then wordsFrom [] cs else word.reverse :: wordsFrom [] cs
    else wordsFrom (c :: word) cs

/-- The maximal runs of characters that are not white space, in order. -/
def words (cs : List Char) : List (List Char) :=
  wordsFrom [] cs

/-- Equality of two names when the case of ASCII letters does not matter. -/
def sameIgnoringCase (a b : String) : Bool :=
  a.toLower == b.toLower

/-- Two names that agree up to case have one lowercase form. -/
theorem sameIgnoringCase_iff {a b : String} :
    sameIgnoringCase a b = true ↔ a.toLower = b.toLower := by
  simp [sameIgnoringCase]

/-- Every name agrees with itself. -/
@[simp]
theorem sameIgnoringCase_self (a : String) : sameIgnoringCase a a = true := by
  simp [sameIgnoringCase]

end TwinRender.Text
