import TwinRender.Text.Escape

/-!
# Escaping where there is something to escape

A text without characters to replace is handed on as it is. Whether there are such characters is
looked up among the bytes that the text is stored as; only when there are is a new text written,
character by character.

## Main definitions

* `marks` — the characters that are replaced;
* `Rewriting` — a text that is handed on, or a new one;
* `rewrite` — the escaped form of a string, written anew only if it has to be.
-/

namespace TwinRender.Text

/-- The characters that are replaced. -/
def marks : List Char := ['&', '<', '>', '"', '\'']

/-- What becomes of a text that is rewritten only if it has to be. -/
inductive Rewriting where
  /-- It is handed on as it is. -/
  | kept (text : String)
  /-- A new text stands in its place. -/
  | written (text : String)
  deriving DecidableEq, Repr, Inhabited

/-- The text that is handed on or written. -/
def Rewriting.text : Rewriting → String
  | kept text => text
  | written text => text

/-- Whether a byte stands for a character that is replaced. -/
def isMarkByte (b : UInt8) : Bool := marks.any fun c => c.toUInt8 == b

/-- A text with one more character behind it, or the reference that stands for the character. -/
def writeEscaped (written : String) (c : Char) : String :=
  match c with
  | '&' => written ++ "&amp;"
  | '<' => written ++ "&lt;"
  | '>' => written ++ "&gt;"
  | '"' => written ++ "&quot;"
  | '\'' => written ++ "&#x27;"
  | c => written.push c

/-- The escaped form of a string. It is written only if a byte of the string asks for it. -/
def rewrite (s : String) : Rewriting :=
  if s.toUTF8.data.any isMarkByte then .written (s.toList.foldl writeEscaped "") else .kept s

end TwinRender.Text
