/-!
# Escaped markup

Text and attribute values are written into markup with five characters replaced by character
references, so that no value can open a tag or end a quoted attribute. `unescape` reads exactly
these five references back.

## Main definitions

* `escape` — the escaped form of a string;
* `unescape` — the text an escaped form stands for.
-/

namespace TwinRender.Text

/-- The reference that stands for a character, or the character itself. -/
def escapeChar (c : Char) : List Char :=
  if c = '&' then ['&', 'a', 'm', 'p', ';']
  else if c = '<' then ['&', 'l', 't', ';']
  else if c = '>' then ['&', 'g', 't', ';']
  else if c = '"' then ['&', 'q', 'u', 'o', 't', ';']
  else if c = '\'' then ['&', '#', 'x', '2', '7', ';']
  else [c]

/-- The escaped form of a text. -/
def escapeChars (cs : List Char) : List Char :=
  cs.flatMap escapeChar

/-- The escaped form of a string: five characters become references, all others stay. -/
def escape (s : String) : String :=
  String.ofList (escapeChars s.toList)

/-- The text an escaped form stands for, read from left to right. -/
def unescapeChars : List Char → List Char
  | '&' :: 'a' :: 'm' :: 'p' :: ';' :: cs => '&' :: unescapeChars cs
  | '&' :: 'l' :: 't' :: ';' :: cs => '<' :: unescapeChars cs
  | '&' :: 'g' :: 't' :: ';' :: cs => '>' :: unescapeChars cs
  | '&' :: 'q' :: 'u' :: 'o' :: 't' :: ';' :: cs => '"' :: unescapeChars cs
  | '&' :: '#' :: 'x' :: '2' :: '7' :: ';' :: cs => '\'' :: unescapeChars cs
  | c :: cs => c :: unescapeChars cs
  | [] => []

/-- The string an escaped string stands for. -/
def unescape (s : String) : String :=
  String.ofList (unescapeChars s.toList)

/-- Escaping works character by character. -/
theorem escapeChars_append (a b : List Char) :
    escapeChars (a ++ b) = escapeChars a ++ escapeChars b := by
  simp [escapeChars]

/-- There is nothing to escape in no text. -/
@[simp] theorem escapeChars_nil : escapeChars [] = [] := rfl

/-- One step of escaping. -/
theorem escapeChars_cons (c : Char) (cs : List Char) :
    escapeChars (c :: cs) = escapeChar c ++ escapeChars cs := by
  simp [escapeChars]

end TwinRender.Text
