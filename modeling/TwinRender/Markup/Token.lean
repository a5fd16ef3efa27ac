/-!
# Tokens of markup

Markup is read as a sequence of tokens. Text comes one character at a time, so that a rule about
text need not say where a run of characters was cut.

## Main definitions

* `Token` — the tokens;
* `Content` — how the text behind a start tag is to be read.
-/

namespace TwinRender.Markup

/-- A start tag. Names are in lowercase, and no attribute name stands twice. -/
structure Tag where
  /-- The element's name. -/
  name : String
  /-- The attributes in order. -/
  attributes : List (String × String)
  /-- Whether a slash stands before the closing bracket. -/
  selfClosing : Bool
  deriving DecidableEq, Repr, Inhabited

/-- The value of an attribute. -/
def Tag.attribute? (tag : Tag) (name : String) : Option String :=
  tag.attributes.lookup name

/-- A token of markup. -/
inductive Token where
  /-- A character of text. -/
  | char (c : Char)
  /-- A start tag. -/
  | startTag (tag : Tag)
  /-- An end tag; what stands behind its name does not matter. -/
  | endTag (name : String)
  /-- A comment. -/
  | comment (text : String)
  /-- A mark that the markup is not written properly here. -/
  | flaw
  /-- The end of the text. -/
  | stop
  deriving DecidableEq, Repr, Inhabited

/-- How text is read. -/
inductive Content where
  /-- Tags, comments and references are recognised. -/
  | markup
  /-- References are recognised, and the end tag with this name. -/
  | references (name : String)
  /-- Only the end tag with this name is recognised. -/
  | raw (name : String)
  /-- Script text: as raw text, save for parts inside comment brackets. -/
  | script
  /-- Nothing is recognised. -/
  | plain
  deriving DecidableEq, Repr, Inhabited

end TwinRender.Markup
