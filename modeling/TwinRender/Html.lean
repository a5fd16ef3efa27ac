import TwinRender.Text.Space

/-!
# Facts about elements and names

Which elements are written without an end tag, which hold raw text, which attributes are only
present or absent, and which names may be written at all. Names of elements and attributes are
compared without regard to the case of ASCII letters.

## Main definitions

* `isVoid`, `isRawText`, `dropsLeadingNewline`, `isBoolean` — facts about names;
* `isTagName`, `isAttributeName`, `isIdentifier` — the names that may be written.
-/

namespace TwinRender.Html

open Text (isSpace sameIgnoringCase)

/-- Elements without content and without an end tag. -/
def voidNames : List String :=
  ["area", "base", "br", "col", "embed", "hr", "img", "input", "link", "meta", "source", "track",
    "wbr"]

/-- Elements whose content is text without markup. -/
def rawTextNames : List String := ["script", "style"]

/-- Elements in which a line feed right behind the start tag is not content. -/
def newlineNames : List String := ["pre", "textarea", "listing"]

/-- Attributes that are only present or absent. -/
def booleanNames : List String :=
  ["disabled", "required", "readonly", "checked", "selected", "autofocus", "autoplay", "controls",
    "loop", "muted", "default", "defer", "formnovalidate", "hidden", "ismap", "multiple",
    "novalidate", "open", "reversed"]

/-- Whether an element has neither content nor end tag. -/
def isVoid (tag : String) : Bool := voidNames.any (sameIgnoringCase tag)

/-- Whether the content of an element is text without markup. -/
def isRawText (tag : String) : Bool := rawTextNames.any (sameIgnoringCase tag)

/-- Whether a parser drops a line feed right behind the start tag. -/
def dropsLeadingNewline (tag : String) : Bool := newlineNames.any (sameIgnoringCase tag)

/-- Whether an attribute is only present or absent. -/
def isBoolean (name : String) : Bool := booleanNames.any (sameIgnoringCase name)

/-- A letter or a digit of ASCII. -/
def isAlphanumeric (c : Char) : Bool := c.isAlpha || c.isDigit

/-- A tag name is a letter, then letters, digits and hyphens. -/
def isTagName (tag : String) : Bool :=
  match tag.toList with
  | [] => false
  | c :: cs => c.isAlpha && cs.all fun d => isAlphanumeric d || d == '-'

/-- A control character of either control block. -/
def isControl (c : Char) : Bool :=
  let n := c.toNat
  n < 0x20 || (0x7f ≤ n && n < 0xa0)

/-- A character that ends an attribute name or may not stand in one. -/
def endsAttributeName (c : Char) : Bool :=
  isSpace c || isControl c || ['"', '\'', '>', '/', '=', '<'].contains c

/-- An attribute name is any text without space, control characters and the marks of markup. -/
def isAttributeName (name : String) : Bool :=
  !name.isEmpty && name.toList.all fun c => !endsAttributeName c

/-- A character that begins an identifier. -/
def beginsIdentifier (c : Char) : Bool := c.isAlpha || c == '_' || c == '$'

/-- An identifier is a letter, `_` or `$`, then those and digits. -/
def isIdentifier (name : String) : Bool :=
  match name.toList with
  | [] => false
  | c :: cs => beginsIdentifier c && cs.all fun d => beginsIdentifier d || d.isDigit

end TwinRender.Html
