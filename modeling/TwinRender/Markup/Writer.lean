import TwinRender.Html
import TwinRender.Text.Escape

/-!
# Writing markup

How the parts of a tree are written: start tags with double-quoted values, text with its special
characters escaped, comments as they are. An empty value leaves a bare attribute.

## Main definitions

* `openingTag`, `closingTag`, `characterData`, `commentText` — the parts;
* `elementText` — an element around the markup of its children.
-/

namespace TwinRender.Markup

open Text (escape)

/-- An attribute with the space before it. -/
def attributeText (name value : String) : String :=
  if value.isEmpty then " " ++ name else " " ++ name ++ "=\"" ++ escape value ++ "\""

/-- A start tag. -/
def openingTag (tag : String) (attributes : List (String × String)) : String :=
  "<" ++ tag ++ String.join (attributes.map fun a => attributeText a.1 a.2) ++ ">"

/-- An end tag. -/
def closingTag (tag : String) : String := "</" ++ tag ++ ">"

/-- A text; in elements with raw text it is written as it is. -/
def characterData (raw : Bool) (text : String) : String :=
  if raw then text else escape text

/-- A comment. -/
def commentText (text : String) : String := "<!--" ++ text ++ "-->"

/-- The line feed that a parser drops behind the start tag, where the content begins with one. -/
def guardNewline (tag : String) (first : Option String) : String :=
  if Html.dropsLeadingNewline tag && first.any fun text => text.toList.head? == some '\n' then "\n"
  else ""

/-- An element, given the text that its first child holds and the markup of its children. -/
def elementText (tag : String) (attributes : List (String × String)) (first : Option String)
    (content : String) : String :=
  if Html.isVoid tag then openingTag tag attributes
  else openingTag tag attributes ++ guardNewline tag first ++ content ++ closingTag tag

end TwinRender.Markup
