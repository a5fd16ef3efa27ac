import TwinRender.Markup.Spine
import TwinRender.Markup.Token

/-!
# The state of tree construction

A builder holds the tree read so far as a spine, and what the rules for the next token depend on:
the mode, the formatting elements that are to be opened again, and how the text that follows is
to be scanned. This module has the steps that the rules are made of.

## Main definitions

* `Mode`, `Entry`, `Builder` — the state;
* `Builder.insert`, `Builder.insertChar`, `Builder.insertComment` — what tokens add to the tree;
* `Builder.closeImplied`, `Builder.closeNamed` — what end tags close.
-/

namespace TwinRender.Markup

/-- What part of a document the next token belongs to. -/
inductive Mode where
  /-- Ordinary content. -/
  | body
  /-- Text up to the end tag of the element around it. -/
  | text
  /-- A table, outside its parts. -/
  | table
  /-- Text in a table, outside its cells. -/
  | tableText
  /-- The caption of a table. -/
  | caption
  /-- A group of columns. -/
  | columnGroup
  /-- A group of rows. -/
  | tableBody
  /-- A row. -/
  | row
  /-- A cell. -/
  | cell
  /-- A list of options. -/
  | select
  /-- A list of options in a table. -/
  | selectInTable
  /-- A template. -/
  | template
  deriving DecidableEq, Repr, Inhabited

/-- An entry in the list of formatting elements. -/
inductive Entry where
  /-- Elements listed before it are not opened again behind it. -/
  | marker
  /-- The formatting element with a number, and the tag that opened it. -/
  | element (id : Nat) (tag : Tag)
  deriving DecidableEq, Repr, Inhabited

/-- What had to be overlooked in markup that is not written properly. -/
inductive Recovery where
  /-- A tag, comment or reference is not written properly. -/
  | malformed
  /-- A tag or text stands where it may not stand. -/
  | misplaced
  /-- An element is not closed. -/
  | unclosed
  deriving DecidableEq, Repr, Inhabited

/-- What had to be overlooked, in words. -/
def Recovery.text : Recovery → String
  | .malformed => "malformed tag, comment or reference"
  | .misplaced => "misplaced tag or text"
  | .unclosed => "unclosed element"

/-- The state of tree construction. -/
structure Builder where
  /-- The tree read so far. -/
  spine : Spine
  /-- The number of the next element. -/
  fresh : Nat
  /-- Formatting elements, the last one first. -/
  formatting : List Entry
  /-- The number of the form that is open, if any. -/
  form : Option Nat
  /-- The current mode. -/
  mode : Mode
  /-- The mode to return to after text. -/
  resume : Mode
  /-- The modes of the open templates, innermost first. -/
  templates : List Mode
  /-- Text found in a table, the last character first. -/
  tableText : List Char
  /-- Whether a line feed is dropped if it comes next. -/
  skipNewline : Bool
  /-- Whether nodes that may not stand in a table go before it. -/
  fostering : Bool
  /-- How the text that follows is scanned. -/
  content : Content
  /-- What had to be overlooked, the last one first. -/
  recoveries : List Recovery
  deriving Repr, Inhabited

namespace Builder

/-- The state before the first token. -/
def start : Builder where
  spine := ⟨[], []⟩
  fresh := 0
  formatting := []
  form := none
  mode := .body
  resume := .body
  templates := []
  tableText := []
  skipNewline := false
  fostering := false
  content := .markup
  recoveries := []

/-! ### Looking at the state -/

/-- Whether the innermost element is the ordinary one with a name. -/
def currentNamed (b : Builder) (name : String) : Bool :=
  b.spine.current?.any fun f => f.named name

/-- Whether the innermost element is an ordinary one with one of the names. -/
def currentAmong (b : Builder) (names : List String) : Bool :=
  b.spine.current?.any fun f => f.among names

/-- Whether an element can still be closed by name. -/
def isOpen (b : Builder) (id : Nat) : Bool :=
  b.spine.frames.any fun f => f.listed && f.id == id

/-- Whether a template is open. -/
def inTemplate (b : Builder) : Bool :=
  b.spine.listed.any fun f => f.named "template"

/-- Elements whose text is ordinary markup although they belong to a formula. -/
def isFormulaText (f : Frame) : Bool :=
  f.vocabulary == .math && ["mi", "mo", "mn", "ms", "mtext"].contains f.name

/-- Elements whose content is ordinary markup although they belong to a drawing. -/
def isDrawingText (f : Frame) : Bool :=
  f.vocabulary == .svg && ["foreignobject", "desc", "title"].contains f.name

/-- Elements beyond which a search for an open element does not look. -/
def stopsDefault (f : Frame) : Bool :=
  f.among ["applet", "caption", "table", "td", "th", "marquee", "object", "template"] ||
    isFormulaText f || isDrawingText f

/-- The search for a list item does not look beyond a list either. -/
def stopsItem (f : Frame) : Bool :=
  stopsDefault f || f.among ["ol", "ul"]

/-- The search for a paragraph does not look beyond a button either. -/
def stopsButton (f : Frame) : Bool :=
  stopsDefault f || f.named "button"

/-- The search for a part of a table looks beyond all but tables. -/
def stopsTable (f : Frame) : Bool :=
  f.among ["table", "template"]

/-- The search for a list of options looks only beyond options. -/
def stopsSelect (f : Frame) : Bool :=
  !f.among ["optgroup", "option"]

/-- Whether an element with a name is found before one that stops the search. -/
def hasInScope (b : Builder) (stops : Frame → Bool) (name : String) : Bool :=
  b.spine.inScope stops fun f => f.named name

/-! ### Changing the state -/

/-- The state after something was overlooked. -/
def note (b : Builder) (r : Recovery) : Builder :=
  { b with recoveries := r :: b.recoveries }

/-- The state after something out of place was overlooked. -/
def recover (b : Builder) : Builder :=
  b.note .misplaced

/-- The state after something out of place was overlooked, if a condition holds. -/
def recoverIf (b : Builder) (condition : Bool) : Builder :=
  if condition then b.recover else b

/-- Elements inside which only parts of tables may stand. -/
def fosterTargets : List String := ["table", "tbody", "tfoot", "thead", "tr"]

/-- Whether a node that comes next goes before the table. -/
def fosters (b : Builder) : Bool :=
  b.fostering && b.currentAmong fosterTargets

/-- The state after a finished node is added. -/
def add (b : Builder) (node : Node) : Builder :=
  { b with spine := b.spine.attach node b.fosters }

/-- The state after a character of text. -/
def insertChar (b : Builder) (c : Char) : Builder :=
  b.add (.text (String.singleton c))

/-- The state after a comment. -/
def insertComment (b : Builder) (text : String) : Builder :=
  b.add (.comment text)

/-- The state after an element is opened. -/
def openElement (b : Builder) (vocabulary : Vocabulary) (name : String)
    (attributes : List (String × String)) : Builder :=
  { b with
    spine := b.spine.push
      { id := b.fresh, vocabulary, name, attributes := .ofList attributes, listed := true,
        fostered := b.fosters, children := [] }
    fresh := b.fresh + 1 }

/-- The state after an ordinary element is opened. -/
def insert (b : Builder) (tag : Tag) : Builder :=
  b.openElement .html tag.name tag.attributes

/-- The state after an element without tag is opened. -/
def insertNamed (b : Builder) (name : String) : Builder :=
  b.openElement .html name []

/-- The state after the innermost element is closed. -/
def pop (b : Builder) : Builder :=
  { b with spine := b.spine.pop }

/-- The state after an ordinary element without content. -/
def insertVoid (b : Builder) (tag : Tag) : Builder :=
  (b.insert tag).pop

/-- The state after all elements inside the innermost one with a name are closed, and that one. -/
def popThroughNamed (b : Builder) (name : String) : Builder :=
  { b with spine := b.spine.popThrough fun f => f.named name }

/-- The state after elements are closed until the innermost one has one of the names. -/
def popTo (b : Builder) (names : List String) : Builder :=
  { b with spine := b.spine.popWhile fun f => !f.among names }

/-- Elements that an end tag around them closes. -/
def impliedNames : List String :=
  ["dd", "dt", "li", "option", "optgroup", "p", "rb", "rp", "rt", "rtc"]

/-- Elements that the end tag of a template around them closes. -/
def thoroughlyImpliedNames : List String :=
  impliedNames ++ ["caption", "colgroup", "tbody", "td", "tfoot", "th", "thead", "tr"]

/-- The state after the innermost elements are closed as long as an end tag around them closes
them. -/
def closeImplied (b : Builder) : Builder :=
  { b with spine := b.spine.popWhile fun f => f.among impliedNames }

/-- As `closeImplied`, but elements with the given name stay open. -/
def closeImpliedExcept (b : Builder) (name : String) : Builder :=
  { b with spine := b.spine.popWhile fun f => f.among impliedNames && f.name != name }

/-- The state after an element is closed by name. Something is overlooked if another one is open
inside it. -/
def closeNamed (b : Builder) (name : String) : Builder :=
  (b.recoverIf !(b.currentNamed name)).popThroughNamed name

/-- The state after an open paragraph is closed. -/
def closeParagraph (b : Builder) : Builder :=
  (b.closeImpliedExcept "p").closeNamed "p"

/-- The state after an open paragraph is closed, if there is one in scope. -/
def closeParagraphInScope (b : Builder) : Builder :=
  if b.hasInScope stopsButton "p" then b.closeParagraph else b

/-- The state in which the formatting elements since the last marker are forgotten. -/
def clearToMarker (b : Builder) : Builder :=
  { b with formatting := (b.formatting.dropWhile (· != .marker)).drop 1 }

/-- The state with a marker in the list of formatting elements. -/
def pushMarker (b : Builder) : Builder :=
  { b with formatting := .marker :: b.formatting }

/-- Elements that are neither formatting nor ordinary. -/
def specialNames : List String :=
  ["address", "applet", "area", "article", "aside", "base", "basefont", "bgsound", "blockquote",
    "body", "br", "button", "caption", "center", "col", "colgroup", "dd", "details", "dir", "div",
    "dl", "dt", "embed", "fieldset", "figcaption", "figure", "footer", "form", "frame",
    "frameset", "h1", "h2", "h3", "h4", "h5", "h6", "head", "header", "hgroup", "hr", "html",
    "iframe", "img", "input", "isindex", "li", "link", "listing", "main", "marquee", "menu",
    "meta", "nav", "noembed", "noframes", "noscript", "object", "ol", "p", "param", "plaintext",
    "pre", "script", "section", "select", "source", "style", "summary", "table", "tbody", "td",
    "template", "textarea", "tfoot", "th", "thead", "title", "tr", "track", "ul", "wbr", "xmp"]

/-- Whether an element is neither formatting nor ordinary. -/
def isSpecial (f : Frame) : Bool :=
  f.among specialNames

/-- The state after an end tag that closes whatever has its name, unless an element in between is
special. -/
def closeOrdinary (b : Builder) (name : String) : Builder :=
  match b.spine.listed.find? fun f => f.named name || isSpecial f with
  | none => b.recover
  | some f =>
    if f.named name then
      let b := b.closeImpliedExcept name
      let b := b.recoverIf !(b.spine.current?.any fun g => g.id == f.id)
      { b with spine := b.spine.popThrough fun g => g.id == f.id }
    else b.recover

/-- The mode that fits the open elements. -/
def fittingMode (b : Builder) : Mode :=
  go b.templates b.spine.listed
where
  /-- The mode that fits the given elements, innermost first. -/
  go (templates : List Mode) : List Frame → Mode
    | [] => .body
    | f :: fs =>
      if f.vocabulary != .html then go templates fs
      else
        match f.name with
        | "select" =>
          match fs.find? fun g => g.among ["template", "table"] with
          | some g => if g.name == "table" then .selectInTable else .select
          | none => .select
        | "td" | "th" => .cell
        | "tr" => .row
        | "tbody" | "thead" | "tfoot" => .tableBody
        | "caption" => .caption
        | "colgroup" => .columnGroup
        | "table" => .table
        | "template" => templates.head?.getD .body
        | _ => go templates fs

/-- The state in the mode that fits the open elements. -/
def refit (b : Builder) : Builder :=
  { b with mode := b.fittingMode }

/-- The state after an element is opened whose text is scanned in its own way. -/
def insertText (b : Builder) (tag : Tag) (content : Content) : Builder :=
  { b.insert tag with mode := .text, resume := b.mode, content }

end Builder

end TwinRender.Markup
