import TwinRender.Markup.Formatting

/-!
# Ordinary content

The rules for tags and text in ordinary content. Which rule a tag follows depends on its name
alone and is written down in two tables, `startRules` and `endRules`; a name that is not in them
is an ordinary element.

## Main definitions

* `StartRule`, `EndRule` — the rules;
* `Verdict` — what becomes of a token;
* `Builder.inBody` — a token in ordinary content.
-/

namespace TwinRender.Markup

/-- What a start tag does in ordinary content. -/
inductive StartRule where
  /-- Opens an element that may stand anywhere. -/
  | ordinary
  /-- Is overlooked: the element has no place here. -/
  | overlooked
  /-- Opens a block, which ends a paragraph. -/
  | block
  /-- Opens a heading, which ends a paragraph and another heading. -/
  | heading
  /-- Opens a block that drops a line feed at its start. -/
  | preformatted
  /-- Opens a form, unless one is open. -/
  | form
  /-- Opens an item, which ends items with one of the given names. -/
  | item (siblings : List String)
  /-- Opens an element that takes all the text that is left. -/
  | plaintext
  /-- Opens a button, which ends another button. -/
  | button
  /-- Opens a link, which ends another link. -/
  | anchor
  /-- Opens a formatting element. -/
  | formatting
  /-- Opens a formatting element that ends another one of its kind. -/
  | unbroken
  /-- Opens an element that keeps formatting to itself. -/
  | enclosing
  /-- Opens a table. -/
  | table
  /-- Adds an element without content. -/
  | void
  /-- Adds an element without content that does not open formatting again. -/
  | plainVoid
  /-- Adds a rule, which ends a paragraph. -/
  | rule
  /-- Adds a picture under its short name. -/
  | picture
  /-- Opens an element whose text holds references but no tags. -/
  | references
  /-- As `references`, dropping a line feed at the start. -/
  | textarea
  /-- Opens an element whose text is raw. -/
  | raw
  /-- As `raw`, ending a paragraph. -/
  | rawBlock
  /-- Opens a script. -/
  | script
  /-- Opens a template. -/
  | template
  /-- Opens a list of options. -/
  | select
  /-- Opens an option or a group of them, which ends an option. -/
  | option
  /-- Opens a base or a container of annotations. -/
  | rubyBase
  /-- Opens an annotation or its brackets. -/
  | rubyText
  /-- Opens an element of another vocabulary. -/
  | foreign (vocabulary : Vocabulary)
  deriving DecidableEq, Repr, Inhabited

/-- The rules for start tags, by name. -/
def startRules : List (String × StartRule) :=
  let rule (r : StartRule) (names : List String) := names.map fun n => (n, r)
  rule .block ["address", "article", "aside", "blockquote", "center", "details", "dialog", "dir",
      "div", "dl", "fieldset", "figcaption", "figure", "footer", "header", "hgroup", "main",
      "menu", "nav", "ol", "p", "search", "section", "summary", "ul"] ++
    rule .heading ["h1", "h2", "h3", "h4", "h5", "h6"] ++
    rule .preformatted ["pre", "listing"] ++
    rule .form ["form"] ++
    rule (.item ["li"]) ["li"] ++
    rule (.item ["dd", "dt"]) ["dd", "dt"] ++
    rule .plaintext ["plaintext"] ++
    rule .button ["button"] ++
    rule .anchor ["a"] ++
    rule .formatting ["b", "big", "code", "em", "font", "i", "s", "small", "strike", "strong",
      "tt", "u"] ++
    rule .unbroken ["nobr"] ++
    rule .enclosing ["applet", "marquee", "object"] ++
    rule .table ["table"] ++
    rule .void ["area", "br", "embed", "img", "keygen", "wbr", "input"] ++
    rule .plainVoid ["base", "basefont", "bgsound", "link", "meta", "param", "source", "track"] ++
    rule .rule ["hr"] ++
    rule .picture ["image"] ++
    rule .references ["title"] ++
    rule .textarea ["textarea"] ++
    rule .raw ["noframes", "style", "iframe", "noembed", "noscript"] ++
    rule .rawBlock ["xmp"] ++
    rule .script ["script"] ++
    rule .template ["template"] ++
    rule .select ["select"] ++
    rule .option ["optgroup", "option"] ++
    rule .rubyBase ["rb", "rtc"] ++
    rule .rubyText ["rp", "rt"] ++
    rule (.foreign .math) ["math"] ++
    rule (.foreign .svg) ["svg"] ++
    rule .overlooked ["html", "body", "frameset", "caption", "col", "colgroup", "frame", "head",
      "tbody", "td", "tfoot", "th", "thead", "tr"]

/-- The rule for a start tag. -/
def startRule (name : String) : StartRule :=
  (startRules.lookup name).getD .ordinary

/-- What an end tag does in ordinary content. -/
inductive EndRule where
  /-- Closes what has its name, unless a special element is open inside it. -/
  | ordinary
  /-- Is overlooked: the element has no place here. -/
  | overlooked
  /-- Closes a block. -/
  | block
  /-- Closes the form. -/
  | form
  /-- Closes a paragraph, an empty one if none is open. -/
  | paragraph
  /-- Closes an item. -/
  | item
  /-- Closes any heading. -/
  | heading
  /-- Closes a formatting element. -/
  | formatting
  /-- Closes an element that keeps formatting to itself. -/
  | enclosing
  /-- Adds a line break. -/
  | lineBreak
  /-- Closes a template. -/
  | template
  deriving DecidableEq, Repr, Inhabited

/-- The rules for end tags, by name. -/
def endRules : List (String × EndRule) :=
  let rule (r : EndRule) (names : List String) := names.map fun n => (n, r)
  rule .block ["address", "article", "aside", "blockquote", "button", "center", "details",
      "dialog", "dir", "div", "dl", "fieldset", "figcaption", "figure", "footer", "header",
      "hgroup", "listing", "main", "menu", "nav", "ol", "pre", "search", "section", "summary",
      "ul"] ++
    rule .form ["form"] ++
    rule .paragraph ["p"] ++
    rule .item ["li", "dd", "dt"] ++
    rule .heading ["h1", "h2", "h3", "h4", "h5", "h6"] ++
    rule .formatting ["a", "b", "big", "code", "em", "font", "i", "nobr", "s", "small", "strike",
      "strong", "tt", "u"] ++
    rule .enclosing ["applet", "marquee", "object"] ++
    rule .lineBreak ["br"] ++
    rule .template ["template"] ++
    rule .overlooked ["body", "html"]

/-- The rule for an end tag. -/
def endRule (name : String) : EndRule :=
  (endRules.lookup name).getD .ordinary

/-- What becomes of a token. -/
inductive Verdict where
  /-- It is dealt with. A slash at the end of a start tag is fine only if `slash` holds. -/
  | done (b : Builder) (slash : Bool)
  /-- It is looked at again in the mode of the new state. -/
  | again (b : Builder)
  deriving Repr, Inhabited

namespace Builder

/-- The names of headings. -/
def headingNames : List String := ["h1", "h2", "h3", "h4", "h5", "h6"]

/-- The state before an item is opened: an item of the same list is closed. -/
def closeItem (b : Builder) (siblings : List String) : Builder :=
  let stops := fun f => isSpecial f && !f.among ["address", "div", "p"]
  let b := match b.spine.listed.find? fun f => f.among siblings || stops f with
    | some f =>
      if f.among siblings then (b.closeImpliedExcept f.name).closeNamed f.name else b
    | none => b
  b.closeParagraphInScope

/-- The names that attributes of other vocabularies have when a colon stands in them. -/
def foreignAttributeNames : List (String × String) :=
  [("xlink:actuate", "actuate"), ("xlink:arcrole", "arcrole"), ("xlink:href", "href"),
    ("xlink:role", "role"), ("xlink:show", "show"), ("xlink:title", "title"),
    ("xlink:type", "type"), ("xml:lang", "lang"), ("xml:space", "space"),
    ("xmlns:xlink", "xlink")]

/-- The state after an element of another vocabulary; a slash at its end closes it. -/
def insertForeign (b : Builder) (vocabulary : Vocabulary) (tag : Tag) : Verdict :=
  let attributes := tag.attributes.map fun a =>
    ((foreignAttributeNames.lookup a.1).getD a.1, a.2)
  let b := b.openElement vocabulary tag.name attributes
  if tag.selfClosing then .done b.pop true else .done b true

/-- The start tag of a template. -/
def openTemplate (b : Builder) (tag : Tag) : Builder :=
  { (b.insert tag).pushMarker with mode := .template, templates := .template :: b.templates }

/-- The end tag of a template. -/
def closeTemplate (b : Builder) : Builder :=
  if b.inTemplate then
    let b := { b with spine := b.spine.popWhile fun f => f.among thoroughlyImpliedNames }
    let b := (b.closeNamed "template").clearToMarker
    { b with templates := b.templates.drop 1 }.refit
  else b.recover

/-- The start tag of a link: an open link is closed first. -/
def openAnchor (b : Builder) (tag : Tag) : Builder :=
  let b := match b.formattingNamed? "a" with
    | some (id, _) => (b.recover.adopt "a").drop id
    | none => b
  b.reopen.insertFormatting tag

/-- The start tag of a formatting element that cannot stand inside another of its kind. -/
def openUnbroken (b : Builder) (tag : Tag) : Builder :=
  let b := b.reopen
  let b := if b.hasInScope stopsDefault tag.name then (b.recover.adopt tag.name).reopen else b
  b.insertFormatting tag

/-- A start tag in ordinary content. -/
def startInBody (b : Builder) (tag : Tag) : Verdict :=
  match startRule tag.name with
  | .ordinary => .done (b.reopen.insert tag) false
  | .overlooked => .done b.recover false
  | .block => .done (b.closeParagraphInScope.insert tag) false
  | .heading =>
    let b := b.closeParagraphInScope
    let b := if b.currentAmong headingNames then b.recover.pop else b
    .done (b.insert tag) false
  | .preformatted =>
    .done { b.closeParagraphInScope.insert tag with skipNewline := true } false
  | .form =>
    if b.form.isSome && !b.inTemplate then .done b.recover false
    else
      let b := b.closeParagraphInScope
      let id := b.fresh
      let form := if b.inTemplate then b.form else some id
      .done { b.insert tag with form } false
  | .item siblings => .done ((b.closeItem siblings).insert tag) false
  | .plaintext => .done { b.closeParagraphInScope.insert tag with content := .plain } true
  | .button =>
    let b :=
      if b.hasInScope stopsDefault "button" then b.recover.closeImplied.popThroughNamed "button"
      else b
    .done (b.reopen.insert tag) false
  | .anchor => .done (b.openAnchor tag) false
  | .formatting => .done (b.reopen.insertFormatting tag) false
  | .unbroken => .done (b.openUnbroken tag) false
  | .enclosing => .done (b.reopen.insert tag).pushMarker false
  | .table => .done { b.closeParagraphInScope.insert tag with mode := .table } false
  | .void => .done (b.reopen.insertVoid tag) true
  | .plainVoid => .done (b.insertVoid tag) true
  | .rule => .done (b.closeParagraphInScope.insertVoid tag) true
  | .picture => .done (b.recover.reopen.insertVoid { tag with name := "img" }) true
  | .references => .done (b.insertText tag (.references tag.name)) true
  | .textarea =>
    .done { b.insertText tag (.references tag.name) with skipNewline := true } true
  | .raw => .done (b.insertText tag (.raw tag.name)) true
  | .rawBlock => .done (b.closeParagraphInScope.reopen.insertText tag (.raw tag.name)) true
  | .script => .done (b.insertText tag .script) true
  | .template => .done (b.openTemplate tag) false
  | .select =>
    let inTable := [Mode.table, .caption, .tableBody, .row, .cell].contains b.mode
    .done { b.reopen.insert tag with mode := if inTable then .selectInTable else .select } false
  | .option =>
    let b := if b.currentNamed "option" then b.pop else b
    .done (b.reopen.insert tag) false
  | .rubyBase =>
    let b := if b.hasInScope stopsDefault "ruby" then b.closeImplied else b
    .done ((b.recoverIf !(b.currentNamed "ruby")).insert tag) false
  | .rubyText =>
    let b := if b.hasInScope stopsDefault "ruby" then b.closeImpliedExcept "rtc" else b
    .done ((b.recoverIf !(b.currentAmong ["rtc", "ruby"])).insert tag) false
  | .foreign vocabulary => b.insertForeign vocabulary tag

/-- The end tag of a form. -/
def endForm (b : Builder) : Builder :=
  if b.inTemplate then
    if b.hasInScope stopsDefault "form" then
      b.closeImplied.closeNamed "form"
    else b.recover
  else
    match b.form with
    | none => b.recover
    | some id =>
      let b := { b with form := none }
      if b.spine.inScope stopsDefault fun f => f.id == id then
        let b := b.closeImplied
        let b := b.recoverIf !(b.spine.current?.any fun f => f.id == id)
        { b with spine := b.spine.unlist id }
      else b.recover

/-- An end tag in ordinary content. -/
def endInBody (b : Builder) (name : String) : Builder :=
  match endRule name with
  | .ordinary => b.closeOrdinary name
  | .overlooked => b.recover
  | .block =>
    if b.hasInScope stopsDefault name then b.closeImplied.closeNamed name else b.recover
  | .form => b.endForm
  | .paragraph =>
    if b.hasInScope stopsButton "p" then b.closeParagraph
    else (b.recover.insertNamed "p").closeParagraph
  | .item =>
    let stops := if name == "li" then stopsItem else stopsDefault
    if b.hasInScope stops name then (b.closeImpliedExcept name).closeNamed name else b.recover
  | .heading =>
    if b.spine.inScope stopsDefault fun f => f.among headingNames then
      let b := b.closeImplied
      let b := b.recoverIf !(b.currentNamed name)
      { b with spine := b.spine.popThrough fun f => f.among headingNames }
    else b.recover
  | .formatting => b.adopt name
  | .enclosing =>
    if b.hasInScope stopsDefault name then (b.closeImplied.closeNamed name).clearToMarker
    else b.recover
  | .lineBreak => b.recover.reopen.insertVoid ⟨"br", [], false⟩
  | .template => b.closeTemplate

/-- Elements that may be open at the end of the text. -/
def openAtEndNames : List String :=
  ["dd", "dt", "li", "optgroup", "option", "p", "rp", "rt", "tbody", "td", "tfoot", "th",
    "thead", "tr", "body", "html"]

/-- The end of the text: in a template, the template is closed first. -/
def stopInBody (b : Builder) : Verdict :=
  if b.templates.isEmpty then
    let fine := b.spine.listed.all fun f => f.among openAtEndNames
    .done (if fine then b else b.note .unclosed) true
  else if b.inTemplate then
    let b := (b.recover.popThroughNamed "template").clearToMarker
    .again { b with templates := b.templates.drop 1 }.refit
  else .done b true

/-- A token in ordinary content. -/
def inBody (b : Builder) (t : Token) : Verdict :=
  match t with
  | .char c => .done (if c == '\x00' then b.recover else b.reopen.insertChar c) true
  | .startTag tag => b.startInBody tag
  | .endTag name => .done (b.endInBody name) true
  | .comment text => .done (b.insertComment text) true
  | .flaw => .done (b.note .malformed) true
  | .stop => b.stopInBody

end Builder

end TwinRender.Markup
