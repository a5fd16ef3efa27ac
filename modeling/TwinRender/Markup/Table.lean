import TwinRender.Markup.Body

/-!
# Tables, options and templates

Tables and lists of options admit only certain elements. What else is found in a table goes in
front of it; what else is found among options is dropped. Parts that are missing between a table
and a cell are supplied, and parts that are still open are closed when the next one begins.

## Main definitions

* `Builder.inTable`, `Builder.inRow`, `Builder.inCell`, `Builder.inSelect` and the like — a token
  in each mode.
-/

namespace TwinRender.Markup

/-- A verdict with its state changed. -/
def Verdict.map (f : Builder → Builder) : Verdict → Verdict
  | .done b slash => .done (f b) slash
  | .again b => .again (f b)

namespace Builder

/-- The state in another mode. -/
def enter (b : Builder) (mode : Mode) : Builder :=
  { b with mode }

/-- A token that has no place in a table: it is dealt with as ordinary content, and what it adds
goes before the table. -/
def fosterInBody (b : Builder) (t : Token) : Verdict :=
  (inBody { b with fostering := true } t).map fun b => { b with fostering := false }

/-- Start tags of the parts of a table. -/
def partNames : List String :=
  ["caption", "col", "colgroup", "tbody", "td", "tfoot", "th", "thead", "tr"]

/-- The names of groups of rows. -/
def rowGroupNames : List String := ["tbody", "tfoot", "thead"]

/-- White space that may stand between the parts of a table. -/
def isTableSpace (c : Char) : Bool :=
  isTagSpace c || c == '\r'
where
  /-- White space inside tags. -/
  isTagSpace (c : Char) : Bool := c == ' ' || c == '\n' || c == '\t' || c == '\x0c'

/-- Whether the type of an input is `hidden`. -/
def isHiddenInput (tag : Tag) : Bool :=
  (tag.attribute? "type").any fun s => s.toLower == "hidden"

/-- A start tag in a table. -/
def startInTable (b : Builder) (tag : Tag) : Verdict :=
  match tag.name with
  | "caption" => .done (((b.popTo ["table", "template"]).pushMarker.insert tag).enter .caption) false
  | "colgroup" => .done (((b.popTo ["table", "template"]).insert tag).enter .columnGroup) false
  | "col" => .again (((b.popTo ["table", "template"]).insertNamed "colgroup").enter .columnGroup)
  | "tbody" | "tfoot" | "thead" =>
    .done (((b.popTo ["table", "template"]).insert tag).enter .tableBody) false
  | "td" | "th" | "tr" =>
    .again (((b.popTo ["table", "template"]).insertNamed "tbody").enter .tableBody)
  | "table" =>
    let b := b.recover
    if b.hasInScope stopsTable "table" then .again (b.popThroughNamed "table").refit
    else .done b false
  | "style" | "script" | "template" => b.startInBody tag
  | "input" =>
    let b := b.recover
    if isHiddenInput tag then .done (b.insertVoid tag) true else b.fosterInBody (.startTag tag)
  | "form" =>
    let b := b.recover
    if b.form.isNone && !b.inTemplate then
      .done { b.insertVoid tag with form := some b.fresh } false
    else .done b false
  | _ => b.recover.fosterInBody (.startTag tag)

/-- An end tag in a table. -/
def endInTable (b : Builder) (name : String) : Verdict :=
  if name == "table" then
    if b.hasInScope stopsTable "table" then .done (b.popThroughNamed "table").refit false
    else .done b.recover false
  else if partNames.contains name || name == "body" || name == "html" then .done b.recover false
  else if name == "template" then .done b.closeTemplate false
  else b.recover.fosterInBody (.endTag name)

/-- A token in a table. -/
def inTable (b : Builder) (t : Token) : Verdict :=
  match t with
  | .char _ =>
    if b.currentAmong fosterTargets then .again { b with resume := b.mode, mode := .tableText }
    else b.recover.fosterInBody t
  | .startTag tag => b.startInTable tag
  | .endTag name => b.endInTable name
  | t => b.inBody t

/-- The state after the text found in a table is added: white space where it was found, other text
before the table. -/
def flushTableText (b : Builder) : Builder :=
  let text := b.tableText.reverse
  let b := { b with tableText := [] }
  if text.all isTableSpace then text.foldl insertChar b
  else
    let b := text.foldl (fun b c => b.reopen.insertChar c) { b.recover with fostering := true }
    { b with fostering := false }

/-- A token behind text in a table. -/
def inTableText (b : Builder) (t : Token) : Verdict :=
  match t with
  | .char c =>
    .done (if c == '\x00' then b.recover else { b with tableText := c :: b.tableText }) false
  | .flaw => .done (b.note .malformed) false
  | _ => .again { b.flushTableText with mode := b.resume }

/-- The state after an open caption is closed, if there is one. -/
def closeCaption? (b : Builder) : Option Builder :=
  if b.hasInScope stopsTable "caption" then
    some (b.closeImplied.closeNamed "caption").clearToMarker
  else none

/-- A token in a caption. -/
def inCaption (b : Builder) (t : Token) : Verdict :=
  match t with
  | .startTag tag =>
    if partNames.contains tag.name then
      match b.closeCaption? with
      | some b => .again (b.enter .table)
      | none => .done b.recover false
    else b.inBody t
  | .endTag name =>
    if name == "caption" || name == "table" then
      match b.closeCaption? with
      | some b => if name == "caption" then .done (b.enter .table) false else .again (b.enter .table)
      | none => .done b.recover false
    else if partNames.contains name || name == "body" || name == "html" then .done b.recover false
    else b.inBody t
  | t => b.inBody t

/-- Whatever does not belong to a group of columns ends it. -/
def leaveColumnGroup (b : Builder) : Verdict :=
  if b.currentNamed "colgroup" then .again (b.pop.enter .table) else .done b.recover false

/-- A token in a group of columns. -/
def inColumnGroup (b : Builder) (t : Token) : Verdict :=
  match t with
  | .char c => if isTableSpace c then .done (b.insertChar c) false else b.leaveColumnGroup
  | .startTag tag =>
    match tag.name with
    | "html" | "template" => b.startInBody tag
    | "col" => .done (b.insertVoid tag) true
    | _ => b.leaveColumnGroup
  | .endTag name =>
    match name with
    | "colgroup" =>
      if b.currentNamed "colgroup" then .done (b.pop.enter .table) false
      else .done b.recover false
    | "col" => .done b.recover false
    | "template" => .done b.closeTemplate false
    | _ => b.leaveColumnGroup
  | t => b.inBody t

/-- The names between which a group of rows is closed. -/
def rowGroupContext : List String := "template" :: rowGroupNames

/-- A token in a group of rows. -/
def inTableBody (b : Builder) (t : Token) : Verdict :=
  let leave (b : Builder) : Verdict :=
    if b.spine.inScope stopsTable fun f => f.among ["table", "tbody", "tfoot"] then
      .again ((b.popTo rowGroupContext).pop.enter .table)
    else .done b.recover false
  match t with
  | .startTag tag =>
    match tag.name with
    | "tr" => .done (((b.popTo rowGroupContext).insert tag).enter .row) false
    | "td" | "th" =>
      .again (((b.recover.popTo rowGroupContext).insertNamed "tr").enter .row)
    | "caption" | "col" | "colgroup" | "tbody" | "tfoot" | "thead" => leave b
    | _ => b.inTable t
  | .endTag name =>
    if rowGroupNames.contains name then
      if b.hasInScope stopsTable name then
        .done ((b.popTo rowGroupContext).pop.enter .table) false
      else .done b.recover false
    else if name == "table" then leave b
    else if partNames.contains name || name == "body" || name == "html" then .done b.recover false
    else b.inTable t
  | t => b.inTable t

/-- A token in a row. -/
def inRow (b : Builder) (t : Token) : Verdict :=
  let close (b : Builder) : Builder := ((b.popTo ["tr", "template"]).pop).enter .tableBody
  let leave (b : Builder) : Verdict :=
    if b.hasInScope stopsTable "tr" then .again (close b) else .done b.recover false
  match t with
  | .startTag tag =>
    match tag.name with
    | "td" | "th" =>
      .done ((((b.popTo ["tr", "template"]).insert tag).enter .cell).pushMarker) false
    | "caption" | "col" | "colgroup" | "tbody" | "tfoot" | "thead" | "tr" => leave b
    | _ => b.inTable t
  | .endTag name =>
    if name == "tr" then
      if b.hasInScope stopsTable "tr" then .done (close b) false else .done b.recover false
    else if name == "table" then leave b
    else if rowGroupNames.contains name then
      if b.hasInScope stopsTable name then
        if b.hasInScope stopsTable "tr" then .again (close b) else .done b false
      else .done b.recover false
    else if partNames.contains name || name == "body" || name == "html" then .done b.recover false
    else b.inTable t
  | t => b.inTable t

/-- The names of cells. -/
def cellNames : List String := ["td", "th"]

/-- The state after the open cell is closed. -/
def closeCell (b : Builder) : Builder :=
  let b := b.closeImplied
  let b := b.recoverIf !(b.currentAmong cellNames)
  { b with spine := b.spine.popThrough fun f => f.among cellNames }.clearToMarker.enter .row

/-- A token in a cell. -/
def inCell (b : Builder) (t : Token) : Verdict :=
  match t with
  | .startTag tag =>
    if partNames.contains tag.name then
      if b.spine.inScope stopsTable fun f => f.among cellNames then .again b.closeCell
      else .done b.recover false
    else b.inBody t
  | .endTag name =>
    if cellNames.contains name then
      if b.hasInScope stopsTable name then
        .done ((b.closeImplied.closeNamed name).clearToMarker.enter .row) false
      else .done b.recover false
    else if ["body", "caption", "col", "colgroup", "html"].contains name then
      .done b.recover false
    else if fosterTargets.contains name then
      if b.hasInScope stopsTable name then .again b.closeCell else .done b.recover false
    else b.inBody t
  | t => b.inBody t

/-! ### Options -/

/-- The state after an open list of options is closed. -/
def closeSelect (b : Builder) : Builder :=
  (b.popThroughNamed "select").refit

/-- The state after the innermost element is closed, if it has a name. -/
def popNamed (b : Builder) (name : String) : Builder :=
  if b.currentNamed name then b.pop else b

/-- A start tag among options. -/
def startInSelect (b : Builder) (tag : Tag) : Verdict :=
  match tag.name with
  | "html" | "script" | "template" => b.startInBody tag
  | "option" => .done ((b.popNamed "option").insert tag) false
  | "optgroup" => .done (((b.popNamed "option").popNamed "optgroup").insert tag) false
  | "hr" => .done (((b.popNamed "option").popNamed "optgroup").insertVoid tag) true
  | "select" =>
    let b := b.recover
    .done (if b.hasInScope stopsSelect "select" then b.closeSelect else b) false
  | "input" | "keygen" | "textarea" =>
    let b := b.recover
    if b.hasInScope stopsSelect "select" then .again b.closeSelect else .done b false
  | _ => .done b.recover false

/-- An end tag among options. -/
def endInSelect (b : Builder) (name : String) : Builder :=
  match name with
  | "optgroup" =>
    let b :=
      match b.spine.listed with
      | f :: g :: _ => if f.named "option" && g.named "optgroup" then b.pop else b
      | _ => b
    if b.currentNamed "optgroup" then b.pop else b.recover
  | "option" => if b.currentNamed "option" then b.pop else b.recover
  | "select" => if b.hasInScope stopsSelect "select" then b.closeSelect else b.recover
  | "template" => b.closeTemplate
  | _ => b.recover

/-- A token among options. -/
def inSelect (b : Builder) (t : Token) : Verdict :=
  match t with
  | .char c => .done (if c == '\x00' then b.recover else b.insertChar c) false
  | .startTag tag => b.startInSelect tag
  | .endTag name => .done (b.endInSelect name) false
  | t => b.inBody t

/-- Parts of a table that end a list of options inside it. -/
def selectEndNames : List String :=
  ["caption", "table", "tbody", "tfoot", "thead", "tr", "td", "th"]

/-- A token among options in a table. -/
def inSelectInTable (b : Builder) (t : Token) : Verdict :=
  match t with
  | .startTag tag =>
    if selectEndNames.contains tag.name then .again b.recover.closeSelect else b.inSelect t
  | .endTag name =>
    if selectEndNames.contains name then
      let b := b.recover
      if b.hasInScope stopsTable name then .again b.closeSelect else .done b false
    else b.inSelect t
  | t => b.inSelect t

/-! ### Templates -/

/-- The state in which the innermost template is read in another mode. -/
def retemplate (b : Builder) (mode : Mode) : Builder :=
  { b with mode, templates := mode :: b.templates.drop 1 }

/-- Start tags that do not decide what a template is for. -/
def neutralNames : List String :=
  ["base", "basefont", "bgsound", "link", "meta", "noframes", "script", "style", "template",
    "title"]

/-- A token in a template: its first tag decides in which mode it is read. -/
def inTemplateMode (b : Builder) (t : Token) : Verdict :=
  match t with
  | .startTag tag =>
    if neutralNames.contains tag.name then b.startInBody tag
    else
      match tag.name with
      | "caption" | "colgroup" | "tbody" | "tfoot" | "thead" => .again (b.retemplate .table)
      | "col" => .again (b.retemplate .columnGroup)
      | "tr" => .again (b.retemplate .tableBody)
      | "td" | "th" => .again (b.retemplate .row)
      | _ => .again (b.retemplate .body)
  | .endTag name => .done (if name == "template" then b.closeTemplate else b.recover) false
  | t => b.inBody t

/-- A token in the text of an element that is read up to its end tag. -/
def inText (b : Builder) (t : Token) : Verdict :=
  match t with
  | .char c => .done (b.insertChar c) false
  | .stop => .again { b.recover.pop with mode := b.resume, content := .markup }
  | .endTag _ => .done { b.pop with mode := b.resume, content := .markup } false
  | t => b.inBody t

/-- A token in the current mode. -/
def inMode (b : Builder) (t : Token) : Verdict :=
  match b.mode with
  | .body => b.inBody t
  | .text => b.inText t
  | .table => b.inTable t
  | .tableText => b.inTableText t
  | .caption => b.inCaption t
  | .columnGroup => b.inColumnGroup t
  | .tableBody => b.inTableBody t
  | .row => b.inRow t
  | .cell => b.inCell t
  | .select => b.inSelect t
  | .selectInTable => b.inSelectInTable t
  | .template => b.inTemplateMode t

end Builder

end TwinRender.Markup
