import TwinRender.Markup.Table
import TwinRender.Markup.Token.Scan

/-!
# Parsing markup

Markup is parsed the way a browser parses a fragment that stands in the body of a page: no text
is refused, and what is not written properly is overlooked. The parser scans tokens and hands each
one to the rules; `parse` gives the tree, and `recoveries` what had to be overlooked.

## Main definitions

* `Builder.take` — the state after one token;
* `Builder.run` — the state after a whole text;
* `parse`, `recoveries` — the parsed tree and what was overlooked.
-/

namespace TwinRender.Markup

namespace Builder

/-! ### Drawings and formulas -/

/-- Start tags that end drawings and formulas. -/
def breakoutNames : List String :=
  ["b", "big", "blockquote", "body", "br", "center", "code", "dd", "div", "dl", "dt", "em",
    "embed", "h1", "h2", "h3", "h4", "h5", "h6", "head", "hr", "i", "img", "li", "listing",
    "menu", "meta", "nobr", "ol", "p", "pre", "ruby", "s", "small", "span", "strong", "strike",
    "sub", "sup", "table", "tt", "u", "ul", "var"]

/-- Elements that belong to a formula even inside its text. -/
def glyphNames : List String := ["mglyph", "malignmark"]

/-- Whether a token belongs to the drawing or formula it stands in. -/
def isForeign (b : Builder) (t : Token) : Bool :=
  match b.spine.current? with
  | none => false
  | some f =>
    f.vocabulary != .html &&
      match t with
      | .stop => false
      | .flaw => false
      | .char _ => !(isFormulaText f || isDrawingText f)
      | .startTag tag =>
        !((isFormulaText f && !(glyphNames.contains tag.name)) || isDrawingText f ||
          (f.vocabulary == .math && f.name == "annotation-xml" && tag.name == "svg"))
      | .endTag _ | .comment _ => true

/-- Closes a drawing or formula, and takes the token as one of the content around it. -/
def breakOut (b : Builder) (t : Token) : Verdict :=
  let inside := fun f : Frame =>
    f.vocabulary != .html && !isFormulaText f && !isDrawingText f
  inMode { b.recover with spine := b.spine.popWhile inside } t

/-- An end tag in a drawing or formula, given the open elements that are still to be looked at. -/
def endForeign (b : Builder) (name : String) (first : Bool) : List Frame → Verdict
  | [] => .done b false
  | f :: fs =>
    if !first && f.vocabulary == .html then b.inMode (.endTag name)
    else if f.name == name then
      .done { b with spine := b.spine.popThrough fun g => g.id == f.id } false
    else (b.recoverIf first).endForeign name false fs

/-- A token in a drawing or formula. -/
def inForeign (b : Builder) (t : Token) : Verdict :=
  match t with
  | .char c => .done (if c == '\x00' then b.recover.insertChar '\ufffd' else b.insertChar c) false
  | .comment text => .done (b.insertComment text) false
  | .startTag tag =>
    let styled := tag.attributes.any fun a => ["color", "face", "size"].contains a.1
    if breakoutNames.contains tag.name || (tag.name == "font" && styled) then b.breakOut t
    else b.insertForeign ((b.spine.current?.map Frame.vocabulary).getD .html) tag
  | .endTag name =>
    if name == "br" || name == "p" then b.breakOut t
    else b.endForeign name true b.spine.listed
  | t => b.inMode t

/-! ### Tokens -/

/-- A token in the current mode, in a drawing or formula or not. -/
def verdict (b : Builder) (t : Token) : Verdict :=
  if b.isForeign t then b.inForeign t else b.inMode t

/-- Hands a token to the rules until it is dealt with. -/
def settle (t : Token) : Nat → Builder → Builder
  | 0, b => b
  | fuel + 1, b =>
    match b.verdict t with
    | .again b => settle t fuel b
    | .done b slash =>
      match t with
      | .startTag tag => b.recoverIf (tag.selfClosing && !slash)
      | _ => b

/-- Each time a token is looked at again, an element is closed or the mode comes closer to the one
that deals with the token. -/
def patience (b : Builder) : Nat :=
  8 * (b.spine.frames.length + b.templates.length) + 16

/-- The state after one token. A line feed right behind some start tags is dropped. -/
def take (b : Builder) (t : Token) : Builder :=
  let skip := b.skipNewline
  let b := { b with skipNewline := false }
  match t with
  | .flaw => b.note .malformed
  | .char c => if skip && c == '\n' then b else settle t b.patience b
  | t => settle t b.patience b

/-- Whether the innermost element belongs to a drawing or formula. -/
def insideForeign (b : Builder) : Bool :=
  b.spine.current?.any fun f => f.vocabulary != .html

/-- The state after a text and its end. -/
def run (b : Builder) (cs : List Char) : Builder :=
  if h : cs = [] then b.take .stop
  else
    let scanned := scan b.content b.insideForeign cs
    have : scanned.2.length < cs.length := length_rest_scan_lt b.content b.insideForeign h
    run (scanned.1.foldl take b) scanned.2
termination_by cs.length

end Builder

/-- The state after the whole of a text. -/
def build (text : String) : Builder :=
  Builder.start.run (prepare text.toList)

/-- The tree that markup stands for. -/
def parse (text : String) : List Node :=
  (build text).spine.finish

/-- What had to be overlooked to parse markup, in order. -/
def recoveries (text : String) : List Recovery :=
  (build text).recoveries.reverse

end TwinRender.Markup
