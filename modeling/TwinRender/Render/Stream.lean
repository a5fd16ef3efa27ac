import TwinRender.Canonical.Text
import TwinRender.Html
import TwinRender.Render
import TwinRender.Text.Escape

/-!
# Streamed markup

A server program writes markup piece by piece, and marks a boundary behind every run of text, at
which the markup so far can be sent. Three things are decided late: whether a start tag is over,
whether a run of text stays empty and needs a placeholder, and whether a text is the first content
of an element in which a parser drops a line feed.

## Main definitions

* `Piece`, `Chunks` — what is written, and where it can be cut;
* `Writer`, `Writer.step` — the state of the writer, and what it writes for one more event;
* `Run.stream` — all that is written for a run, and how it ended;
* `renderToString`, `renderChunks` — the markup of a program.
-/

namespace TwinRender

/-- What goes to the reader of a stream. -/
inductive Piece where
  /-- Some markup. -/
  | markup (text : String)
  /-- The markup so far can be sent. -/
  | boundary
  deriving DecidableEq, Repr, Inhabited

/-- The text of a stream. -/
def Piece.join (pieces : List Piece) : String :=
  String.join (pieces.map fun p => match p with
    | .markup text => text
    | .boundary => "")

/-- The markup of a stream, cut at its boundaries. -/
structure Chunks where
  /-- The chunks that are complete. -/
  complete : List String
  /-- The markup behind the last boundary. -/
  current : String
  deriving DecidableEq, Repr, Inhabited

namespace Chunks

/-- Nothing has been written. -/
def empty : Chunks := ⟨[], ""⟩

/-- The chunks after a boundary. No chunk is empty. -/
def cut (c : Chunks) : Chunks :=
  if c.current.isEmpty then c else ⟨c.complete ++ [c.current], ""⟩

/-- The chunks after one more piece. -/
def push (c : Chunks) : Piece → Chunks
  | .markup text => { c with current := c.current ++ text }
  | .boundary => c.cut

/-- All chunks, when nothing more is written. -/
def finish (c : Chunks) : List String := c.cut.complete

/-- The chunks of a stream. -/
def ofPieces (pieces : List Piece) : Chunks := pieces.foldl push empty

end Chunks

/-! ### The writer -/

/-- The state of the writer. -/
structure Writer where
  /-- The tags of the elements that have not ended, innermost first. -/
  openTags : List String
  /-- A start tag has been begun and is not over. -/
  tagPending : Bool
  /-- The run of text is empty so far, and needs a placeholder if it ends like this. -/
  placeholderPending : Bool
  /-- The run of text has content. -/
  runHasText : Bool
  /-- The next text is the first content of an element in which a line feed is dropped. -/
  atLeadingNewline : Bool
  deriving DecidableEq, Repr, Inhabited

namespace Writer

/-- Nothing has been written. -/
def start : Writer := ⟨[], false, false, false, false⟩

/-- What ends a start tag. -/
def endOfTag (w : Writer) : List Piece := if w.tagPending then [.markup ">"] else []

/-- What ends a run of text. -/
def endOfRun (w : Writer) : List Piece :=
  if w.placeholderPending then [.markup (String.singleton placeholder)] else []

/-- The writer behind a tag, with no run of text begun. -/
def betweenRuns (w : Writer) : Writer :=
  { w with
    tagPending := false
    placeholderPending := false
    runHasText := false
    atLeadingNewline := false }

/-- An attribute in a start tag. Values of boolean attributes and empty values are not written. -/
def attributePieces (name value : String) : List Piece :=
  if value.isEmpty || Html.isBoolean name then [.markup " ", .markup name]
  else [.markup " ", .markup name, .markup "=\"", .markup (Text.escape value), .markup "\""]

/-- Whether text is written as it is. -/
def inRawText (w : Writer) : Bool := w.openTags.head?.any Html.isRawText

/-- The state and the output of the writer after one more event. -/
def step (w : Writer) : Event → Except RenderError (Writer × List Piece)
  | .openElement tag =>
    .ok ({ w.betweenRuns with
            openTags := tag :: w.openTags
            tagPending := true
            atLeadingNewline := Html.dropsLeadingNewline tag },
      w.endOfTag ++ w.endOfRun ++ [.markup "<", .markup tag])
  | .attribute name value => .ok (w, attributePieces name value)
  | .closeElement tag =>
    match w.openTags with
    | t :: ts =>
      if t = tag then
        .ok ({ w.betweenRuns with openTags := ts },
          w.endOfTag ++ w.endOfRun ++
            if Html.isVoid tag then [] else [.markup "</", .markup tag, .markup ">"])
      else .error (.unbalancedClose tag)
    | [] => .error (.unbalancedClose tag)
  | .text text =>
    if text.isEmpty then
      .ok ({ w with tagPending := false, placeholderPending := !w.runHasText },
        w.endOfTag ++ [.boundary])
    else
      let newline := w.atLeadingNewline && text.toList.head? == some '\n'
      .ok ({ w.betweenRuns with runHasText := true },
        w.endOfTag ++ (if newline then [.markup "\n"] else []) ++
          [.markup (if w.inRawText then text else Text.escape text), .boundary])

/-- What is written when no more events come. -/
def finish (w : Writer) : List Piece := w.endOfTag ++ w.endOfRun

/-- What is written for events, and the state behind them or the failure. -/
def feed (w : Writer) : List Event → List Piece × Except RenderError Writer
  | [] => ([], .ok w)
  | e :: es =>
    match w.step e with
    | .error reason => ([], .error reason)
    | .ok (next, pieces) =>
      let rest := feed next es
      (pieces ++ rest.1, rest.2)

end Writer

/-- All that is written for what running a program came to, and the failure if there was one. -/
def Run.stream (r : Run) : List Piece × Option RenderError :=
  match Writer.start.feed r.events with
  | (pieces, .error reason) => (pieces, some reason)
  | (pieces, .ok w) =>
    match r.state with
    | .error reason => (pieces, some reason)
    | .ok _ => (pieces ++ w.finish, none)

/-- All that a server program writes for a scope. -/
def stream (p : Program) (scope : Scope) : List Piece × Option RenderError :=
  (p.run .server scope).stream

/-- The result of a stream that must not fail. -/
def streamed {α : Type} (read : List Piece → α) (s : List Piece × Option RenderError) :
    Except RenderError α :=
  match s.2 with
  | some reason => .error reason
  | none => .ok (read s.1)

/-- The markup of a program. -/
def renderToString (p : Program) (scope : Scope) : Except RenderError String :=
  streamed Piece.join (stream p scope)

/-- The markup of a program, cut behind every run of text. -/
def renderChunks (p : Program) (scope : Scope) : Except RenderError (List String) :=
  streamed (fun pieces => (Chunks.ofPieces pieces).finish) (stream p scope)

end TwinRender
