import TwinRender.Hydration.Mismatch

/-!
# Diagnostics

Every reported mismatch leaves one message. Differing values are warnings, differing nodes errors.
A pass that reported something ends with one more warning.

## Main definitions

* `Diagnostic`, `Diagnostic.ofMismatch` — messages;
* `Diagnostics`, `Diagnostics.report`, `Diagnostics.finish` — the messages of a pass.
-/

namespace TwinRender

/-- How serious a message is. -/
inductive Level where
  /-- A value differs, or the pass is over. -/
  | warn
  /-- A node differs. -/
  | error
  deriving DecidableEq, Repr, Inhabited

/-- The name of a level. -/
def Level.text : Level → String
  | .warn => "warn"
  | .error => "error"

/-- A message with its level. -/
structure Diagnostic where
  /-- How serious it is. -/
  level : Level
  /-- The message. -/
  message : String
  deriving DecidableEq, Repr, Inhabited

namespace Diagnostic

/-- A value between quotes, or `null` for none. -/
def quotedOrNull : Option String → String
  | some value => "\"" ++ value ++ "\""
  | none => "null"

/-- The message for a mismatch. -/
def ofMismatch (m : Mismatch) : Diagnostic :=
  let element := "Mismatch hydrating element " ++ m.subject ++ ": "
  match m.divergence with
  | .attribute name expected found =>
    ⟨.warn, element ++ "attribute \"" ++ name ++ "\" has different values, expected " ++
      quotedOrNull expected ++ " but found " ++ quotedOrNull found⟩
  | .text expected found =>
    ⟨.warn, "Mismatch hydrating text node in " ++ m.subject ++
      ": text values do not match, expected \"" ++ expected ++ "\" but found \"" ++ found ++ "\""⟩
  | .missing expected found =>
    ⟨.error, element ++ "expected node " ++ expected ++ " but found " ++ found.getD "nothing"⟩
  | .extra found => ⟨.error, element ++ "expected nothing but found " ++ found⟩

/-- The message at the end of a pass that reported something. -/
def completed : Diagnostic := ⟨.warn, "Hydration completed with errors."⟩

/-- A message as reports show it. -/
def text (d : Diagnostic) : String := "[" ++ d.level.text ++ "]: " ++ d.message

end Diagnostic

/-- The messages of a pass, and whether it is over. -/
structure Diagnostics where
  /-- The messages in order. -/
  entries : List Diagnostic
  /-- Whether the pass is over. -/
  finished : Bool
  deriving DecidableEq, Repr, Inhabited

namespace Diagnostics

/-- No messages. -/
def empty : Diagnostics := ⟨[], false⟩

/-- The messages after one more. -/
def push (d : Diagnostics) (entry : Diagnostic) : Diagnostics :=
  { d with entries := d.entries ++ [entry] }

/-- The messages after a mismatch is reported. -/
def report (d : Diagnostics) (m : Mismatch) : Diagnostics := d.push (.ofMismatch m)

/-- The messages when the pass is over: one more if there are any. A second end changes nothing. -/
def finish (d : Diagnostics) : Diagnostics :=
  if d.finished then d
  else
    let d := { d with finished := true }
    if d.entries.isEmpty then d else d.push .completed

/-- The messages at a level. -/
def atLevel (d : Diagnostics) (level : Level) : List String :=
  (d.entries.filter fun entry => entry.level == level).map Diagnostic.message

end Diagnostics

end TwinRender
