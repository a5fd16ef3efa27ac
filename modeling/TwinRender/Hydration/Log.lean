import TwinRender.Hydration.Pass

/-!
# The log of a pass

A pass is logged from its beginning to its end, with one entry for each message in between.

## Main definitions

* `LogEntry` — what is logged;
* `Diagnostics.log`, `Report.log` — the log of messages and of a pass.
-/

namespace TwinRender

/-- What is logged. -/
inductive LogEntry where
  /-- The pass begins at a root, under which so many nodes are expected. -/
  | started (root : NodeId) (nodes : Nat)
  /-- A message, with its place among the messages. -/
  | message (sequence : Nat) (diagnostic : Diagnostic)
  /-- The pass is over. -/
  | finished (state : HydrationState) (mismatches replaced patched : Nat)
  deriving DecidableEq, Repr, Inhabited

/-- The log of messages. -/
def Diagnostics.log (d : Diagnostics) : List LogEntry :=
  d.entries.zipIdx.map fun e => .message e.2 e.1

/-- The log of a pass. Ignored mismatches count too. -/
def Report.log (r : Report) (root : NodeId) (expected : List VNode) : List LogEntry :=
  .started root expected.length :: r.diagnostics.log ++
    [.finished r.state r.records.length r.replaced r.patched]

end TwinRender
