import TwinRender.Text.Space

/-!
# Mismatches

A mismatch says where the live tree differs from the expected one, and how: an attribute or a text
has another value, a node is missing, or one is there that nobody expects.

## Main definitions

* `Divergence`, `Mismatch` — what differs, and where;
* `MismatchKind` — the kinds of mismatches, as reports name them;
* `Mismatch.locator` — the place of a mismatch as reports show it.
-/

namespace TwinRender

/-- What differs. A node is given as messages show it. -/
inductive Divergence where
  /-- An attribute has another value, or is only on one side. -/
  | attribute (name : String) (expected found : Option String)
  /-- A text has other content. -/
  | text (expected found : String)
  /-- A node is missing; another one, or none, is in its place. -/
  | missing (expected : String) (found : Option String)
  /-- A node is there that is not expected. -/
  | extra (found : String)
  deriving DecidableEq, Repr, Inhabited

/-- The kinds of mismatches. -/
inductive MismatchKind where
  /-- An attribute other than the style. -/
  | attributeValue
  /-- The style. -/
  | styleValue
  /-- A missing node. -/
  | missingNode
  /-- A node too many. -/
  | extraNode
  /-- A text. -/
  | textValue
  deriving DecidableEq, Repr, Inhabited

namespace MismatchKind

/-- Whether nodes differ, and not only values. -/
def isStructural : MismatchKind → Bool
  | .missingNode | .extraNode => true
  | _ => false

/-- A kind as reports name it. -/
def text : MismatchKind → String
  | .attributeValue => "attribute-value"
  | .styleValue => "style-value"
  | .missingNode => "missing-node"
  | .extraNode => "extra-node"
  | .textValue => "text-value"

end MismatchKind

namespace Divergence

/-- The kind of a divergence. -/
def kind : Divergence → MismatchKind
  | .attribute name _ _ =>
    if Text.sameIgnoringCase name "style" then .styleValue else .attributeValue
  | .text _ _ => .textValue
  | .missing _ _ => .missingNode
  | .extra _ => .extraNode

/-- The name of the attribute that differs. -/
def name? : Divergence → Option String
  | .attribute name _ _ => some name
  | _ => none

/-- The value or node that was expected. -/
def expected? : Divergence → Option String
  | .attribute _ expected _ => expected
  | .text expected _ => some expected
  | .missing expected _ => some expected
  | .extra _ => none

/-- The value or node that was found. -/
def found? : Divergence → Option String
  | .attribute _ _ found => found
  | .text _ found => some found
  | .missing _ found => found
  | .extra found => some found

end Divergence

/-- A difference between the live tree and the expected one. -/
structure Mismatch where
  /-- The positions on the way down, among the children at each level. -/
  path : List Nat
  /-- The element that differs in an attribute, or has differing children. -/
  subject : String
  /-- What differs. -/
  divergence : Divergence
  deriving DecidableEq, Repr, Inhabited

namespace Mismatch

/-- The kind of a mismatch. -/
def kind (m : Mismatch) : MismatchKind := m.divergence.kind

/-- The place of a mismatch: the positions behind slashes. -/
def locator (m : Mismatch) : String :=
  if m.path.isEmpty then "/" else String.join (m.path.map fun i => "/" ++ toString i)

end Mismatch

end TwinRender
