import TwinRender.Value.Form

/-!
# Settings

Options are read from configuration files and from data. Both come to the same tree: flags, texts,
lists and tables; anything else is no setting. Tables keep the order in which they were written.

## Main definitions

* `Setting` — the tree;
* `Setting.ofValue` — data as settings;
* `Setting.record?`, `Setting.field` — a table read as a record of options.
-/

namespace TwinRender

/-- A setting. -/
inductive Setting where
  /-- A truth value. -/
  | flag (b : Bool)
  /-- A text. -/
  | text (s : String)
  /-- A list. -/
  | list (items : List Setting)
  /-- Settings by name, in order. -/
  | table (entries : List (String × Setting))
  /-- A number, a date or nothing. -/
  | other
  deriving Repr, Inhabited

namespace Setting

mutual

/-- Data as settings. -/
def ofValue : Value → Setting
  | .null => .other
  | .bool b => .flag b
  | .number _ => .other
  | .string s => .text s
  | .array items => .list (ofValues items)
  | .object fields => .table (ofFields fields)

/-- A list of data as settings. -/
def ofValues : List Value → List Setting
  | [] => []
  | v :: vs => ofValue v :: ofValues vs

/-- The members of an object as settings. -/
def ofFields : List (String × Value) → List (String × Setting)
  | [] => []
  | (k, v) :: fs => (k, ofValue v) :: ofFields fs

end

/-- The truth value that a setting is. -/
def flag? : Setting → Option Bool
  | .flag b => some b
  | _ => none

/-- The text that a setting is. -/
def text? : Setting → Option String
  | .text s => some s
  | _ => none

/-- The list that a setting is. -/
def list? : Setting → Option (List Setting)
  | .list items => some items
  | _ => none

/-- The table that a setting is. -/
def table? : Setting → Option (List (String × Setting))
  | .table entries => some entries
  | _ => none

/-- The options of a record with the given names: a table, or the list of the first of them. Names
that are not among them are overlooked. -/
def record? (names : List String) : Setting → Option (List (String × Setting))
  | .table entries => some entries
  | .list items => if items.length ≤ names.length then some (names.zip items) else none
  | _ => none

end Setting

end TwinRender
