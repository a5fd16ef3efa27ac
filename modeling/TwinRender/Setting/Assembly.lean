import TwinRender.Setting

/-!
# Assembling tables

A configuration file is a list of statements: headers, which open a table or one more table of a
list, and pairs of a dotted key and a setting. A table is opened once. A key may go on with a table
that dotted keys began, but not with one that has a header of its own or was written as a whole.

## Main definitions

* `Setting.Statement` — the statements;
* `Setting.Entry` — settings that may still grow;
* `Setting.assemble?` — the table that statements come to.
-/

namespace TwinRender.Setting

/-- How a table came to be. -/
inductive TableKind where
  /-- By a header, or as a whole. -/
  | opened
  /-- On the way to a table with a header. -/
  | implied
  /-- By dotted keys. -/
  | dotted
  deriving DecidableEq, Repr, Inhabited

/-- A setting that may still grow. -/
inductive Entry where
  /-- A setting that is complete. -/
  | value (s : Setting)
  /-- A table. -/
  | table (kind : TableKind) (entries : List (String × Entry))
  /-- A list of tables, of which the last may grow. -/
  | tables (items : List (List (String × Entry)))
  deriving Repr, Inhabited

/-- The entries of a table. -/
abbrev Entries := List (String × Entry)

mutual

/-- The setting that an entry is in the end. -/
def Entry.setting : Entry → Setting
  | .value s => s
  | .table _ entries => .table (settings entries)
  | .tables items => .list (settingsList items)

/-- The settings of a table in the end. -/
def settings : List (String × Entry) → List (String × Setting)
  | [] => []
  | (k, e) :: rest => (k, e.setting) :: settings rest

/-- The settings of a list of tables in the end. -/
def settingsList : List (List (String × Entry)) → List Setting
  | [] => []
  | entries :: rest => .table (settings entries) :: settingsList rest

end

/-- Entries with another value at a key that is present. -/
def update (key : String) (entry : Entry) (entries : Entries) : Entries :=
  entries.map fun e => if e.1 = key then (key, entry) else e

/-- Changes the table at the end of a path, and opens the tables on the way that are not there. The
way may lead into the last table of a list; the way of a dotted key may not lead into a table that
has been opened. -/
def descend (dotted : Bool) (change : TableKind → Entries → Option Entries) :
    List String → TableKind → Entries → Option Entries
  | [], kind, entries => change kind entries
  | key :: path, _, entries =>
    match entries.lookup key with
    | none => do
      let kind := if dotted then .dotted else .implied
      return entries ++ [(key, .table kind (← descend dotted change path kind []))]
    | some (.value _) => none
    | some (.tables items) =>
      match items.getLast? with
      | none => none
      | some last => do
        let last ← descend dotted change path .opened last
        return update key (.tables (items.dropLast ++ [last])) entries
    | some (.table kind inner) =>
      if dotted && kind == .opened then none
      else do
        return update key (.table kind (← descend dotted change path kind inner)) entries

/-- Adds a setting under a dotted key, of which the last segment must be new. -/
def addPair (path : List String) (key : String) (s : Setting) (entries : Entries) :
    Option Entries :=
  let add := fun kind entries =>
    if (kind == .dotted) == path.isEmpty || (entries.lookup key).isSome then none
    else some (entries ++ [(key, .value s)])
  descend true add path .opened entries

/-- Opens a table. One that was only implied so far moves behind the others. -/
def openTable (key : String) (_ : TableKind) (entries : Entries) : Option Entries :=
  match entries.lookup key with
  | none => some (entries ++ [(key, .table .opened [])])
  | some (.table .implied inner) =>
    some (entries.filter (fun e => e.1 != key) ++ [(key, .table .opened inner)])
  | some _ => none

/-- Opens one more table of a list. -/
def openListed (key : String) (_ : TableKind) (entries : Entries) : Option Entries :=
  match entries.lookup key with
  | none => some (entries ++ [(key, .tables [[]])])
  | some (.tables items) => some (update key (.tables (items ++ [[]])) entries)
  | some _ => none

/-- A statement of a configuration file. -/
inductive Statement where
  /-- A setting under a dotted key. -/
  | pair (path : List String) (key : String) (s : Setting)
  /-- The header of a table. -/
  | header (path : List String) (key : String)
  /-- The header of one more table of a list. -/
  | listHeader (path : List String) (key : String)
  deriving Repr, Inhabited

/-- The settings of a file after a statement, and the table that the next pairs belong to. -/
def apply (state : Entries × List String) : Statement → Option (Entries × List String)
  | .pair path key s => do
    return (← descend false (fun _ => addPair path key s) state.2 .opened state.1, state.2)
  | .header path key => do
    return (← descend false (openTable key) path .opened state.1, path ++ [key])
  | .listHeader path key => do
    return (← descend false (openListed key) path .opened state.1, path ++ [key])

/-- The table that statements come to; none if they contradict each other. -/
def assemble? (statements : List Statement) : Option Setting := do
  let state ← statements.foldlM apply ([], [])
  return .table (settings state.1)

/-- The table that pairs come to when it is written as a whole. -/
def inlineTable? (pairs : List (List String × String × Setting)) : Option Setting := do
  let entries ← pairs.foldlM (fun entries p => addPair p.1 p.2.1 p.2.2 entries) []
  return .table (settings entries)

end TwinRender.Setting
