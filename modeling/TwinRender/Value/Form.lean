import TwinRender.Value

/-!
# Records in data

A record is written as an object, or as the list of its fields in order; a choice between
records carries the name of its case. What a value stands for is made level by level, the parts
of a value before the value itself, so that reading ends on every value.

## Main definitions

* `Value.Form` — one level of a value, each part with what was made of it;
* `Value.fold` — what is made of a value from the bottom up;
* `Value.Form.record?`, `Value.Form.case?` — a level read as a record, or as a case of a choice;
* `Value.content?` — a value read as a case with one content.
-/

namespace TwinRender.Value

universe u

/-- One level of a value. Each part is given with what was made of it. -/
inductive Form (α : Type u) where
  /-- A value without parts. -/
  | atom (value : Value)
  /-- The items of an array. -/
  | listed (items : List (Value × α))
  /-- The members of an object. -/
  | named (fields : List (String × Value × α))

section Fold

variable {α : Type u} (make : Form α → α)

mutual

/-- What is made of a value, given what is made of one level. -/
def fold : Value → α
  | .array items => make (.listed (foldItems items))
  | .object fields => make (.named (foldFields fields))
  | .null => make (.atom .null)
  | .bool b => make (.atom (.bool b))
  | .number n => make (.atom (.number n))
  | .string s => make (.atom (.string s))

/-- What is made of the items of an array. -/
def foldItems : List Value → List (Value × α)
  | [] => []
  | v :: vs => (v, fold v) :: foldItems vs

/-- What is made of the members of an object. -/
def foldFields : List (String × Value) → List (String × Value × α)
  | [] => []
  | (k, v) :: fs => (k, v, fold v) :: foldFields fs

end

end Fold

namespace Form

variable {α : Type u}

/-- The fields of a record with the given names. A list has no more items than names. -/
def record? (names : List String) : Form α → Option (List (String × Value × α))
  | .atom _ => none
  | .listed items => if items.length ≤ names.length then some (names.zip items) else none
  | .named fields => some fields

/-- The name of a case, and the record behind it. In an object the name stands at `key`, in a
list it comes first. -/
def case? (key : String) : Form α → Option (String × Form α)
  | .listed ((.string name, _) :: items) => some (name, .listed items)
  | .named fields =>
    match fields.lookup key with
    | some (.string name, _) => some (name, .named (fields.filter fun f => f.1 != key))
    | _ => none
  | _ => none

end Form

/-- The fields of a record with the given names, when what they stand for is read separately. -/
def record? (names : List String) : Value → Option (List (String × Value))
  | .array items => if items.length ≤ names.length then some (names.zip items) else none
  | .object fields => some fields
  | _ => none

/-- The name of a case and its content, from the members `type` and `value` or a list of both. -/
def content? : Value → Option (String × Option Value)
  | .array [.string name, content] => some (name, some content)
  | .object fields =>
    match fields.lookup "type" with
    | some (.string name) => some (name, fields.lookup "value")
    | _ => none
  | _ => none

/-- A field that must be present, read by `read`. -/
def required {α : Type u} {β : Type u} (fields : List (String × α)) (name : String)
    (read : α → Option β) : Option β :=
  (fields.lookup name).bind read

/-- A field that may be left out for a default. -/
def optional {α : Type u} {β : Type u} (fields : List (String × α)) (name : String)
    (read : α → Option β) (default : β) : Option β :=
  match fields.lookup name with
  | none => some default
  | some part => read part

/-- A value that may be `null` for none. -/
def nullable {β : Type u} (read : Value → Option β) : Value → Option (Option β)
  | .null => some none
  | v => (read v).map some

/-- The string that a value is. -/
def string? : Value → Option String
  | .string s => some s
  | _ => none

/-- The truth value that a value is. -/
def bool? : Value → Option Bool
  | .bool b => some b
  | _ => none

/-- The unsigned 32-bit integer that a value is. Numbers with a decimal point are none. -/
def word? : Value → Option UInt32
  | .number (.int n) => if 0 ≤ n ∧ n < UInt32.size then some (UInt32.ofNat n.toNat) else none
  | _ => none

end TwinRender.Value
