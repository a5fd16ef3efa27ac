/-!
# Data values

Templates are rendered against JSON-like data. Objects are maps sorted by key, so two objects
with the same members are one value. Numbers keep the difference between integers and
floating-point numbers, because the two are written differently.

## Main definitions

* `Number`, `Value` — the data;
* `Value.ofFields` — an object from members in any order;
* `Value.field?`, `Value.truthy` — member lookup and the truth value of a condition.
-/

namespace TwinRender

/-- A number: an exact integer, or a finite 64-bit floating-point number given by its bits. -/
inductive Number where
  /-- An integer between `-2 ^ 63` and `2 ^ 64 - 1`. -/
  | int (n : Int)
  /-- The floating-point number with these bits. -/
  | float (bits : UInt64)
  deriving DecidableEq, Repr, Inhabited

/-- Whether a number is zero; both floating-point zeros are. -/
def Number.isZero : Number → Bool
  | .int n => n == 0
  | .float bits => 2 * bits.toNat % UInt64.size == 0

/-- A data value. The members of an object stand in increasing order of their keys. -/
inductive Value where
  /-- The absent value. -/
  | null
  /-- A truth value. -/
  | bool (b : Bool)
  /-- A number. -/
  | number (n : Number)
  /-- A string. -/
  | string (s : String)
  /-- A sequence of values. -/
  | array (items : List Value)
  /-- Members by key. -/
  | object (fields : List (String × Value))
  deriving Inhabited, Repr, BEq

namespace Value

/-- Members after one more is added: in key order, a repeated key taking the new value. -/
def insertField (key : String) (value : Value) : List (String × Value) → List (String × Value)
  | [] => [(key, value)]
  | (k, v) :: rest =>
    if key = k then (k, value) :: rest
    else if key < k then (key, value) :: (k, v) :: rest
    else (k, v) :: insertField key value rest

/-- The object with the given members; of a repeated key the last value counts. -/
def ofFields (fields : List (String × Value)) : Value :=
  .object (fields.foldl (fun acc f => insertField f.1 f.2 acc) [])

/-- The member of an object at a key. -/
def field? (key : String) : Value → Option Value
  | .object fields => fields.lookup key
  | _ => none

/-- The number with a natural value. -/
def ofNat (n : Nat) : Value := .number (.int n)

/-- Whether a condition holds: `null`, `false`, zero and the empty string do not. -/
def truthy : Value → Bool
  | .null => false
  | .bool b => b
  | .number n => !n.isZero
  | .string s => !s.isEmpty
  | .array _ | .object _ => true

/-- What kind of value this is, as messages say it. -/
def kindName : Value → String
  | .null => "null"
  | .bool _ => "a boolean"
  | .number _ => "a number"
  | .string _ => "a string"
  | .array _ => "an array"
  | .object _ => "an object"

/-- A name read as an index: digits, with an optional plus sign, below `2 ^ 64`. -/
def indexOf? (name : String) : Option Nat :=
  let digits := match name.toList with
    | '+' :: rest => rest
    | cs => cs
  if digits.isEmpty || !digits.all Char.isDigit then none
  else
    let n := digits.foldl (fun n c => 10 * n + (c.toNat - 48)) 0
    if n < UInt64.size then some n else none

/-- Member access: members of objects, items and length of arrays, length of strings; everything
else is `null`. -/
def member (object : Value) (name : String) : Value :=
  match object with
  | .object fields => (fields.lookup name).getD .null
  | .array items =>
    if name = "length" then ofNat items.length
    else ((indexOf? name).bind fun i => items[i]?).getD .null
  | .string s => if name = "length" then ofNat s.length else .null
  | _ => .null

end Value

end TwinRender
