/-!
# Maps in order of insertion

Attributes, slots and per-attribute settings are looked up by name and shown in the order in
which the names first came. A map is a list of entries with distinct keys: writing to a key that
is present changes its value and keeps its place, writing to a new key puts it last.

## Main definitions

* `OrderedMap` — the type, with `get?`, `insert`, `erase`, `ofList`;
* `OrderedMap.keys_insert`, `OrderedMap.get?_insert` — what writing does to keys and values.
-/

namespace TwinRender

universe u

/-- Entries with distinct keys, in order of insertion. -/
structure OrderedMap (β : Type u) where
  /-- The entries, first inserted first. -/
  entries : List (String × β)
  /-- No key stands twice. -/
  nodup : (entries.map Prod.fst).Nodup
  deriving DecidableEq, Repr

namespace OrderedMap

variable {β : Type u}

/-- The map without entries. -/
def empty : OrderedMap β := ⟨[], List.nodup_nil⟩

instance : Inhabited (OrderedMap β) := ⟨empty⟩

/-- The keys in order. -/
def keys (m : OrderedMap β) : List String := m.entries.map Prod.fst

/-- The entries in order. -/
def toList (m : OrderedMap β) : List (String × β) := m.entries

/-- The value at a key. -/
def get? (m : OrderedMap β) (key : String) : Option β := m.entries.lookup key

/-- Whether a key is present. -/
def contains (m : OrderedMap β) (key : String) : Bool := (m.get? key).isSome

/-- A list of entries after a write to `key`. -/
def write (key : String) (value : β) : List (String × β) → List (String × β)
  | [] => [(key, value)]
  | (k, v) :: rest => if k = key then (k, value) :: rest else (k, v) :: write key value rest

/-- A write keeps the keys in their order; a new key goes last. -/
theorem keys_write (key : String) (value : β) (entries : List (String × β)) :
    (write key value entries).map Prod.fst =
      if key ∈ entries.map Prod.fst then entries.map Prod.fst
      else entries.map Prod.fst ++ [key] := by
  induction entries with
  | nil => simp [write]
  | cons e rest ih =>
    obtain ⟨k, v⟩ := e
    by_cases h : k = key
    · subst h; simp [write]
    · have h' : ¬ key = k := fun e => h e.symm
      simp only [write, h, if_false, List.map_cons, ih, List.mem_cons, h', false_or]
      split <;> simp

/-- A write makes no key occur twice. -/
theorem nodup_write (key : String) (value : β) {entries : List (String × β)}
    (h : (entries.map Prod.fst).Nodup) : ((write key value entries).map Prod.fst).Nodup := by
  rw [keys_write]
  split
  · exact h
  · next hk => exact List.nodup_append.2 ⟨h, by simp, by simpa using fun a b hb e => hk (by
      subst e; exact List.mem_map.2 ⟨(a, b), hb, rfl⟩)⟩

/-- The map after a write: a present key keeps its place, a new one goes last. -/
def insert (m : OrderedMap β) (key : String) (value : β) : OrderedMap β :=
  ⟨write key value m.entries, nodup_write key value m.nodup⟩

/-- The map without a key; the other entries keep their order. -/
def erase (m : OrderedMap β) (key : String) : OrderedMap β :=
  ⟨m.entries.filter fun e => e.1 ≠ key,
    m.nodup.sublist (List.filter_sublist.map Prod.fst)⟩

/-- The map of a list of entries, written one after the other. -/
def ofList (entries : List (String × β)) : OrderedMap β :=
  entries.foldl (fun m e => m.insert e.1 e.2) empty

/-- The map with its keys in lower case. Keys that become equal are one. -/
def lowerKeys (m : OrderedMap β) : OrderedMap β :=
  ofList (m.entries.map fun e => (e.1.toLower, e.2))

/-- Whether two maps have the same values at the same keys, in whatever order. -/
def sameValues [BEq β] (m n : OrderedMap β) : Bool :=
  m.entries.length == n.entries.length && m.entries.all fun e => n.get? e.1 == some e.2

/-- The keys after a write. -/
theorem keys_insert (m : OrderedMap β) (key : String) (value : β) :
    (m.insert key value).keys = if key ∈ m.keys then m.keys else m.keys ++ [key] :=
  keys_write key value m.entries

/-- The values after a write. -/
theorem get?_insert (m : OrderedMap β) (key other : String) (value : β) :
    (m.insert key value).get? other = if other = key then some value else m.get? other := by
  obtain ⟨entries, nodup⟩ := m
  simp only [insert, get?]
  clear nodup
  induction entries with
  | nil =>
    by_cases h : other = key
    · subst h; simp [write]
    · have h' : (other == key) = false := by simpa using h
      simp [write, List.lookup_cons, h, h']
  | cons e rest ih =>
    obtain ⟨k, v⟩ := e
    by_cases h : k = key
    · subst h
      by_cases ho : other = k
      · subst ho; simp [write]
      · have ho' : (other == k) = false := by simpa using ho
        simp [write, List.lookup_cons, ho, ho']
    · by_cases ho : other = k
      · subst ho; simp [write, h]
      · have ho' : (other == k) = false := by simpa using ho
        simp [write, List.lookup_cons, h, ho', ih]

/-- Nothing is found in the map without entries. -/
@[simp]
theorem get?_empty (key : String) : (empty : OrderedMap β).get? key = none := rfl

end OrderedMap

end TwinRender
