import Mathlib
import TwinRender.Template.Codec

/-!
# Templates survive being written as data

Nodes, blocks of control and values tell their cases by the name of the case: nodes under one key,
blocks under another one beside it, and values with their content behind the name. No field of a
case has the key that the name of the case has, no two fields of a case have the same key, and none
of the values that may be absent is ever written as `null`. So what is written of a template is read
as the same template.

## Main definitions

* `Value.IsSorted`: data in which no key stands twice, and all keys are in order.

## Main results

* `Template.Node.ofValue?_toValue`, `Template.ofValue?_toValue`: nodes and templates are read back.
* `Template.isSorted_toValue`: the keys of a written template are in order.
* `Template.codec_roundTrip`: **templates survive being written as data**.
-/

namespace TwinRender

open Value (Form required optional nullable)

/-! ### Reading fields -/

namespace Value

universe u

variable {α β : Type u} {read : α → Option β} {name key : String} {part : α}
  {fields : List (String × α)} {default : β}

/-- A field that must be present is the first one with its name. -/
@[simp] theorem required_cons :
    required ((key, part) :: fields) name read =
      if name = key then read part else required fields name read := by
  rw [required, List.lookup_cons]
  by_cases h : name = key
  · subst h
    simp
  · have hne : (name == key) = false := by simpa using h
    rw [hne, if_neg h, required]

/-- A field that may be left out is the first one with its name. -/
@[simp] theorem optional_cons :
    optional ((key, part) :: fields) name read default =
      if name = key then read part else optional fields name read default := by
  rw [optional, List.lookup_cons]
  by_cases h : name = key
  · subst h
    simp
  · have hne : (name == key) = false := by simpa using h
    rw [hne, if_neg h, optional]

/-- An object is a record of its members. -/
@[simp] theorem record?_object (names : List String) (fields : List (String × Value)) :
    (object fields).record? names = some fields := rfl

/-- The members of one level are a record. -/
@[simp] theorem Form.record?_named (names : List String) (fields : List (String × Value × α)) :
    (Form.named fields).record? names = some fields := rfl

/-- What is made of an array is made of its items. -/
@[simp] theorem fold_array (make : Form α → α) (items : List Value) :
    (array items).fold make = make (.listed (foldItems make items)) := by
  rw [fold]

/-- What is made of an object is made of its members. -/
@[simp] theorem fold_object (make : Form α → α) (fields : List (String × Value)) :
    (object fields).fold make = make (.named (foldFields make fields)) := by
  rw [fold]

attribute [simp] foldItems foldFields

/-- An optional value is read back if it is never `null`. -/
theorem nullable_of_ne_null {γ : Type} {read : Value → Option γ} {v : Value} (h : v ≠ .null) :
    nullable read v = (read v).map some := by
  cases v with
  | null => exact absurd rfl h
  | _ => rfl

/-- An unsigned 32-bit integer is read back. -/
theorem word?_ofNat (n : UInt32) : (ofNat n.toNat).word? = some n := by
  have hlt : (n.toNat : Int) < UInt32.size := by exact_mod_cast n.toNat_lt
  rw [ofNat, word?, if_pos ⟨Int.natCast_nonneg _, hlt⟩, Int.toNat_natCast, UInt32.ofNat_toNat]

end Value

/-! ### Literals, expressions and places -/

/-- A literal is read back. -/
theorem Literal.ofValue?_toValue (l : Literal) : Literal.ofValue? l.toValue = some l := by
  cases l <;> simp [toValue, ofValue?, Value.content?, List.lookup]

/-- An expression is read back. -/
theorem Expression.ofValue?_toValue (e : Expression) : Expression.ofValue? e.toValue = some e := by
  induction e with
  | identifier name => simp [ofValue?, toValue, ofForm?, Form.case?, List.lookup, Value.string?]
  | literal l =>
      simp [ofValue?, toValue, ofForm?, Form.case?, Literal.ofValue?_toValue]
  | member object property ih =>
      rw [ofValue?] at ih
      simp [ofValue?, toValue, ofForm?, Form.case?, List.lookup, Value.string?, ih]

/-- A place is read back. -/
theorem Location.ofValue?_toValue (l : Location) : Location.ofValue? l.toValue = some l := by
  -- a proof for each step, so that the bound of a coordinate is never unfolded
  simp -implicitDefEqProofs [ofValue?, toValue, Value.word?_ofNat]

namespace Template

/-! ### Attributes and texts -/

/-- The value of an attribute is read back. -/
theorem AttributeValue.ofValue?_toValue (a : AttributeValue) : ofValue? a.toValue = some a := by
  cases a <;> simp [toValue, ofValue?, Value.content?, List.lookup, Expression.ofValue?_toValue]

/-- The content of a text node is read back. -/
theorem TextValue.ofValue?_toValue (a : TextValue) : ofValue? a.toValue = some a := by
  cases a <;> simp [toValue, ofValue?, Value.content?, List.lookup, Expression.ofValue?_toValue]

/-- An attribute is read back. -/
theorem Attribute.ofValue?_toValue (a : Attribute) : ofValue? a.toValue = some a := by
  simp [toValue, ofValue?, Value.string?, AttributeValue.ofValue?_toValue,
    Location.ofValue?_toValue]

/-- Attributes are read back. -/
theorem Attribute.listOfValue?_toValue (attributes : List Attribute) :
    listOfValue? (.array (attributes.map toValue)) = some attributes := by
  rw [listOfValue?]
  induction attributes with
  | nil => rfl
  | cons a rest ih =>
      rw [List.map_cons, List.mapM_cons, ofValue?_toValue, ih]
      rfl

namespace Node

/-! ### Nodes -/

/-- An optional value is read back if none that is present is written as `null`. -/
theorem nullable_absent {α : Type} {read : Value → Option α} {write : α → Value}
    (hread : ∀ a, read (write a) = some a) (hwrite : ∀ a, write a ≠ .null) (o : Option α) :
    nullable read (absent write o) = some o := by
  cases o with
  | none => rfl
  | some a =>
      rw [absent, Value.nullable_of_ne_null (hwrite a), hread]
      rfl

/-- The name of a slot is read back. -/
theorem nullable_absent_attributeValue (o : Option AttributeValue) :
    nullable AttributeValue.ofValue? (absent AttributeValue.toValue o) = some o :=
  nullable_absent AttributeValue.ofValue?_toValue (fun a => by cases a <;> nofun) o

/-- The name of a position is read back. -/
theorem nullable_absent_string (o : Option String) :
    nullable Value.string? (absent Value.string o) = some o :=
  @nullable_absent String Value.string? .string (fun _ => rfl) (fun _ => nofun) o

/-- The condition of a branch is read back. -/
theorem nullable_absent_expression (o : Option Expression) :
    nullable Expression.ofValue? (absent Expression.toValue o) = some o :=
  nullable_absent Expression.ofValue?_toValue (fun e => by cases e <;> nofun) o

mutual

/-- **A node is read back.** -/
theorem ofValue?_toValue (n : Node) : ofValue? n.toValue = some n := by
  cases n with
  | element tag attributes children location =>
      simp -implicitDefEqProofs [ofValue?, toValue, rolesOfForm, nodeOfForm?, Form.case?,
        List.lookup, nodesOf?, locationOf?, Value.string?, Attribute.listOfValue?_toValue,
        Location.ofValue?_toValue, mapM_node_listToValue children]
  | text value location =>
      simp -implicitDefEqProofs [ofValue?, toValue, rolesOfForm, nodeOfForm?, Form.case?,
        List.lookup, locationOf?, TextValue.ofValue?_toValue, Location.ofValue?_toValue]
  | expression value location =>
      simp -implicitDefEqProofs [ofValue?, toValue, rolesOfForm, nodeOfForm?, Form.case?,
        List.lookup, expressionOf?, locationOf?, Expression.ofValue?_toValue,
        Location.ofValue?_toValue]
  | slot name fallback location =>
      simp -implicitDefEqProofs [ofValue?, toValue, rolesOfForm, nodeOfForm?, Form.case?,
        List.lookup, nodesOf?, locationOf?, nullable_absent_attributeValue,
        Location.ofValue?_toValue, mapM_node_listToValue fallback]
  | cond condition negated children location =>
      simp -implicitDefEqProofs [ofValue?, toValue, rolesOfForm, nodeOfForm?, blockOfForm?,
        Form.case?, List.lookup, expressionOf?, nodesOf?, locationOf?, Value.bool?,
        Expression.ofValue?_toValue, Location.ofValue?_toValue, mapM_node_listToValue children]
  | chain branches location =>
      simp -implicitDefEqProofs [ofValue?, toValue, rolesOfForm, nodeOfForm?, blockOfForm?,
        Form.case?, List.lookup, locationOf?, Location.ofValue?_toValue,
        mapM_branch_branchesToValue branches]
  | each collection item index children location =>
      simp -implicitDefEqProofs [ofValue?, toValue, rolesOfForm, nodeOfForm?, blockOfForm?,
        Form.case?, List.lookup, expressionOf?, nodesOf?, locationOf?, Value.string?,
        Expression.ofValue?_toValue, nullable_absent_string, Location.ofValue?_toValue,
        mapM_node_listToValue children]

/-- Nodes are read back. -/
theorem mapM_node_listToValue (ns : List Node) :
    (Value.foldItems rolesOfForm (listToValue ns)).mapM (·.2.node) = some ns := by
  cases ns with
  | nil => rfl
  | cons n ns =>
      have hfirst := ofValue?_toValue n
      rw [ofValue?] at hfirst
      rw [listToValue, Value.foldItems, List.mapM_cons, hfirst, mapM_node_listToValue ns]
      rfl

/-- Branches are read back. -/
theorem mapM_branch_branchesToValue (branches : List (Option Expression × List Node)) :
    (Value.foldItems rolesOfForm (branchesToValue branches)).mapM (·.2.branch) = some branches := by
  cases branches with
  | nil => rfl
  | cons branch rest =>
      obtain ⟨condition, children⟩ := branch
      rw [branchesToValue, Value.foldItems, List.mapM_cons, mapM_branch_branchesToValue rest]
      simp [rolesOfForm, branchOfForm?, nodesOf?, nullable_absent_expression,
        mapM_node_listToValue children]

end

end Node

/-- **A template is read back.** -/
theorem ofValue?_toValue (t : Template) : ofValue? t.toValue = some t := by
  have hnodes : Node.listOfValue? (.array (Node.listToValue t.nodes)) = some t.nodes := by
    rw [Node.listOfValue?, Value.fold_array, Node.rolesOfForm]
    exact Node.mapM_node_listToValue t.nodes
  simp [ofValue?, toValue, Value.string?, hnodes]

end Template

/-! ### Keys in order -/

namespace Value

mutual

/-- The keys of every object in a value stand in increasing order, so that none stands twice. -/
def IsSorted : Value → Prop
  | .array items => AreSorted items
  | .object fields => (fields.map Prod.fst).Pairwise (· < ·) ∧ FieldsSorted fields
  | _ => True

/-- The keys of every object in some values stand in increasing order. -/
def AreSorted : List Value → Prop
  | [] => True
  | v :: vs => v.IsSorted ∧ AreSorted vs

/-- The keys of every object in the members of an object stand in increasing order. -/
def FieldsSorted : List (String × Value) → Prop
  | [] => True
  | (_, v) :: fields => v.IsSorted ∧ FieldsSorted fields

end

/-- An object whose keys are known. -/
theorem isSorted_object {fields : List (String × Value)} (keys : List String)
    (hfields : fields.map Prod.fst = keys) (hkeys : keys.Pairwise (· < ·))
    (h : FieldsSorted fields) : (object fields).IsSorted :=
  ⟨hfields ▸ hkeys, h⟩

end Value

open Value (IsSorted AreSorted isSorted_object)

/-- The keys of a written literal are in order. -/
theorem Literal.isSorted_toValue (l : Literal) : l.toValue.IsSorted := by
  cases l with
  | string s =>
      exact isSorted_object ["type", "value"] rfl (by decide) ⟨trivial, trivial, trivial⟩
  | number n =>
      exact isSorted_object ["type", "value"] rfl (by decide) ⟨trivial, trivial, trivial⟩
  | bool b => exact isSorted_object ["type", "value"] rfl (by decide) ⟨trivial, trivial, trivial⟩
  | null => exact isSorted_object ["type"] rfl (by decide) ⟨trivial, trivial⟩

/-- The keys of a written expression are in order. -/
theorem Expression.isSorted_toValue (e : Expression) : e.toValue.IsSorted := by
  induction e with
  | identifier name =>
      exact isSorted_object ["name", "type"] rfl (by decide) ⟨trivial, trivial, trivial⟩
  | member object property ih =>
      exact isSorted_object ["object", "property", "type"] rfl (by decide)
        ⟨ih, trivial, trivial, trivial⟩
  | literal l =>
      exact isSorted_object ["type", "value"] rfl (by decide) ⟨trivial, l.isSorted_toValue, trivial⟩

/-- The keys of a written place are in order. -/
theorem Location.isSorted_toValue (l : Location) : l.toValue.IsSorted :=
  isSorted_object ["column", "line"] rfl (by decide) ⟨trivial, trivial, trivial⟩

namespace Template

/-- The keys of the written value of an attribute are in order. -/
theorem AttributeValue.isSorted_toValue (a : AttributeValue) : a.toValue.IsSorted := by
  cases a with
  | literal s =>
      exact isSorted_object ["type", "value"] rfl (by decide) ⟨trivial, trivial, trivial⟩
  | expression e =>
      exact isSorted_object ["type", "value"] rfl (by decide) ⟨trivial, e.isSorted_toValue, trivial⟩
  | boolean => exact isSorted_object ["type"] rfl (by decide) ⟨trivial, trivial⟩

/-- The keys of the written content of a text are in order. -/
theorem TextValue.isSorted_toValue (value : TextValue) : value.toValue.IsSorted := by
  cases value with
  | literal s =>
      exact isSorted_object ["type", "value"] rfl (by decide) ⟨trivial, trivial, trivial⟩
  | expression e =>
      exact isSorted_object ["type", "value"] rfl (by decide) ⟨trivial, e.isSorted_toValue, trivial⟩

/-- The keys of written attributes are in order. -/
theorem Attribute.areSorted_toValue (attributes : List Attribute) :
    AreSorted (attributes.map toValue) := by
  induction attributes with
  | nil => trivial
  | cons a rest ih =>
      exact ⟨isSorted_object ["location", "name", "value"] rfl (by decide)
        ⟨a.location.isSorted_toValue, trivial, a.value.isSorted_toValue, trivial⟩, ih⟩

namespace Node

/-- The keys of an optional value are in order, also where it is absent. -/
theorem isSorted_absent {α : Type} {write : α → Value} (h : ∀ a, (write a).IsSorted)
    (o : Option α) : (absent write o).IsSorted := by
  cases o with
  | none => trivial
  | some a => exact h a

mutual

/-- The keys of a written node are in order. -/
theorem isSorted_toValue (n : Node) : n.toValue.IsSorted := by
  cases n with
  | element tag attributes children location =>
      exact isSorted_object ["attributes", "children", "location", "tag", "type"] rfl (by decide)
        ⟨Attribute.areSorted_toValue attributes, areSorted_listToValue children,
          location.isSorted_toValue, trivial, trivial, trivial⟩
  | text value location =>
      exact isSorted_object ["location", "type", "value"] rfl (by decide)
        ⟨location.isSorted_toValue, trivial, value.isSorted_toValue, trivial⟩
  | expression value location =>
      exact isSorted_object ["expression", "location", "type"] rfl (by decide)
        ⟨value.isSorted_toValue, location.isSorted_toValue, trivial, trivial⟩
  | slot name fallback location =>
      exact isSorted_object ["fallback", "location", "name", "type"] rfl (by decide)
        ⟨areSorted_listToValue fallback, location.isSorted_toValue,
          isSorted_absent AttributeValue.isSorted_toValue name, trivial, trivial⟩
  | cond condition negated children location =>
      exact isSorted_object ["children", "condition", "kind", "location", "negated", "type"] rfl
        (by decide) ⟨areSorted_listToValue children, condition.isSorted_toValue, trivial,
          location.isSorted_toValue, trivial, trivial, trivial⟩
  | chain branches location =>
      exact isSorted_object ["branches", "kind", "location", "type"] rfl (by decide)
        ⟨areSorted_branchesToValue branches, trivial, location.isSorted_toValue, trivial, trivial⟩
  | each collection item index children location =>
      exact isSorted_object
        ["children", "collection", "index", "item", "kind", "location", "type"] rfl (by decide)
        ⟨areSorted_listToValue children, collection.isSorted_toValue,
          @isSorted_absent String .string (fun _ => trivial) index, trivial, trivial,
          location.isSorted_toValue, trivial, trivial⟩

/-- The keys of written nodes are in order. -/
theorem areSorted_listToValue (ns : List Node) : AreSorted (listToValue ns) := by
  cases ns with
  | nil => trivial
  | cons n ns => exact ⟨isSorted_toValue n, areSorted_listToValue ns⟩

/-- The keys of written branches are in order. -/
theorem areSorted_branchesToValue (branches : List (Option Expression × List Node)) :
    AreSorted (branchesToValue branches) := by
  cases branches with
  | nil => trivial
  | cons branch rest =>
      obtain ⟨condition, children⟩ := branch
      exact ⟨isSorted_object ["children", "condition"] rfl (by decide)
        ⟨areSorted_listToValue children, isSorted_absent Expression.isSorted_toValue condition,
          trivial⟩, areSorted_branchesToValue rest⟩

end

end Node

/-- The keys of a written template are in order. -/
theorem isSorted_toValue (t : Template) : t.toValue.IsSorted :=
  isSorted_object ["name", "nodes"] rfl (by decide)
    ⟨trivial, Node.areSorted_listToValue t.nodes, trivial⟩

/-! ### Round trips -/

/-- **Templates survive being written as data.** What is written of a template is data in which no
key stands twice, and it is read as the same template. And whatever is read as a template is read as
the same template again when it has been written; what is read as none is not written. -/
theorem codec_roundTrip :
    (∀ t : Template, t.toValue.IsSorted ∧ ofValue? t.toValue = some t) ∧
      ∀ v : Value, (ofValue? v).bind (fun t => ofValue? t.toValue) = ofValue? v := by
  refine ⟨fun t => ⟨t.isSorted_toValue, t.ofValue?_toValue⟩, fun v => ?_⟩
  cases ofValue? v with
  | none => rfl
  | some t => exact t.ofValue?_toValue

end Template

end TwinRender
