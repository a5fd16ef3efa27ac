import TwinRender.Proofs.Template.Evaluation

/-!
# Templates that are alike

Two templates have the same shape when they differ only in expressions and in the names that their
loops bind. Which expressions may stand for each other at a place depends on the loops around the
place, so a likeness of templates is given by what it says of expressions there. If these always
have the same values, the templates come to the same nodes, or fail alike; failures are compared up
to a blur, because a message shows the collection as it is written.

## Main definitions

* `Template.Loop`: the names that a loop binds.
* `Template.BoundBy`: a name is bound by one of the loops around a place.
* `Template.Likeness`: what may stand for each other in two templates.
* `Template.Node.Alike`, `Template.Node.AlikeList`, `Template.Node.AlikeChain`: nodes of the same
  shape, whose expressions are alike.
* `Template.Likeness.Within`: the values of names at two places that correspond.
* `Template.Likeness.IsFaithful`: expressions that are alike have the same values.

## Main results

* `Template.Node.AlikeList.evaluate_eq`: **alike nodes come to the same**.
* `Template.Node.AlikeList.faults_eq`: they have the same faults if their loops bind the same names.
-/

namespace TwinRender.Template

/-! ### The same shape -/

/-- The names that a loop binds. -/
structure Loop where
  /-- The name of the item. -/
  item : String
  /-- The name of the position. -/
  index : Option String
  deriving DecidableEq, Repr

/-- The name is one of those that a loop binds. -/
def Loop.Binds (l : Loop) (name : String) : Prop := name = l.item ∨ l.index = some name

instance (l : Loop) (name : String) : Decidable (l.Binds name) :=
  inferInstanceAs (Decidable (_ ∨ _))

/-- A name that a loop does not bind has the same value in its body as around it. -/
theorem bindLoop_of_not_binds {l : Loop} {name : String} (h : ¬ l.Binds name)
    (names : String → Value) (value : Value) (position : Nat) :
    bindLoop names l.item l.index value position name = names name := by
  rw [Loop.Binds, not_or] at h
  rw [bindLoop, if_neg h.1, if_neg h.2]

/-- A name that a loop binds has the same value in its body whatever is around it. -/
theorem bindLoop_of_binds {l : Loop} {name : String} (h : l.Binds name)
    (names names' : String → Value) (value : Value) (position : Nat) :
    bindLoop names l.item l.index value position name =
      bindLoop names' l.item l.index value position name := by
  by_cases hitem : name = l.item
  · rw [bindLoop, bindLoop, if_pos hitem, if_pos hitem]
  · have hindex := h.resolve_left hitem
    rw [bindLoop, bindLoop, if_neg hitem, if_neg hitem, if_pos hindex, if_pos hindex]

/-- A name is bound by one of the loops around a place. -/
def BoundBy (around : List (Loop × Loop)) (name : String) : Prop :=
  ∃ pair ∈ around, pair.1.Binds name

instance (around : List (Loop × Loop)) (name : String) : Decidable (BoundBy around name) :=
  inferInstanceAs (Decidable (∃ pair ∈ around, pair.1.Binds name))

/-- What may stand for each other in two templates, given the loops around it, innermost first. -/
structure Likeness where
  /-- Expressions whose value is shown or decides between branches. -/
  expression : List (Loop × Loop) → Expression → Expression → Prop
  /-- Collections that a loop runs over. -/
  collection : List (Loop × Loop) → Expression → Expression → Prop
  /-- Loops. -/
  loop : Loop → Loop → Prop

variable {L : Likeness} {around : List (Loop × Loop)}

/-- Values of attributes that are alike. -/
inductive AttributeValue.Alike (L : Likeness) (around : List (Loop × Loop)) :
    AttributeValue → AttributeValue → Prop
  /-- The same value. -/
  | same (v : AttributeValue) (h : ∀ e, v ≠ .expression e) : Alike L around v v
  /-- Expressions that are alike. -/
  | expression {e e' : Expression} (h : L.expression around e e') :
    Alike L around (.expression e) (.expression e')

/-- Contents of texts that are alike. -/
inductive TextValue.Alike (L : Likeness) (around : List (Loop × Loop)) :
    TextValue → TextValue → Prop
  /-- The same text. -/
  | literal (s : String) : Alike L around (.literal s) (.literal s)
  /-- Expressions that are alike. -/
  | expression {e e' : Expression} (h : L.expression around e e') :
    Alike L around (.expression e) (.expression e')

/-- Attributes of the same name with values that are alike. -/
structure Attribute.Alike (L : Likeness) (around : List (Loop × Loop)) (a a' : Attribute) :
    Prop where
  /-- They have the same name. -/
  name : a.name = a'.name
  /-- Their values are alike. -/
  value : a.value.Alike L around a'.value
  /-- They stand at the same place. -/
  location : a.location = a'.location

namespace Node

mutual

/-- Nodes of the same shape whose expressions are alike. -/
inductive Alike (L : Likeness) : List (Loop × Loop) → Node → Node → Prop
  /-- Elements with the same tag. -/
  | element {around : List (Loop × Loop)} {tag : String} {attributes attributes' : List Attribute}
    {children children' : List Node} {l : Location}
    (hattributes : List.Forall₂ (Attribute.Alike L around) attributes attributes')
    (hchildren : AlikeList L around children children') :
    Alike L around (.element tag attributes children l) (.element tag attributes' children' l)
  /-- Texts. -/
  | text {around : List (Loop × Loop)} {value value' : TextValue} {l : Location}
    (h : value.Alike L around value') : Alike L around (.text value l) (.text value' l)
  /-- Expressions that are shown. -/
  | expression {around : List (Loop × Loop)} {e e' : Expression} {l : Location}
    (h : L.expression around e e') : Alike L around (.expression e l) (.expression e' l)
  /-- Slots with the same name. -/
  | slot {around : List (Loop × Loop)} {name : Option AttributeValue}
    {fallback fallback' : List Node} {l : Location} (h : AlikeList L around fallback fallback') :
    Alike L around (.slot name fallback l) (.slot name fallback' l)
  /-- Children that are shown under a condition. -/
  | cond {around : List (Loop × Loop)} {condition condition' : Expression} {negated : Bool}
    {children children' : List Node} {l : Location}
    (hcondition : L.expression around condition condition')
    (hchildren : AlikeList L around children children') :
    Alike L around (.cond condition negated children l) (.cond condition' negated children' l)
  /-- Chains of branches. -/
  | chain {around : List (Loop × Loop)} {branches branches' : List (Option Expression × List Node)}
    {l : Location} (h : AlikeChain L around branches branches') :
    Alike L around (.chain branches l) (.chain branches' l)
  /-- Loops, whose names are bound in their bodies. -/
  | each {around : List (Loop × Loop)} {collection collection' : Expression} {item item' : String}
    {index index' : Option String} {children children' : List Node} {l : Location}
    (hcollection : L.collection around collection collection')
    (hloop : L.loop ⟨item, index⟩ ⟨item', index'⟩)
    (hchildren : AlikeList L ((⟨item, index⟩, ⟨item', index'⟩) :: around) children children') :
    Alike L around (.each collection item index children l)
      (.each collection' item' index' children' l)

/-- Neighbouring nodes that are alike, one by one. -/
inductive AlikeList (L : Likeness) : List (Loop × Loop) → List Node → List Node → Prop
  /-- No nodes. -/
  | nil {around : List (Loop × Loop)} : AlikeList L around [] []
  /-- A node and the ones behind it. -/
  | cons {around : List (Loop × Loop)} {n n' : Node} {ns ns' : List Node}
    (hn : Alike L around n n') (hns : AlikeList L around ns ns') :
    AlikeList L around (n :: ns) (n' :: ns')

/-- Branches of chains that are alike, one by one. -/
inductive AlikeChain (L : Likeness) : List (Loop × Loop) →
    List (Option Expression × List Node) → List (Option Expression × List Node) → Prop
  /-- No branches. -/
  | nil {around : List (Loop × Loop)} : AlikeChain L around [] []
  /-- A branch and the ones behind it. -/
  | cons {around : List (Loop × Loop)} {condition condition' : Option Expression}
    {children children' : List Node} {rest rest' : List (Option Expression × List Node)}
    (hcondition : Option.Rel (L.expression around) condition condition')
    (hchildren : AlikeList L around children children')
    (hrest : AlikeChain L around rest rest') :
    AlikeChain L around ((condition, children) :: rest) ((condition', children') :: rest')

end

end Node

/-! ### The same values -/

namespace Likeness

/-- The values of names at two places that correspond: outside of any loop, and in the bodies of the
loops around the places, which run over the same items. -/
inductive Within (L : Likeness) (outer outer' : String → Value) :
    List (Loop × Loop) → (String → Value) → (String → Value) → Prop
  /-- Outside of any loop. -/
  | outside : Within L outer outer' [] outer outer'
  /-- In the bodies of two loops, for one item. -/
  | inside {around : List (Loop × Loop)} {names names' : String → Value} {l l' : Loop}
    (h : Within L outer outer' around names names') (hloop : L.loop l l') (value : Value)
    (position : Nat) :
    Within L outer outer' ((l, l') :: around) (bindLoop names l.item l.index value position)
      (bindLoop names' l'.item l'.index value position)

/-- A name that no loop binds has the same value at a place as outside of any loop. -/
theorem Within.eq_outer {outer outer' names names' : String → Value}
    (hnames : L.Within outer outer' around names names') {name : String}
    (h : ¬ BoundBy around name) : names name = outer name := by
  induction hnames with
  | outside => rfl
  | inside _ _ value position ih =>
      have hbinds := fun hbinds => h ⟨_, List.mem_cons_self, hbinds⟩
      rw [bindLoop_of_not_binds hbinds]
      exact ih fun ⟨pair, hpair, hbound⟩ => h ⟨pair, List.mem_cons_of_mem _ hpair, hbound⟩

/-- If loops that are alike bind the same names, names have the same values at places that
correspond. -/
theorem Within.eq_of_loops (hL : ∀ l l', L.loop l l' → l = l') {outer names names' : String → Value}
    (hnames : L.Within outer outer around names names') : names = names' := by
  induction hnames with
  | outside => rfl
  | inside _ hloop value position ih => rw [ih, hL _ _ hloop]

/-- Expressions that are alike have the same values, and a failure is blurred so that it does not
show how a collection is written. -/
structure IsFaithful (L : Likeness) (blur : RenderError → RenderError)
    (outer outer' : String → Value) : Prop where
  /-- Expressions have the same values. -/
  expression : ∀ {around names names' e e'}, L.Within outer outer' around names names' →
    L.expression around e e' → e.eval names = e'.eval names'
  /-- Collections have the same values. -/
  collection : ∀ {around names names' c c'}, L.Within outer outer' around names names' →
    L.collection around c c' → c.eval names = c'.eval names'
  /-- Collections that are no collections give the same failure. -/
  message : ∀ {around c c'}, L.collection around c c' →
    ∀ kind, blur (.notIterable c.text kind) = blur (.notIterable c'.text kind)

end Likeness

/-- A failure that is not blurred stays. -/
theorem mapError_id {α : Type} (a : Except RenderError α) : a.mapError id = a := by
  cases a <;> rfl

/-- A failure is blurred whatever is done to a success. -/
theorem mapError_map {α β : Type} (blur : RenderError → RenderError) (f : α → β)
    (a : Except RenderError α) : (a.map f).mapError blur = (a.mapError blur).map f := by
  cases a <;> rfl

/-- A failure is blurred after any part of a computation. -/
theorem mapError_bind {α β : Type} (blur : RenderError → RenderError) (a : Except RenderError α)
    (next : α → Except RenderError β) :
    (a >>= next).mapError blur = a.mapError blur >>= fun x => (next x).mapError blur := by
  cases a <;> rfl

/-- A failure is blurred after the part of any item. -/
theorem mapError_mapM {α β : Type} (blur : RenderError → RenderError)
    (part : α → Except RenderError β) (items : List α) :
    (items.mapM part).mapError blur = items.mapM fun a => (part a).mapError blur := by
  induction items with
  | nil => rfl
  | cons a rest ih =>
      rw [List.mapM_cons, List.mapM_cons, mapError_bind]
      simp only [mapError_bind, ih]
      rfl

section

variable {blur : RenderError → RenderError} {outer outer' names names' : String → Value}
  {contents contents' : Projection}

/-- Attributes that are alike are evaluated to the same. -/
theorem Attribute.Alike.evaluate_eq (hL : L.IsFaithful blur outer outer')
    (hnames : L.Within outer outer' around names names') {a a' : Attribute}
    (h : a.Alike L around a') : a.evaluate names = a'.evaluate names' := by
  obtain ⟨name, value, location⟩ := a
  obtain ⟨name', value', location'⟩ := a'
  obtain ⟨rfl, hvalue, rfl⟩ := h
  suffices hgiven : Attribute.given names ⟨name, value, location⟩ =
      Attribute.given names' ⟨name, value', location⟩ by
    rw [Attribute.evaluate, Attribute.evaluate, hgiven]
  cases hvalue with
  | same _ hv =>
      cases value with
      | expression e => exact absurd rfl (hv e)
      | literal raw => rfl
      | boolean => rfl
  | expression he => simp only [Attribute.given, hL.expression hnames he]

/-- Elements whose attributes are alike have the same ones. -/
theorem attributeValues_eq (hL : L.IsFaithful blur outer outer')
    (hnames : L.Within outer outer' around names names') {attributes attributes' : List Attribute}
    (h : List.Forall₂ (Attribute.Alike L around) attributes attributes') :
    attributeValues names attributes = attributeValues names' attributes' := by
  suffices hvalues : attributes.filterMap (Attribute.evaluate names) =
      attributes'.filterMap (Attribute.evaluate names') by
    rw [attributeValues, attributeValues, hvalues]
  induction h with
  | nil => rfl
  | cons ha _ ih => rw [List.filterMap_cons, List.filterMap_cons, ha.evaluate_eq hL hnames, ih]

/-- Texts that are alike are the same. -/
theorem TextValue.Alike.evaluate_eq (hL : L.IsFaithful blur outer outer')
    (hnames : L.Within outer outer' around names names') {v v' : TextValue}
    (h : v.Alike L around v') : v.evaluate names = v'.evaluate names' := by
  cases h with
  | literal s => rfl
  | expression he => simp only [TextValue.evaluate, hL.expression hnames he]

namespace Node

/-- A slot comes to the content for it, or else to its fallback. -/
theorem mapError_evaluate_slot (name : Option AttributeValue) (fallback : List Node)
    (l : Location) :
    ((Node.slot name fallback l).evaluate contents names).mapError blur =
      ((contents (slotName name)).map (Except.mapError blur)).getD
        ((evaluateList contents names fallback).mapError blur) := by
  simp only [evaluate]
  cases contents (slotName name) <;> rfl

mutual

/-- Nodes that are alike come to the same. -/
theorem Alike.evaluate_eq (hL : L.IsFaithful blur outer outer')
    (hcontents : ∀ slot, (contents slot).map (Except.mapError blur) =
      (contents' slot).map (Except.mapError blur)) {around : List (Loop × Loop)}
    {names names' : String → Value} (hnames : L.Within outer outer' around names names')
    {n n' : Node} (h : n.Alike L around n') :
    (n.evaluate contents names).mapError blur = (n'.evaluate contents' names').mapError blur := by
  cases h with
  | element hattributes hchildren =>
      have hbelow := AlikeList.evaluate_eq hL hcontents hnames hchildren
      have hvalues := attributeValues_eq hL hnames hattributes
      simp only [evaluate, mapError_bind, hbelow, hvalues]
  | text hvalue => simp only [evaluate, hvalue.evaluate_eq hL hnames]
  | expression he => simp only [evaluate, TextValue.evaluate, hL.expression hnames he]
  | slot hfallback =>
      have hbelow := AlikeList.evaluate_eq hL hcontents hnames hfallback
      rw [mapError_evaluate_slot, mapError_evaluate_slot, hcontents, hbelow]
  | cond hcondition hchildren =>
      have hbelow := AlikeList.evaluate_eq hL hcontents hnames hchildren
      simp only [evaluate, hL.expression hnames hcondition]
      split
      · exact hbelow
      · rfl
  | chain hbranches =>
      simp only [evaluate]
      exact AlikeChain.evaluate_eq hL hcontents hnames hbranches
  | each hcollection hloop hchildren =>
      have hbelow (entry : Value × Nat) := AlikeList.evaluate_eq hL hcontents
        (hnames.inside hloop entry.1 entry.2) hchildren
      simp only [evaluate, hL.collection hnames hcollection]
      split
      · simp only [mapError_bind, mapError_mapM, hbelow]
      · rfl
      · exact congrArg Except.error (hL.message hcollection _)

/-- **Neighbouring nodes that are alike come to the same**, or fail alike. -/
theorem AlikeList.evaluate_eq (hL : L.IsFaithful blur outer outer')
    (hcontents : ∀ slot, (contents slot).map (Except.mapError blur) =
      (contents' slot).map (Except.mapError blur)) {around : List (Loop × Loop)}
    {names names' : String → Value} (hnames : L.Within outer outer' around names names')
    {ns ns' : List Node} (h : AlikeList L around ns ns') :
    (evaluateList contents names ns).mapError blur =
      (evaluateList contents' names' ns').mapError blur := by
  cases h with
  | nil => rfl
  | cons hn hns =>
      have hfirst := Alike.evaluate_eq hL hcontents hnames hn
      have hrest := AlikeList.evaluate_eq hL hcontents hnames hns
      simp only [evaluateList, mapError_bind, hfirst, hrest]

/-- Chains that are alike come to the same. -/
theorem AlikeChain.evaluate_eq (hL : L.IsFaithful blur outer outer')
    (hcontents : ∀ slot, (contents slot).map (Except.mapError blur) =
      (contents' slot).map (Except.mapError blur)) {around : List (Loop × Loop)}
    {names names' : String → Value} (hnames : L.Within outer outer' around names names')
    {branches branches' : List (Option Expression × List Node)}
    (h : AlikeChain L around branches branches') :
    (evaluateChain contents names branches).mapError blur =
      (evaluateChain contents' names' branches').mapError blur := by
  cases h with
  | nil => rfl
  | cons hcondition hchildren hrest =>
      have hbelow := AlikeList.evaluate_eq hL hcontents hnames hchildren
      have hothers := AlikeChain.evaluate_eq hL hcontents hnames hrest
      rename_i condition condition' _ _ _ _
      have hholds : condition.all (fun e => (e.eval names).truthy) =
          condition'.all (fun e => (e.eval names').truthy) := by
        cases hcondition with
        | none => rfl
        | some he => simp only [Option.all_some, hL.expression hnames he]
      simp only [evaluateChain, hholds]
      split
      · exact hbelow
      · exact hothers

end

end Node

end

/-! ### The same faults -/

/-- The attributes that come again are at the same places if the names are the same. -/
theorem map_repeated_eq {β : Type} {f : Attribute → β} {attributes attributes' : List Attribute}
    (h : List.Forall₂ (fun a a' => a.name = a'.name ∧ f a = f a') attributes attributes')
    (seen : List String) :
    (repeated seen attributes).map f = (repeated seen attributes').map f := by
  induction h generalizing seen with
  | nil => rfl
  | cons ha _ ih =>
      simp only [repeated, ha.1]
      split
      · rw [List.map_cons, List.map_cons, ha.2, ih]
      · exact ih _

/-- The attributes whose names cannot be written are at the same places if the names are the
same. -/
theorem map_filter_name_eq {β : Type} {f : Attribute → β} {attributes attributes' : List Attribute}
    (h : List.Forall₂ (fun a a' => a.name = a'.name ∧ f a = f a') attributes attributes')
    (p : String → Bool) :
    (attributes.filter fun a => p a.name).map f = (attributes'.filter fun a => p a.name).map f := by
  induction h with
  | nil => rfl
  | cons ha _ ih =>
      rw [List.filter_cons, List.filter_cons, ha.1]
      split
      · rw [List.map_cons, List.map_cons, ha.2, ih]
      · exact ih

/-- Elements with the same tag, with attributes that are alike, have the same faults. -/
theorem elementFaults_eq {attributes attributes' : List Attribute}
    (h : List.Forall₂ (Attribute.Alike L around) attributes attributes') (tag : String)
    (hasChildren : Bool) (location : Location) :
    elementFaults tag attributes hasChildren location =
      elementFaults tag attributes' hasChildren location := by
  have hsame (make : String → Violation) : List.Forall₂ (fun a a' : Attribute =>
      a.name = a'.name ∧
        Fault.mk a.location (make a.name) = Fault.mk a'.location (make a'.name))
      attributes attributes' :=
    h.imp fun a a' ha => ⟨ha.name, by rw [ha.name, ha.location]⟩
  rw [elementFaults, elementFaults, map_repeated_eq (hsame (.duplicateAttribute tag)),
    map_filter_name_eq (hsame (.invalidAttribute tag)) fun name => !Html.isAttributeName name]

/-- The faults of a chain itself depend on which branches have a condition. -/
theorem chainFaults_congr {branches branches' : List (Option Expression × List Node)}
    (h : branches.map (fun b => b.1.isNone) = branches'.map fun b => b.1.isNone)
    (location : Location) : chainFaults branches location = chainFaults branches' location := by
  have hlength : branches.length = branches'.length := by
    simpa using congrArg List.length h
  have hempty : branches.isEmpty = branches'.isEmpty := by
    simpa using congrArg List.isEmpty h
  have hfind : (branches.findIdx? fun b => b.1.isNone) =
      branches'.findIdx? fun b => b.1.isNone := by
    simpa [List.findIdx?_map, Function.comp_def] using congrArg (List.findIdx? id) h
  rw [chainFaults, chainFaults, hempty, hfind, hlength]

namespace Node

/-- Lists of nodes that are alike are empty together. -/
theorem AlikeList.isEmpty_eq {ns ns' : List Node} (h : AlikeList L around ns ns') :
    ns.isEmpty = ns'.isEmpty := by
  cases h <;> rfl

/-- In chains that are alike, the same branches have a condition. -/
theorem AlikeChain.isNone_eq {branches branches' : List (Option Expression × List Node)}
    (h : AlikeChain L around branches branches') :
    branches.map (fun b => b.1.isNone) = branches'.map fun b => b.1.isNone := by
  induction branches generalizing branches' with
  | nil => cases h; rfl
  | cons b rest ih =>
      cases h with
      | cons hcondition _ hrest =>
          rw [List.map_cons, List.map_cons, ih hrest]
          cases hcondition <;> rfl

mutual

/-- Nodes that are alike have the same faults. -/
theorem Alike.faults_eq (hL : ∀ l l', L.loop l l' → l = l') {around : List (Loop × Loop)}
    {n n' : Node} (h : n.Alike L around n') : n.faults = n'.faults := by
  cases h with
  | element hattributes hchildren =>
      simp only [faults, elementFaults_eq hattributes, hchildren.isEmpty_eq,
        AlikeList.faults_eq hL hchildren]
  | text _ => simp only [faults]
  | expression _ => simp only [faults]
  | slot hfallback => simp only [faults, AlikeList.faults_eq hL hfallback]
  | cond _ hchildren => simp only [faults, AlikeList.faults_eq hL hchildren]
  | chain hbranches =>
      simp only [faults, chainFaults_congr hbranches.isNone_eq, AlikeChain.faults_eq hL hbranches]
  | each _ hloop hchildren =>
      have hsame := hL _ _ hloop
      rw [Loop.mk.injEq] at hsame
      simp only [faults, hsame.1, hsame.2, AlikeList.faults_eq hL hchildren]

/-- **Neighbouring nodes that are alike have the same faults** if their loops bind the same
names. -/
theorem AlikeList.faults_eq (hL : ∀ l l', L.loop l l' → l = l') {around : List (Loop × Loop)}
    {ns ns' : List Node} (h : AlikeList L around ns ns') : listFaults ns = listFaults ns' := by
  cases h with
  | nil => rfl
  | cons hn hns => simp only [listFaults, Alike.faults_eq hL hn, AlikeList.faults_eq hL hns]

/-- Chains that are alike have the same faults in their branches. -/
theorem AlikeChain.faults_eq (hL : ∀ l l', L.loop l l' → l = l') {around : List (Loop × Loop)}
    {branches branches' : List (Option Expression × List Node)}
    (h : AlikeChain L around branches branches') :
    branchFaults branches = branchFaults branches' := by
  cases h with
  | nil => rfl
  | cons _ hchildren hrest =>
      simp only [branchFaults, AlikeList.faults_eq hL hchildren, AlikeChain.faults_eq hL hrest]

end

end Node

end TwinRender.Template
