import TwinRender.Proofs.Template.Likeness

/-!
# Which names a template sees

A name is free in a template when it stands at the root of an expression and no loop around the
expression binds it. What a template comes to depends on the values of its free names alone. The
names that loops bind can be chosen at will: they are seen in the body of their loop, and nowhere
else, neither behind the loop nor in content that is projected into its body.

## Main definitions

* `Template.Node.freeNames`: the names that are free in a node.
* `Template.Likeness.seeing`: a template is like itself where certain names are seen.
* `Template.Likeness.renaming`: templates that differ in the names which their loops bind.

## Main results

* `Template.Node.evaluateList_congr`: nodes come to the same if their free names have the same
  values.
* `Template.Renamed.evaluate_eq`: a template comes to the same with other names in its loops.
-/

namespace TwinRender

/-- A failure without the text of the collection that cannot be iterated over. -/
def RenderError.anonymous : RenderError → RenderError
  | .notIterable _ kind => .notIterable "" kind
  | e => e

namespace Template

/-! ### Free names -/

/-- The name at the root of the expression of an attribute. -/
def AttributeValue.root? : AttributeValue → Option String
  | .expression e => e.root?
  | _ => none

/-- The name at the root of the expression of a text. -/
def TextValue.root? : TextValue → Option String
  | .expression e => e.root?
  | .literal _ => none

namespace Node

mutual

/-- The names at the roots of the expressions of a node, where no loop of the node binds them. -/
def freeNames : Node → List String
  | .element _ attributes children _ =>
    (attributes.filterMap fun a => a.value.root?) ++ listFreeNames children
  | .text value _ => value.root?.toList
  | .expression e _ => e.root?.toList
  | .slot _ fallback _ => listFreeNames fallback
  | .cond condition _ children _ => condition.root?.toList ++ listFreeNames children
  | .chain branches _ => chainFreeNames branches
  | .each collection item index children _ =>
    collection.root?.toList ++
      (listFreeNames children).filter fun name => ¬ Loop.Binds ⟨item, index⟩ name

/-- The names that are free in neighbouring nodes. -/
def listFreeNames : List Node → List String
  | [] => []
  | n :: ns => n.freeNames ++ listFreeNames ns

/-- The names that are free in the branches of a chain. -/
def chainFreeNames : List (Option Expression × List Node) → List String
  | [] => []
  | (condition, children) :: rest =>
    (condition.bind Expression.root?).toList ++ listFreeNames children ++ chainFreeNames rest

end

end Node

/-- The names that are free in a template. -/
def freeNames (t : Template) : List String := Node.listFreeNames t.nodes

/-- A name is seen by a template or by the content that is projected into its slots. -/
def Sees (t : Template) (contents : String → Option Template) (name : String) : Prop :=
  name ∈ t.freeNames ∨ ∃ slot content, contents slot = some content ∧ name ∈ content.freeNames

/-! ### Values of free names -/

/-- An expression is like itself if its root is bound by a loop around it or is one of certain
names. -/
def Likeness.seeing (seen : String → Prop) : Likeness where
  expression around e e' := e = e' ∧ ∀ name ∈ e.root?, BoundBy around name ∨ seen name
  collection around c c' := c = c' ∧ ∀ name ∈ c.root?, BoundBy around name ∨ seen name
  loop l l' := l = l'

section

variable {seen : String → Prop} {around : List (Loop × Loop)}
  {outer outer' names names' : String → Value} {contents contents' : Projection}

/-- Where names have the same values outside of any loop, so do they and the names that loops bind
at any place. -/
theorem Likeness.Within.eq_of_seeing (h : ∀ name, seen name → outer name = outer' name)
    (hnames : (Likeness.seeing seen).Within outer outer' around names names') {name : String}
    (hname : BoundBy around name ∨ seen name) : names name = names' name := by
  induction hnames with
  | outside =>
      obtain ⟨_, hpair, -⟩ | hseen := hname
      · cases hpair
      · exact h name hseen
  | @inside around _ _ l l' hnames hloop value position ih =>
      obtain rfl : l = l' := hloop
      by_cases hbinds : l.Binds name
      · exact bindLoop_of_binds hbinds _ _ value position
      · rw [bindLoop_of_not_binds hbinds, bindLoop_of_not_binds hbinds]
        refine ih (hname.imp_left ?_)
        rintro ⟨pair, hpair, hbound⟩
        obtain rfl | hpair := List.mem_cons.mp hpair
        · exact absurd hbound hbinds
        · exact ⟨pair, hpair, hbound⟩

/-- Expressions have the same values where the names that they see have the same values. -/
theorem Likeness.isFaithful_seeing (h : ∀ name, seen name → outer name = outer' name) :
    (Likeness.seeing seen).IsFaithful id outer outer' where
  expression := by
    rintro around names names' e _ hnames ⟨rfl, hroot⟩
    exact Expression.eval_congr fun name hname => hnames.eq_of_seeing h (hroot name hname)
  collection := by
    rintro around names names' c _ hnames ⟨rfl, hroot⟩
    exact Expression.eval_congr fun name hname => hnames.eq_of_seeing h (hroot name hname)
  message := by
    rintro around c _ ⟨rfl, -⟩ kind
    rfl

/-- Attributes are like themselves if their roots are bound or seen. -/
theorem forall₂_alike_seeing {attributes : List Attribute}
    (h : ∀ name ∈ attributes.filterMap fun a => a.value.root?, BoundBy around name ∨ seen name) :
    List.Forall₂ (Attribute.Alike (.seeing seen) around) attributes attributes := by
  refine List.forall₂_same.mpr fun a ha => ⟨rfl, ?_, rfl⟩
  cases hv : a.value with
  | literal raw => exact .same _ (by simp)
  | boolean => exact .same _ (by simp)
  | expression e =>
      refine .expression ⟨rfl, fun name hname => h name (List.mem_filterMap.mpr ⟨a, ha, ?_⟩)⟩
      rw [hv]
      exact hname

namespace Node

mutual

/-- A node is like itself if its free names are bound around it or are seen. -/
theorem alike_seeing {around : List (Loop × Loop)} (n : Node)
    (h : ∀ name ∈ n.freeNames, BoundBy around name ∨ seen name) :
    n.Alike (.seeing seen) around n := by
  cases n with
  | element tag attributes children l =>
      simp only [freeNames, List.forall_mem_append] at h
      exact .element (forall₂_alike_seeing h.1) (alikeList_seeing children h.2)
  | text value l =>
      simp only [freeNames, Option.mem_toList] at h
      cases value with
      | literal s => exact .text (.literal s)
      | expression e => exact .text (.expression ⟨rfl, h⟩)
  | expression e l =>
      simp only [freeNames, Option.mem_toList] at h
      exact .expression ⟨rfl, h⟩
  | slot name fallback l =>
      simp only [freeNames] at h
      exact .slot (alikeList_seeing fallback h)
  | cond condition negated children l =>
      simp only [freeNames, List.forall_mem_append, Option.mem_toList] at h
      exact .cond ⟨rfl, h.1⟩ (alikeList_seeing children h.2)
  | chain branches l =>
      simp only [freeNames] at h
      exact .chain (alikeChain_seeing branches h)
  | each collection item index children l =>
      simp only [freeNames, List.forall_mem_append, Option.mem_toList] at h
      refine .each ⟨rfl, h.1⟩ rfl (alikeList_seeing children fun name hname => ?_)
      by_cases hbinds : Loop.Binds ⟨item, index⟩ name
      · exact .inl ⟨_, List.mem_cons_self, hbinds⟩
      · have hfree := h.2 name (List.mem_filter.mpr ⟨hname, by simpa using hbinds⟩)
        exact hfree.imp_left fun ⟨pair, hpair, hbound⟩ =>
          ⟨pair, List.mem_cons_of_mem _ hpair, hbound⟩

/-- Neighbouring nodes are like themselves if their free names are bound around them or are
seen. -/
theorem alikeList_seeing {around : List (Loop × Loop)} (ns : List Node)
    (h : ∀ name ∈ listFreeNames ns, BoundBy around name ∨ seen name) :
    AlikeList (.seeing seen) around ns ns := by
  cases ns with
  | nil => exact .nil
  | cons n ns =>
      simp only [listFreeNames, List.forall_mem_append] at h
      exact .cons (alike_seeing n h.1) (alikeList_seeing ns h.2)

/-- A chain is like itself if its free names are bound around it or are seen. -/
theorem alikeChain_seeing {around : List (Loop × Loop)}
    (branches : List (Option Expression × List Node))
    (h : ∀ name ∈ chainFreeNames branches, BoundBy around name ∨ seen name) :
    AlikeChain (.seeing seen) around branches branches := by
  cases branches with
  | nil => exact .nil
  | cons branch rest =>
      obtain ⟨condition, children⟩ := branch
      simp only [chainFreeNames, List.forall_mem_append, Option.mem_toList] at h
      refine .cons ?_ (alikeList_seeing children h.1.2) (alikeChain_seeing rest h.2)
      cases condition with
      | none => exact .none
      | some e => exact .some ⟨rfl, h.1.1⟩

end

/-- **Nodes see only their free names**: they come to the same, or fail alike, if these have the
same values. -/
theorem evaluateList_congr {ns : List Node}
    (h : ∀ name ∈ listFreeNames ns, names name = names' name)
    (hcontents : ∀ slot, contents slot = contents' slot) :
    evaluateList contents names ns = evaluateList contents' names' ns := by
  have hfaithful : (Likeness.seeing (· ∈ listFreeNames ns)).IsFaithful id names names' :=
    Likeness.isFaithful_seeing h
  have halike : AlikeList (.seeing (· ∈ listFreeNames ns)) [] ns ns :=
    alikeList_seeing ns fun _ hname => .inr hname
  have hsame (slot : String) : (contents slot).map (Except.mapError id) =
      (contents' slot).map (Except.mapError id) := by rw [hcontents slot]
  have heval := halike.evaluate_eq hfaithful hsame .outside
  simpa only [mapError_id] using heval

end Node

end

/-! ### Other names for what loops bind -/

/-- Two names stand for the same at two places: the innermost loops that bind them correspond, and
bind both to the item or both to the position; or no loop binds them, and they are equal. -/
inductive SameName : List (Loop × Loop) → String → String → Prop
  /-- A name outside of any loop. -/
  | free (name : String) : SameName [] name name
  /-- The items of the innermost loops. -/
  | item {around : List (Loop × Loop)} (l l' : Loop) : SameName ((l, l') :: around) l.item l'.item
  /-- The positions in the innermost loops. -/
  | index {around : List (Loop × Loop)} {l l' : Loop} {name name' : String}
    (hitem : name ≠ l.item) (hitem' : name' ≠ l'.item) (hindex : l.index = some name)
    (hindex' : l'.index = some name') : SameName ((l, l') :: around) name name'
  /-- Names that the innermost loops do not bind. -/
  | outer {around : List (Loop × Loop)} {l l' : Loop} {name name' : String}
    (hbinds : ¬ l.Binds name) (hbinds' : ¬ l'.Binds name') (h : SameName around name name') :
    SameName ((l, l') :: around) name name'

/-- Expressions that differ in the name at their root. -/
inductive RootRenamed (same : String → String → Prop) : Expression → Expression → Prop
  /-- Names that stand for the same. -/
  | identifier {name name' : String} (h : same name name') :
    RootRenamed same (.identifier name) (.identifier name')
  /-- The same member. -/
  | member {e e' : Expression} (h : RootRenamed same e e') (property : String) :
    RootRenamed same (.member e property) (.member e' property)
  /-- The same literal. -/
  | literal (l : Literal) : RootRenamed same (.literal l) (.literal l)

/-- Templates that differ in the names which their loops bind. -/
def Likeness.renaming : Likeness where
  expression around := RootRenamed (SameName around)
  collection around := RootRenamed (SameName around)
  loop _ _ := True

/-- A template with other names in its loops. -/
def Renamed (t t' : Template) : Prop := Node.AlikeList .renaming [] t.nodes t'.nodes

/-- Expressions have the same value if names that stand for the same have the same values. -/
theorem RootRenamed.eval_eq {same : String → String → Prop} {names names' : String → Value}
    (h : ∀ name name', same name name' → names name = names' name') {e e' : Expression}
    (he : RootRenamed same e e') : e.eval names = e'.eval names' := by
  induction he with
  | identifier hname => exact h _ _ hname
  | member _ property ih => simp only [Expression.eval, ih]
  | literal l => rfl

/-- Names that stand for the same at two places have the same values there. -/
theorem Likeness.Within.eq_of_sameName {outer names names' : String → Value}
    {around : List (Loop × Loop)}
    (hnames : Likeness.renaming.Within outer outer around names names') {name name' : String}
    (h : SameName around name name') : names name = names' name' := by
  induction hnames generalizing name name' with
  | outside => cases h; rfl
  | inside _ _ value position ih =>
      cases h with
      | item => simp only [bindLoop, if_true]
      | index hitem hitem' hindex hindex' =>
          simp only [bindLoop, if_neg hitem, if_neg hitem', if_pos hindex, if_pos hindex']
      | outer hbinds hbinds' hname =>
          rw [bindLoop_of_not_binds hbinds, bindLoop_of_not_binds hbinds', ih hname]

/-- Expressions have the same values whatever loops call what they bind. -/
theorem Likeness.isFaithful_renaming (outer : String → Value) :
    Likeness.renaming.IsFaithful RenderError.anonymous outer outer where
  expression hnames he := he.eval_eq fun _ _ hname => hnames.eq_of_sameName hname
  collection hnames hc := hc.eval_eq fun _ _ hname => hnames.eq_of_sameName hname
  message _ _ := rfl

/-- **The names that loops bind can be chosen at will**: a template with other names in its loops
comes to the same nodes, or fails alike, and so if the content from outside does. -/
theorem Renamed.evaluate_eq {t t' : Template} (h : t.Renamed t') {contents contents' : Projection}
    (hcontents : ∀ slot, (contents slot).map (Except.mapError RenderError.anonymous) =
      (contents' slot).map (Except.mapError RenderError.anonymous)) (names : String → Value) :
    (Node.evaluateList contents names t.nodes).mapError RenderError.anonymous =
      (Node.evaluateList contents' names t'.nodes).mapError RenderError.anonymous :=
  Node.AlikeList.evaluate_eq (Likeness.isFaithful_renaming names) hcontents .outside h

end Template

end TwinRender
