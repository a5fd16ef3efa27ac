import TwinRender.Markup.Parser

/-!
# Outer nodes

The finished nodes outside all open elements are the beginning of the document. Whatever comes
next, a parser only puts nodes behind them: it opens and closes elements, moves what may not stand
in a table and splits formatting elements, and all of it happens behind what is finished. At most a
text that comes last is continued. So markup that breaks out of an element does not change what
stands before it.

## Main definitions

* `Markup.Grows`: outer nodes that come of others when nodes are put behind them.
* `Markup.Spine.Extends`, `Markup.Builder.Extends`: trees and states with such outer nodes.

## Main results

* `Markup.Builder.Extends.take`: one token keeps the outer nodes.
* `Markup.Builder.Extends.run`: so does a whole text.
* `Markup.Builder.prefix_finish_run`: **what is finished stays at the beginning of the document**.
-/

namespace TwinRender.Markup

/-! ### Nodes behind others -/

/-- The nodes that come of others, the last one first, when nodes are put behind them. -/
inductive Grows (roots : List Node) : List Node → Prop where
  /-- None is put behind them. -/
  | refl : Grows roots roots
  /-- One more is put behind them. -/
  | push (node : Node) {later : List Node} (h : Grows roots later) :
      Grows roots (pushChild node later)

/-- What does not end in a text is not continued. -/
theorem pushChild_of_closed {children : List Node}
    (hclosed : ∀ t, children.head? ≠ some (.text t)) (node : Node) :
    pushChild node children = node :: children := by
  rw [pushChild]
  rintro t s rest rfl rfl
  exact hclosed s rfl

/-- **Nodes that do not end in a text stay** where others are put behind them. -/
theorem Grows.suffix {roots later : List Node} (hclosed : ∀ t, roots.head? ≠ some (.text t))
    (h : Grows roots later) : roots <:+ later := by
  induction h with
  | refl => exact List.suffix_refl _
  | push node h ih =>
      obtain ⟨_ | ⟨last, l⟩, rfl⟩ := ih
      · exact ⟨[node], (pushChild_of_closed hclosed node).symm⟩
      · rw [List.cons_append, pushChild.eq_def]
        split
        · next t s rest heq =>
          obtain ⟨-, rfl⟩ := List.cons.inj heq
          exact ⟨.text (s ++ t) :: l, rfl⟩
        · exact ⟨_ :: last :: l, rfl⟩

variable {roots : List Node}

namespace Spine

variable {s : Spine}

/-! ### Trees under construction -/

/-- The outer nodes of a tree come of the given ones. -/
def Extends (roots : List Node) (s : Spine) : Prop := Grows roots s.roots

/-- A node that is put into its place is put behind the outer nodes, or elsewhere. -/
theorem place_grows (node : Node) (fostered : Bool) (frames : List Frame) {later : List Node}
    (h : Grows roots later) : Grows roots (place node fostered frames later).2 := by
  fun_induction place node fostered frames later with
  | case1 => exact h.push node
  | case2 => exact h
  | case3 => exact h
  | case4 f fs _ _ _ heq ih =>
      rw [heq] at ih
      exact ih

/-- Elements that are closed are put behind the outer nodes, or elsewhere. -/
theorem settle_extends {frames : List Frame} {later : List Node} (h : Grows roots later) :
    (settle frames later).Extends roots := by
  fun_induction settle frames later with
  | case1 => exact h
  | case2 => exact h
  | case3 later f fs _ placed ih => exact ih (place_grows _ _ _ h)

namespace Extends

/-- A finished node stands behind the outer nodes, or in an element that is open. -/
theorem attach (h : s.Extends roots) (node : Node) (fostered : Bool) :
    (s.attach node fostered).Extends roots := place_grows node fostered s.frames h

/-- The innermost element is closed behind the outer nodes. -/
theorem pop (h : s.Extends roots) : s.pop.Extends roots := by
  rw [Spine.pop]
  split
  · exact h
  · exact settle_extends (place_grows _ _ _ h)

/-- Elements are closed behind the outer nodes, however many there are. -/
theorem popWhile (h : s.Extends roots) (p : Frame → Bool) :
    (s.popWhile p).Extends roots := by
  fun_induction Spine.popWhile p s with
  | case1 => exact h
  | case2 s _ _ _ _ _ ih => exact ih h.pop
  | case3 => exact h

/-- Elements are closed behind the outer nodes up to one that is looked for. -/
theorem popThrough (h : s.Extends roots) (p : Frame → Bool) :
    (s.popThrough p).Extends roots := (h.popWhile _).pop

/-- An element that cannot be closed by name any more is closed behind the outer nodes, if it is the
innermost one. -/
theorem unlist (h : s.Extends roots) (id : Nat) :
    (s.unlist id).Extends roots := settle_extends h

end Extends

end Spine

/-- The outer nodes of a state come of the given ones. -/
def Builder.Extends (roots : List Node) (b : Builder) : Prop := b.spine.Extends roots

/-- The outer nodes behind a token come of the given ones. -/
def Verdict.Extends (roots : List Node) : Verdict → Prop
  | .done b _ => b.Extends roots
  | .again b => b.Extends roots

/-- Whichever way a token goes, it keeps the outer nodes. -/
theorem Verdict.Extends.ite {c : Prop} [Decidable c] {v v' : Verdict} (h : v.Extends roots)
    (h' : v'.Extends roots) : (if c then v else v').Extends roots := by
  split
  · exact h
  · exact h'

namespace Builder

variable {b : Builder}

namespace Extends

/-- Whichever way a step goes, it keeps the outer nodes. -/
theorem ite {c : Prop} [Decidable c] {b b' : Builder} (h : b.Extends roots)
    (h' : b'.Extends roots) : (if c then b else b').Extends roots := by
  split
  · exact h
  · exact h'

/-- Steps that keep the outer nodes keep them one after another. -/
theorem foldl {α : Type} {step : Builder → α → Builder}
    (hstep : ∀ {b : Builder}, b.Extends roots → ∀ x, (step b x).Extends roots)
    (h : b.Extends roots) (xs : List α) : (xs.foldl step b).Extends roots := by
  induction xs generalizing b with
  | nil => exact h
  | cons x xs ih => exact ih (hstep h x)

/-! ### Steps of the rules

A step that leaves the tree alone has no lemma here: what is to be shown of the state behind it is
what is known of the state before it. -/

/-- What is overlooked leaves the outer nodes as they are. -/
theorem recoverIf (h : b.Extends roots) (condition : Bool) :
    (b.recoverIf condition).Extends roots := by
  rw [Builder.recoverIf]
  exact ite h h

/-- A finished node keeps the outer nodes. -/
theorem add (h : b.Extends roots) (node : Node) : (b.add node).Extends roots :=
  Spine.Extends.attach h node _

/-- Closing the innermost element keeps the outer nodes. -/
theorem pop (h : b.Extends roots) : b.pop.Extends roots := Spine.Extends.pop h

/-- An element without content keeps the outer nodes. -/
theorem insertVoid (h : b.Extends roots) (tag : Tag) : (b.insertVoid tag).Extends roots :=
  Spine.Extends.pop h

/-- Closing elements up to one with a name keeps the outer nodes. -/
theorem popThroughNamed (h : b.Extends roots) (name : String) :
    (b.popThroughNamed name).Extends roots := Spine.Extends.popThrough h _

/-- Closing elements until one of some names is the innermost keeps the outer nodes. -/
theorem popTo (h : b.Extends roots) (names : List String) : (b.popTo names).Extends roots :=
  Spine.Extends.popWhile h _

/-- Closing what an end tag around it closes keeps the outer nodes. -/
theorem closeImplied (h : b.Extends roots) : b.closeImplied.Extends roots :=
  Spine.Extends.popWhile h _

/-- Closing the same except for one name keeps the outer nodes. -/
theorem closeImpliedExcept (h : b.Extends roots) (name : String) :
    (b.closeImpliedExcept name).Extends roots := Spine.Extends.popWhile h _

/-- Closing an element by name keeps the outer nodes. -/
theorem closeNamed (h : b.Extends roots) (name : String) : (b.closeNamed name).Extends roots :=
  (h.recoverIf _).popThroughNamed name

/-- Closing a paragraph keeps the outer nodes. -/
theorem closeParagraph (h : b.Extends roots) : b.closeParagraph.Extends roots :=
  (h.closeImpliedExcept _).closeNamed _

/-- Closing a paragraph, if there is one in scope, keeps the outer nodes. -/
theorem closeParagraphInScope (h : b.Extends roots) :
    b.closeParagraphInScope.Extends roots := by
  rw [Builder.closeParagraphInScope]
  exact ite h.closeParagraph h

/-- The end tag of an ordinary element keeps the outer nodes. -/
theorem closeOrdinary (h : b.Extends roots) (name : String) :
    (b.closeOrdinary name).Extends roots := by
  rw [Builder.closeOrdinary]
  split
  · exact h
  exact ite (Spine.Extends.popThrough ((h.closeImpliedExcept name).recoverIf _) _) h

/-- Opening listed formatting elements again keeps the outer nodes: these elements are open. -/
theorem reopenEntries (h : b.Extends roots) (entries : List Entry) :
    (b.reopenEntries entries).2.Extends roots := by
  fun_induction Builder.reopenEntries b entries with
  | case1 => exact h
  | case2 _ _ _ heq ih =>
      rw [heq] at ih
      exact ih
  | case3 _ _ _ _ _ heq ih =>
      rw [heq] at ih
      exact ih

/-- Opening all formatting elements again keeps the outer nodes. -/
theorem reopen (h : b.Extends roots) : b.reopen.Extends roots := h.reopenEntries _

/-- Copying the formatting elements around a block keeps the outer nodes: the copies are open. -/
theorem cloneBetween (h : b.Extends roots) (count : Nat) (frames : List Frame) :
    (b.cloneBetween count frames).2.Extends roots := by
  fun_induction Builder.cloneBetween b count frames with
  | case1 => exact h
  | case2 _ _ _ _ _ ih => exact ih h
  | case3 _ _ _ _ _ _ ih => exact ih h
  | case4 _ _ _ _ _ _ _ _ ih => exact ih h
  | case5 _ _ _ _ _ _ _ _ _ _ _ _ heq ih =>
      rw [heq] at ih
      exact ih h

/-- The state behind the copies keeps the outer nodes. -/
theorem of_cloneBetween (h : b.Extends roots) {count : Nat} {frames clones : List Frame}
    {b' : Builder} (heq : b.cloneBetween count frames = (clones, b')) : b'.Extends roots := by
  have hclones := h.cloneBetween count frames
  rw [heq] at hclones
  exact hclones

/-- Splitting a formatting element around a block keeps the outer nodes: what is moved is open. -/
theorem split (h : b.Extends roots) (id : Nat) (tag : Tag) (block : Frame) :
    (b.split id tag block).Extends roots := by
  rw [Builder.split]
  split
  next clones b' heq =>
    -- the open elements are put in another order; the outer nodes are those of the copies' state
    have hclones : b'.Extends roots := h.of_cloneBetween heq
    change Grows roots (Spine.popThrough (fun f => f.id == id) ⟨_, b'.spine.roots⟩).roots
    refine Spine.Extends.popThrough (s := ⟨_, b'.spine.roots⟩) ?_ _
    exact hclones

/-- Closing a formatting element around some blocks keeps the outer nodes, round by round. -/
theorem adoptRounds (h : b.Extends roots) (name : String) (rounds : Nat) :
    (b.adoptRounds name rounds).Extends roots := by
  fun_induction Builder.adoptRounds name rounds b with
  | case1 => exact h
  | case2 => exact h.closeOrdinary name
  | case3 => exact h
  | case4 => exact h
  | case5 => exact Spine.Extends.popThrough (h.recoverIf _) _
  | case6 _ _ _ _ _ _ _ _ _ _ _ ih => exact ih ((h.recoverIf _).split _ _ _)

/-- The end tag of a formatting element keeps the outer nodes. -/
theorem adopt (h : b.Extends roots) (name : String) : (b.adopt name).Extends roots := by
  rw [Builder.adopt]
  split
  · exact ite h.pop (h.adoptRounds name 8)
  · exact h.adoptRounds name 8

/-- Giving up a formatting element keeps the outer nodes. -/
theorem drop (h : b.Extends roots) (id : Nat) : (b.drop id).Extends roots :=
  Spine.Extends.unlist h id

/-- Closing an item before the next one keeps the outer nodes. -/
theorem closeItem (h : b.Extends roots) (siblings : List String) :
    (b.closeItem siblings).Extends roots := by
  rw [Builder.closeItem]
  refine closeParagraphInScope ?_
  split
  · exact ite ((h.closeImpliedExcept _).closeNamed _) h
  · exact h

/-- An element of another vocabulary keeps the outer nodes. -/
theorem insertForeign (h : b.Extends roots) (vocabulary : Vocabulary) (tag : Tag) :
    (b.insertForeign vocabulary tag).Extends roots := by
  rw [Builder.insertForeign]
  exact Verdict.Extends.ite (Spine.Extends.pop h) h

/-- The end tag of a template keeps the outer nodes. -/
theorem closeTemplate (h : b.Extends roots) : b.closeTemplate.Extends roots := by
  rw [Builder.closeTemplate]
  refine ite ?_ h
  exact closeNamed (b := { b with spine := b.spine.popWhile _ }) (Spine.Extends.popWhile h _) _

/-- The start tag of a link keeps the outer nodes, whether a link is open or not. -/
theorem openAnchor (h : b.Extends roots) (tag : Tag) : (b.openAnchor tag).Extends roots := by
  refine reopen ?_
  split
  · exact drop (adopt (b := b.recover) h _) _
  · exact h

/-- The start tag of a formatting element that is not nested keeps the outer nodes. -/
theorem openUnbroken (h : b.Extends roots) (tag : Tag) : (b.openUnbroken tag).Extends roots := by
  have hreopened := h.reopen
  change Builder.Extends roots (if _ then _ else _)
  exact ite (reopen (adopt (b := b.reopen.recover) hreopened _)) hreopened

/-! ### Ordinary content -/

/-- A start tag in ordinary content: each rule is made of steps that keep the outer nodes. -/
theorem startInBody (h : b.Extends roots) (tag : Tag) : (b.startInBody tag).Extends roots := by
  have hreopened := h.reopen
  have hclosed := h.closeParagraphInScope
  rw [Builder.startInBody]
  split
  · exact hreopened
  · exact h
  · exact hclosed
  · -- a heading in a heading
    exact ite hclosed.pop hclosed
  · exact hclosed
  · exact Verdict.Extends.ite h hclosed
  · exact h.closeItem _
  · exact hclosed
  · exact reopen (ite (popThroughNamed (closeImplied (b := b.recover) h) _) h)
  · exact h.openAnchor tag
  · exact hreopened
  · exact h.openUnbroken tag
  · exact hreopened
  · exact hclosed
  · exact hreopened.insertVoid tag
  · exact h.insertVoid tag
  · exact hclosed.insertVoid tag
  · exact insertVoid (reopen (b := b.recover) h) _
  · exact h
  · exact h
  · exact h
  · exact hclosed.reopen
  · exact h
  · exact h
  · exact hreopened
  · exact reopen (ite h.pop h)
  · exact recoverIf (ite h.closeImplied h) _
  · exact recoverIf (ite (h.closeImpliedExcept _) h) _
  · exact h.insertForeign _ tag

/-- The end tag of a form keeps the outer nodes. -/
theorem endForm (h : b.Extends roots) : b.endForm.Extends roots := by
  rw [Builder.endForm]
  split
  · exact ite (h.closeImplied.closeNamed _) h
  · split
    · exact h
    · have hclosed := closeImplied (b := { b with form := none }) h
      exact ite (Spine.Extends.unlist (hclosed.recoverIf _) _) h

/-- An end tag in ordinary content: each rule is made of steps that keep the outer nodes. -/
theorem endInBody (h : b.Extends roots) (name : String) : (b.endInBody name).Extends roots := by
  have hclosed := h.closeImplied
  rw [Builder.endInBody]
  split
  · exact h.closeOrdinary name
  · exact h
  · exact ite (hclosed.closeNamed name) h
  · exact h.endForm
  · exact ite h.closeParagraph (closeParagraph (b := b.recover.insertNamed "p") h)
  · have hitem (stops : Frame → Bool) : Builder.Extends roots (if b.hasInScope stops name = true
        then (b.closeImpliedExcept name).closeNamed name else b.recover) :=
      ite ((h.closeImpliedExcept name).closeNamed name) h
    exact hitem _
  · exact ite (Spine.Extends.popThrough (hclosed.recoverIf _) _) h
  · exact h.adopt name
  · exact ite (hclosed.closeNamed name) h
  · exact insertVoid (reopen (b := b.recover) h) _
  · exact h.closeTemplate

/-- The end of the text keeps the outer nodes. -/
theorem stopInBody (h : b.Extends roots) : b.stopInBody.Extends roots := by
  rw [Builder.stopInBody]
  split
  · dsimp only [Verdict.Extends]
    exact ite h h
  · exact Verdict.Extends.ite (popThroughNamed (b := b.recover) h _) h

/-- A token in ordinary content keeps the outer nodes. -/
theorem inBody (h : b.Extends roots) (t : Token) : (b.inBody t).Extends roots := by
  cases t with
  | char c =>
      rw [Builder.inBody, Verdict.Extends]
      exact ite h (h.reopen.add _)
  | startTag tag => exact h.startInBody tag
  | endTag name => exact h.endInBody name
  | comment text => exact h.add _
  | flaw => exact h
  | stop => exact h.stopInBody

/-! ### Tables, options and templates -/

/-- A token that has no place in a table keeps the outer nodes. -/
theorem fosterInBody (h : b.Extends roots) (t : Token) : (b.fosterInBody t).Extends roots := by
  have hbody := inBody (b := { b with fostering := true }) h t
  rw [Builder.fosterInBody]
  cases hv : Builder.inBody { b with fostering := true } t with
  | done b' slash => rw [hv] at hbody; exact hbody
  | again b' => rw [hv] at hbody; exact hbody

/-- A start tag in a table keeps the outer nodes. -/
theorem startInTable (h : b.Extends roots) (tag : Tag) : (b.startInTable tag).Extends roots := by
  -- a part of a table closes what is open inside the table, and the rest is ordinary content
  have hparts := h.popTo ["table", "template"]
  rw [Builder.startInTable]
  split
  · exact hparts
  · exact hparts
  · exact hparts
  · exact hparts
  · exact hparts
  · exact hparts
  · exact hparts
  · exact hparts
  · exact hparts
  · -- a table in a table
    exact Verdict.Extends.ite (popThroughNamed (b := b.recover) h _) h
  · exact h.startInBody tag
  · exact h.startInBody tag
  · exact h.startInBody tag
  · dsimp only
    exact Verdict.Extends.ite (insertVoid (b := b.recover) h tag)
      (fosterInBody (b := b.recover) h _)
  · dsimp only
    exact Verdict.Extends.ite (insertVoid (b := b.recover) h tag) h
  · exact fosterInBody (b := b.recover) h _

/-- An end tag in a table keeps the outer nodes. -/
theorem endInTable (h : b.Extends roots) (name : String) : (b.endInTable name).Extends roots := by
  rw [Builder.endInTable]
  split
  · exact Verdict.Extends.ite (h.popThroughNamed _) h
  split
  · exact h
  exact Verdict.Extends.ite h.closeTemplate (fosterInBody (b := b.recover) h _)

/-- A token in a table keeps the outer nodes. -/
theorem inTable (h : b.Extends roots) (t : Token) : (b.inTable t).Extends roots := by
  unfold Builder.inTable
  split
  · exact Verdict.Extends.ite h (fosterInBody (b := b.recover) h _)
  · exact h.startInTable _
  · exact h.endInTable _
  · exact h.inBody _

/-- The text found in a table keeps the outer nodes, wherever it is put. -/
theorem flushTableText (h : b.Extends roots) : b.flushTableText.Extends roots := by
  -- the text is added character by character, with formatting or without
  rw [Builder.flushTableText]
  exact ite (foldl (b := { b with tableText := [] }) (fun h _ => h.add _) h _)
    (foldl (b := { b.recover with tableText := [], fostering := true })
      (fun h _ => h.reopen.add _) h _)

/-- A token behind text in a table keeps the outer nodes. -/
theorem inTableText (h : b.Extends roots) (t : Token) : (b.inTableText t).Extends roots := by
  have hflushed := h.flushTableText
  cases t with
  | char c =>
      have hkept : Builder.Extends roots { b with tableText := c :: b.tableText } := h
      exact ite (b := b.recover) h hkept
  | flaw => exact h
  | _ => exact hflushed

/-- Closing a caption keeps the outer nodes. -/
theorem closeCaption? (h : b.Extends roots) {b' : Builder} (hb : b.closeCaption? = some b') :
    b'.Extends roots := by
  rw [Builder.closeCaption?] at hb
  split at hb
  · obtain rfl := Option.some.inj hb
    exact h.closeImplied.closeNamed _
  · cases hb

/-- A token in a caption keeps the outer nodes. -/
theorem inCaption (h : b.Extends roots) (t : Token) : (b.inCaption t).Extends roots := by
  unfold Builder.inCaption
  split
  · split
    · split
      · next b' hb =>
        have hclosed := h.closeCaption? hb
        exact hclosed
      · exact h
    · exact h.inBody _
  · split
    · split
      · next b' hb =>
        have hclosed := h.closeCaption? hb
        exact Verdict.Extends.ite hclosed hclosed
      · exact h
    exact Verdict.Extends.ite h (h.inBody _)
  · exact h.inBody _

/-- The end of a group of columns keeps the outer nodes. -/
theorem leaveColumnGroup (h : b.Extends roots) : b.leaveColumnGroup.Extends roots := by
  rw [Builder.leaveColumnGroup]
  exact Verdict.Extends.ite h.pop h

/-- A token in a group of columns keeps the outer nodes. -/
theorem inColumnGroup (h : b.Extends roots) (t : Token) : (b.inColumnGroup t).Extends roots := by
  unfold Builder.inColumnGroup
  split
  · exact Verdict.Extends.ite (h.add _) h.leaveColumnGroup
  · split
    · exact h.startInBody _
    · exact h.startInBody _
    · exact h.insertVoid _
    · exact h.leaveColumnGroup
  · split
    · exact Verdict.Extends.ite h.pop h
    · exact h
    · exact h.closeTemplate
    · exact h.leaveColumnGroup
  · exact h.inBody _

/-- A token in a group of rows keeps the outer nodes. -/
theorem inTableBody (h : b.Extends roots) (t : Token) : (b.inTableBody t).Extends roots := by
  have hrows := h.popTo rowGroupContext
  -- what belongs to the table around the rows closes their group
  have hleave : Verdict.Extends roots (if b.spine.inScope stopsTable fun f =>
      f.among ["table", "tbody", "tfoot"] then .again ((b.popTo rowGroupContext).pop.enter .table)
      else .done b.recover false) :=
    Verdict.Extends.ite hrows.pop h
  unfold Builder.inTableBody
  split
  · split
    · exact hrows
    · exact popTo (b := b.recover) h _
    · exact popTo (b := b.recover) h _
    · exact hleave
    · exact hleave
    · exact hleave
    · exact hleave
    · exact hleave
    · exact hleave
    · exact h.inTable _
  · split
    · exact Verdict.Extends.ite hrows.pop h
    split
    · exact hleave
    exact Verdict.Extends.ite h (h.inTable _)
  · exact h.inTable _

/-- A token in a row keeps the outer nodes. -/
theorem inRow (h : b.Extends roots) (t : Token) : (b.inRow t).Extends roots := by
  have hrow := h.popTo ["tr", "template"]
  -- what belongs to the rows around this one closes it
  have hleave : Verdict.Extends roots (if b.hasInScope stopsTable "tr" then
      .again (((b.popTo ["tr", "template"]).pop).enter .tableBody)
      else .done b.recover false) :=
    Verdict.Extends.ite hrow.pop h
  unfold Builder.inRow
  split
  · split
    · exact hrow
    · exact hrow
    · exact hleave
    · exact hleave
    · exact hleave
    · exact hleave
    · exact hleave
    · exact hleave
    · exact hleave
    · exact h.inTable _
  · split
    · exact Verdict.Extends.ite hrow.pop h
    split
    · exact hleave
    split
    · exact Verdict.Extends.ite (Verdict.Extends.ite hrow.pop h) h
    exact Verdict.Extends.ite h (h.inTable _)
  · exact h.inTable _

/-- Closing a cell keeps the outer nodes. -/
theorem closeCell (h : b.Extends roots) : b.closeCell.Extends roots :=
  Spine.Extends.popThrough (h.closeImplied.recoverIf _) _

/-- A token in a cell keeps the outer nodes. -/
theorem inCell (h : b.Extends roots) (t : Token) : (b.inCell t).Extends roots := by
  unfold Builder.inCell
  split
  · exact Verdict.Extends.ite (Verdict.Extends.ite h.closeCell h) (h.inBody _)
  · split
    · exact Verdict.Extends.ite (h.closeImplied.closeNamed _) h
    split
    · exact h
    exact Verdict.Extends.ite (Verdict.Extends.ite h.closeCell h) (h.inBody _)
  · exact h.inBody _

/-- Closing the innermost element, if it has a name, keeps the outer nodes. -/
theorem popNamed (h : b.Extends roots) (name : String) : (b.popNamed name).Extends roots := by
  rw [Builder.popNamed]
  exact ite h.pop h

/-- Closing a list of options keeps the outer nodes. -/
theorem closeSelect (h : b.Extends roots) : b.closeSelect.Extends roots := h.popThroughNamed _

/-- A start tag among options keeps the outer nodes. -/
theorem startInSelect (h : b.Extends roots) (tag : Tag) : (b.startInSelect tag).Extends roots := by
  have hoptions := (h.popNamed "option").popNamed "optgroup"
  have hselect := closeSelect (b := b.recover) h
  have hleave : Verdict.Extends roots (if b.recover.hasInScope stopsSelect "select" then
      .again b.recover.closeSelect else .done b.recover false) :=
    Verdict.Extends.ite hselect h
  rw [Builder.startInSelect]
  split
  · exact h.startInBody tag
  · exact h.startInBody tag
  · exact h.startInBody tag
  · exact h.popNamed "option"
  · exact hoptions
  · exact hoptions.insertVoid tag
  · dsimp only [Verdict.Extends]
    exact ite hselect h
  · exact hleave
  · exact hleave
  · exact hleave
  · exact h

/-- An end tag among options keeps the outer nodes. -/
theorem endInSelect (h : b.Extends roots) (name : String) :
    (b.endInSelect name).Extends roots := by
  have hpop (b : Builder) (h : b.Extends roots) (name : String) :
      Builder.Extends roots (if b.currentNamed name then b.pop else b.recover) :=
    ite h.pop h
  unfold Builder.endInSelect
  split
  · refine hpop _ ?_ _
    split
    · exact ite h.pop h
    · exact h
  · exact hpop b h _
  · exact ite h.closeSelect h
  · exact h.closeTemplate
  · exact h

/-- A token among options keeps the outer nodes. -/
theorem inSelect (h : b.Extends roots) (t : Token) : (b.inSelect t).Extends roots := by
  unfold Builder.inSelect
  split
  · rw [Verdict.Extends]
    exact ite h (h.add _)
  · exact h.startInSelect _
  · exact h.endInSelect _
  · exact h.inBody _

/-- A token among options in a table keeps the outer nodes. -/
theorem inSelectInTable (h : b.Extends roots) (t : Token) :
    (b.inSelectInTable t).Extends roots := by
  unfold Builder.inSelectInTable
  split
  · exact Verdict.Extends.ite (closeSelect (b := b.recover) h) (h.inSelect _)
  · split
    · dsimp only
      exact Verdict.Extends.ite (closeSelect (b := b.recover) h) h
    · exact h.inSelect _
  · exact h.inSelect _

/-- A token in a template keeps the outer nodes. -/
theorem inTemplateMode (h : b.Extends roots) (t : Token) : (b.inTemplateMode t).Extends roots := by
  unfold Builder.inTemplateMode
  split
  · split
    · exact h.startInBody _
    · split
      all_goals exact h
  · rw [Verdict.Extends]
    exact ite h.closeTemplate h
  · exact h.inBody _

/-- A token in the text of an element keeps the outer nodes. -/
theorem inText (h : b.Extends roots) (t : Token) : (b.inText t).Extends roots := by
  cases t with
  | char c => exact h.add _
  | stop => exact pop (b := b.recover) h
  | endTag name => exact h.pop
  | startTag tag => exact h.inBody (.startTag tag)
  | comment text => exact h.inBody (.comment text)
  | flaw => exact h.inBody .flaw

/-! ### Tokens -/

/-- A token in any mode keeps the outer nodes. -/
theorem inMode (h : b.Extends roots) (t : Token) : (b.inMode t).Extends roots := by
  rw [Builder.inMode]
  split
  · exact h.inBody t
  · exact h.inText t
  · exact h.inTable t
  · exact h.inTableText t
  · exact h.inCaption t
  · exact h.inColumnGroup t
  · exact h.inTableBody t
  · exact h.inRow t
  · exact h.inCell t
  · exact h.inSelect t
  · exact h.inSelectInTable t
  · exact h.inTemplateMode t

/-- A token that ends a drawing or formula keeps the outer nodes. -/
theorem breakOut (h : b.Extends roots) (t : Token) : (b.breakOut t).Extends roots := by
  rw [Builder.breakOut]
  exact inMode (b := { b.recover with spine := _ }) (Spine.Extends.popWhile h _) t

/-- An end tag in a drawing or formula keeps the outer nodes, whichever element it closes. -/
theorem endForeign (h : b.Extends roots) (name : String) (first : Bool) (frames : List Frame) :
    (b.endForeign name first frames).Extends roots := by
  fun_induction Builder.endForeign b name first frames with
  | case1 => exact h
  | case2 => exact h.inMode _
  | case3 => exact Spine.Extends.popThrough h _
  | case4 _ _ _ _ _ _ ih => exact ih (h.recoverIf _)

/-- A token in a drawing or formula keeps the outer nodes. -/
theorem inForeign (h : b.Extends roots) (t : Token) : (b.inForeign t).Extends roots := by
  unfold Builder.inForeign
  split
  · rw [Verdict.Extends]
    exact ite (add (b := b.recover) h _) (h.add _)
  · exact h.add _
  · dsimp only
    exact Verdict.Extends.ite (h.breakOut _) (h.insertForeign _ _)
  · exact Verdict.Extends.ite (h.breakOut _) (h.endForeign _ _ _)
  · exact h.inMode _

/-- One attempt at a token keeps the outer nodes. -/
theorem verdict (h : b.Extends roots) (t : Token) : (b.verdict t).Extends roots := by
  rw [Builder.verdict]
  exact Verdict.Extends.ite (h.inForeign t) (h.inMode t)

/-- Any number of attempts at a token keeps the outer nodes. -/
theorem settle (h : b.Extends roots) (t : Token) (fuel : Nat) :
    (Builder.settle t fuel b).Extends roots := by
  induction fuel generalizing b with
  | zero => exact h
  | succ fuel ih =>
      have hverdict := h.verdict t
      rw [Builder.settle]
      split
      · next b' heq =>
        rw [heq] at hverdict
        exact ih hverdict
      · next b' slash heq =>
        rw [heq] at hverdict
        split
        · exact recoverIf hverdict _
        · exact hverdict

/-- **One token keeps the outer nodes.** -/
theorem take (h : b.Extends roots) (t : Token) : (b.take t).Extends roots := by
  have hsettle (t : Token) (fuel : Nat) :
      (Builder.settle t fuel { b with skipNewline := false }).Extends roots :=
    settle (b := { b with skipNewline := false }) h t fuel
  unfold Builder.take
  split
  · exact h
  · dsimp only
    exact ite h (hsettle _ _)
  · exact hsettle _ _

/-- **A whole text keeps the outer nodes.** -/
theorem run (h : b.Extends roots) (cs : List Char) : (b.run cs).Extends roots := by
  fun_induction Builder.run b cs with
  | case1 => exact h.take .stop
  | case2 b cs hcs scanned hlt ih => exact ih (foldl (fun h => h.take) h _)

end Extends

/-- **What is finished stays at the beginning of the document**, whatever markup follows, unless it
ends in a text, which may be continued. -/
theorem prefix_finish_run (b : Builder) (hclosed : ∀ t, b.spine.roots.head? ≠ some (.text t))
    (cs : List Char) : b.spine.roots.reverse <+: (b.run cs).spine.finish := by
  have hrun : (b.run cs).Extends b.spine.roots := Extends.run (show Grows _ _ from .refl) cs
  rw [Spine.finish, List.reverse_prefix]
  exact Grows.suffix hclosed (Spine.Extends.popWhile hrun _)

end Builder

end TwinRender.Markup
