import TwinRender.Proofs.Render.Interpreter

/-!
# The interpreter stays inside of its blocks

Which block a place of a program stands in can be said without running anything: the program is a
block, and the bodies of an instruction are blocks if they are there. The block that is being run is
always such a block, with its own place in the program, and so are the blocks that the interpreter
goes back to. In compiled content, all bodies are there.

## Main definitions

* `StandsIn`: a place of a program stands directly in a block.
* `Activation.Of`: a block that is being run is a part of a program.
* `Config.Inside`: so are all blocks of a program that is being run.
* `Config.Outcome`: what a step can come to.

## Main results

* `WellFormed.fits`: in well-formed code all bodies are there.
* `Config.outcome_next`: what a step comes to.
* `Config.inside_of_reaches`: **no length makes the interpreter leave its blocks**.
-/

namespace TwinRender

/-! ### Blocks of a program -/

/-- A place of a program stands directly in a block, from its first place to the one behind it. The
whole program is a block, and so are the bodies of an instruction that are there. -/
inductive StandsIn (code : List Instruction) : Nat → Nat → Nat → Prop
  /-- The beginning of the program. -/
  | program : StandsIn code 0 code.length 0
  /-- The place behind an instruction and its bodies. -/
  | behind {first last place : Nat} {i : Instruction} (h : StandsIn code first last place)
    (hi : code[place]? = some i) (hfits : place + 1 + i.span ≤ last) :
    StandsIn code first last (place + 1 + i.span)
  /-- The beginning of a fallback. -/
  | fallback {first last place n : Nat} {name : Option String} (h : StandsIn code first last place)
    (hi : code[place]? = some (.projectSlot name n)) (hfits : place + 1 + n ≤ last) :
    StandsIn code (place + 1) (place + 1 + n) (place + 1)
  /-- The beginning of the first body of a branch. -/
  | consequent {first last place m n : Nat} {condition : Expression} {negated : Bool}
    (h : StandsIn code first last place) (hi : code[place]? = some (.branch condition negated m n))
    (hfits : place + 1 + (m + n) ≤ last) :
    StandsIn code (place + 1) (place + 1 + m) (place + 1)
  /-- The beginning of the second body of a branch. -/
  | alternate {first last place m n : Nat} {condition : Expression} {negated : Bool}
    (h : StandsIn code first last place) (hi : code[place]? = some (.branch condition negated m n))
    (hfits : place + 1 + (m + n) ≤ last) :
    StandsIn code (place + 1 + m) (place + 1 + m + n) (place + 1 + m)
  /-- The beginning of the body of a loop. -/
  | body {first last place n : Nat} {collection : Expression} {item : String}
    {position : Option String} (h : StandsIn code first last place)
    (hi : code[place]? = some (.iterate collection item position n))
    (hfits : place + 1 + n ≤ last) : StandsIn code (place + 1) (place + 1 + n) (place + 1)

/-- The instructions from one place to another. -/
def slice (code : List Instruction) (first last : Nat) : List Instruction :=
  (code.take last).drop first

section

variable {code : List Instruction} {first last place n : Nat} {i : Instruction}

/-- The instructions from one place on. -/
theorem slice_cons (hi : code[place]? = some i) (hlast : place < last) :
    slice code place last = i :: slice code (place + 1) last := by
  obtain ⟨hplace, rfl⟩ := List.getElem?_eq_some_iff.mp hi
  have hlength : place < (code.take last).length := by
    rw [List.length_take]
    omega
  rw [slice, List.drop_eq_getElem_cons hlength, List.getElem_take, slice]

/-- The instructions behind some others. -/
theorem slice_add (n : Nat) : slice code (place + n) last = (slice code place last).drop n := by
  rw [slice, slice, List.drop_drop]

/-- The instructions before some others. -/
theorem slice_take (hn : place + n ≤ last) :
    slice code place (place + n) = (slice code place last).take n := by
  rw [slice, slice, List.drop_take, List.drop_take, List.take_take, Nat.add_sub_cancel_left,
    Nat.min_eq_left (by omega)]

end

/-! ### Well-formed code -/

namespace WellFormed

variable {tags : List String} {inRun : Bool} {i : Instruction} {code : List Instruction}

/-- The bodies of an instruction are there, and what is behind them is well formed. -/
theorem behind (h : WellFormed tags inRun (i :: code)) :
    i.span ≤ code.length ∧ ∃ tags' inRun', WellFormed tags' inRun' (code.drop i.span) := by
  cases h with
  | plain hleads hrest =>
      have hspan : i.span = 0 := by cases hleads <;> rfl
      rw [hspan, List.drop_zero]
      exact ⟨Nat.zero_le _, _, _, hrest⟩
  | slot name hbody hrest | iterate collection item index hbody hrest =>
      refine ⟨?_, tags, false, ?_⟩
      · rw [List.length_append]
        exact Nat.le_add_right ..
      · rw [Instruction.span, List.drop_left]
        exact hrest
  | branch condition negated hconsequent halternate hrest =>
      refine ⟨?_, tags, false, ?_⟩
      · rw [List.length_append, List.length_append, Instruction.span]
        omega
      · rw [Instruction.span, ← List.drop_drop, List.drop_left, List.drop_left]
        exact hrest

/-- The fallback of a slot is well formed. -/
theorem fallback {name : Option String} {n : Nat}
    (h : WellFormed tags inRun (.projectSlot name n :: code)) :
    WellFormed [] false (code.take n) := by
  cases h with
  | plain hleads _ => cases hleads
  | slot _ hbody _ => rwa [List.take_left]

/-- The body of a loop is well formed. -/
theorem body {collection : Expression} {item : String} {position : Option String} {n : Nat}
    (h : WellFormed tags inRun (.iterate collection item position n :: code)) :
    WellFormed [] false (code.take n) := by
  cases h with
  | plain hleads _ => cases hleads
  | iterate _ _ _ hbody _ => rwa [List.take_left]

/-- The bodies of a branch are well formed. -/
theorem bodies {condition : Expression} {negated : Bool} {m n : Nat}
    (h : WellFormed tags inRun (.branch condition negated m n :: code)) :
    WellFormed [] false (code.take m) ∧ WellFormed [] false ((code.drop m).take n) := by
  cases h with
  | plain hleads _ => cases hleads
  | branch _ _ hconsequent halternate _ =>
      rw [List.take_left, List.drop_left, List.take_left]
      exact ⟨hconsequent, halternate⟩

/-- What is left of a block is well formed at each of its places. -/
theorem slice (hwell : WellFormed [] false code) {first last place : Nat}
    (h : StandsIn code first last place) :
    ∃ tags inRun, WellFormed tags inRun (slice code place last) := by
  induction h with
  | program => exact ⟨[], false, by rwa [TwinRender.slice, List.take_length, List.drop_zero]⟩
  | behind _ hi hfits ih =>
      obtain ⟨tags, inRun, hslice⟩ := ih
      rw [slice_cons hi (by omega)] at hslice
      rw [slice_add]
      exact hslice.behind.2
  | fallback _ hi hfits ih =>
      obtain ⟨tags, inRun, hslice⟩ := ih
      rw [slice_cons hi (by omega)] at hslice
      exact ⟨_, _, slice_take hfits ▸ hslice.fallback⟩
  | @consequent _ last place m n _ _ _ hi hfits ih =>
      obtain ⟨tags, inRun, hslice⟩ := ih
      rw [slice_cons hi (by omega)] at hslice
      refine ⟨[], false, ?_⟩
      rw [slice_take (show place + 1 + m ≤ last by omega)]
      exact hslice.bodies.1
  | @alternate _ last place m n _ _ _ hi hfits ih =>
      obtain ⟨tags, inRun, hslice⟩ := ih
      rw [slice_cons hi (by omega)] at hslice
      refine ⟨[], false, ?_⟩
      rw [slice_take (show place + 1 + m + n ≤ last by omega), slice_add]
      exact hslice.bodies.2
  | body _ hi hfits ih =>
      obtain ⟨tags, inRun, hslice⟩ := ih
      rw [slice_cons hi (by omega)] at hslice
      exact ⟨_, _, slice_take hfits ▸ hslice.body⟩

/-- **In well-formed code all bodies are there**, at every place in its block. -/
theorem fits (hwell : WellFormed [] false code) {first last place : Nat}
    (h : StandsIn code first last place) (hlast : place < last) (hi : code[place]? = some i) :
    place + 1 + i.span ≤ last := by
  obtain ⟨tags, inRun, hslice⟩ := hwell.slice h
  rw [slice_cons hi hlast] at hslice
  have hspan := hslice.behind.1
  have hlength : (TwinRender.slice code (place + 1) last).length ≤ last - (place + 1) := by
    rw [TwinRender.slice, List.length_drop, List.length_take]
    omega
  omega

end WellFormed

/-! ### Blocks that are run -/

/-- The instructions of a block are those of a program, at its own place. -/
def Activation.IsPart (a : Activation) (code : List Instruction) : Prop :=
  ∃ before behind, code = before ++ (a.block ++ behind) ∧ before.length = a.offset.toNat

/-- A block that is being run is a block of a program: its places are words, its instructions are
those of the program at these places, and the cursor stands directly in it. -/
structure Activation.Of (a : Activation) (code : List Instruction) : Prop where
  /-- Its places are words. -/
  fits : a.Fits
  /-- Its instructions are those of the program. -/
  part : a.IsPart code
  /-- The cursor stands directly in it. -/
  stands : StandsIn code a.offset.toNat (a.offset.toNat + a.block.length) a.place

namespace Activation.Of

variable {a : Activation} {code inner more : List Instruction} {i : Instruction}

/-- A whole program is a part of itself. -/
theorem ofProgram (h : FitsWords code) : (Activation.ofProgram code).Of code := by
  have hroom : (0 : UInt64).toNat + code.length < UInt64.size := by simpa using h.length
  refine ⟨⟨Nat.zero_le _, hroom⟩, ⟨[], [], by simp [Activation.ofProgram], rfl⟩, ?_⟩
  change StandsIn code 0 (0 + code.length) 0
  rw [Nat.zero_add]
  exact .program

/-- The next instruction of a block is the one of the program at this place. -/
theorem getElem?_place (h : a.Of code) (hrest : a.rest = i :: more) : code[a.place]? = some i := by
  obtain ⟨before, behind, hcode, hbefore⟩ := h.part
  have hblock : a.block[a.cursor.toNat]? = some i := by
    change a.instruction? = some i
    rw [a.instruction?_eq, hrest, List.head?_cons]
  have hcursor : a.cursor.toNat < a.block.length := (List.getElem?_eq_some_iff.mp hblock).1
  rw [hcode, place, ← hbefore, List.getElem?_append_right (Nat.le_add_right ..),
    Nat.add_sub_cancel_left, List.getElem?_append_left hcursor, hblock]

/-- The end of a block is behind all that is left of it. -/
theorem place_add_length (h : a.Of code) :
    a.place + a.rest.length = a.offset.toNat + a.block.length := by
  rw [place, Nat.add_assoc, h.fits.length_rest]

/-- The bodies of an instruction do not go past the end of its block. -/
theorem place_add_le (h : a.Of code) (hrest : a.rest = i :: more) {n : Nat} (hn : n ≤ more.length) :
    a.place + 1 + n ≤ a.offset.toNat + a.block.length := by
  rw [← h.place_add_length, hrest, List.length_cons]
  omega

/-- Behind an instruction and its bodies, a block is still a block of the program. -/
theorem advance (h : a.Of code) (hrest : a.rest = i :: (inner ++ more))
    (hinner : inner.length = i.span) : ((a.advance 1).advance (.ofNat inner.length)).Of code := by
  have hle : inner.length + 1 ≤ a.rest.length := by
    rw [hrest, List.length_cons, List.length_append]
    omega
  rw [a.advance_one]
  refine ⟨h.fits.advance hle, h.part, ?_⟩
  change StandsIn code a.offset.toNat (a.offset.toNat + a.block.length) _
  rw [h.fits.place_advance hle, hinner, Nat.add_comm i.span, ← Nat.add_assoc]
  refine .behind h.stands (h.getElem?_place hrest) (h.place_add_le hrest ?_)
  rw [List.length_append, hinner]
  exact Nat.le_add_right ..

end Activation.Of

/-- A body that is cut out of a block of a program is a block of the program. -/
theorem Activation.Fits.of {a : Activation} {code inner more : List Instruction} (hfits : a.Fits)
    (hpart : a.IsPart code) (hrest : a.rest = inner ++ more)
    (hstands : StandsIn code a.place (a.place + inner.length) a.place) :
    Of ⟨inner, a.index, 0⟩ code := by
  refine ⟨hfits.body hrest, ?_, ?_⟩
  · obtain ⟨before, behind, hcode, hbefore⟩ := hpart
    have hblock : a.block = a.block.take a.cursor.toNat ++ (inner ++ more) := by
      rw [← hrest]
      exact (List.take_append_drop ..).symm
    refine ⟨before ++ a.block.take a.cursor.toNat, more ++ behind, ?_, ?_⟩
    · calc code = before ++ (a.block ++ behind) := hcode
        _ = before ++ ((a.block.take a.cursor.toNat ++ (inner ++ more)) ++ behind) := by
          rw [← hblock]
        _ = _ := by simp only [List.append_assoc]
    · rw [List.length_append, List.length_take_of_le hfits.cursor, hbefore]
      exact hfits.toNat_index.symm
  · rw [place_zero, hfits.toNat_index]
    exact hstands

/-! ### Programs that are run -/

/-- What runs when a block is left goes on in blocks of the program too, out to its end. Content
from outside is run with no slots, so that there is a program of the caller around it. -/
inductive Nested (p : Program) (target : Target) (scope : Scope) :
    List Instruction → Bool → List Caller → Prop
  /-- The program itself. -/
  | program : Nested p target scope p.instructions true []
  /-- A body of an instruction. -/
  | block {code : List Instruction} {slots : Bool} {callers : List Caller} {behind : Activation}
    (h : Nested p target scope code slots callers) (hbehind : behind.Of code) :
    Nested p target scope code slots (.block behind :: callers)
  /-- A body of a loop, which may be begun again. -/
  | loop {code : List Instruction} {slots : Bool} {callers : List Caller} {body behind : Activation}
    (item : String) (index : Option String) (rest : List (Value × Nat))
    (h : Nested p target scope code slots callers) (hbody : body.Of code)
    (hbehind : behind.Of code) :
    Nested p target scope code slots (.loop body behind item index rest :: callers)
  /-- Content from outside. -/
  | content {callers : List Caller} {behind : Activation} {outer : Interpreter}
    {name : Option String} {content : SlotContent}
    (h : Nested p target scope outer.program outer.slots callers)
    (hbehind : behind.Of outer.program) (hcontent : outer.content? scope name = some content) :
    Nested p target scope (content.program target).instructions false
      (.content behind outer :: callers)

namespace Nested

variable {p : Program} {target : Target} {scope : Scope} {code : List Instruction} {slots : Bool}
  {callers : List Caller}

/-- With slots, it is the program that is run. -/
theorem eq_program (h : Nested p target scope code slots callers) (hslots : slots = true) :
    code = p.instructions := by
  induction h with
  | program => rfl
  | block _ _ ih => exact ih hslots
  | loop _ _ _ _ _ _ ih => exact ih hslots
  | content _ _ _ _ => cases hslots

/-- Without slots, it is content from outside. -/
theorem eq_content (h : Nested p target scope code slots callers) (hslots : slots = false) :
    ∃ name content, scope.slot? name = some content ∧
      code = (content.program target).instructions := by
  induction h with
  | program => cases hslots
  | block _ _ ih => exact ih hslots
  | loop _ _ _ _ _ _ ih => exact ih hslots
  | content _ _ hcontent _ => exact ⟨_, _, (Interpreter.content?_eq_some _ scope hcontent).2, rfl⟩

end Nested

namespace Config

variable {σ : Type}

/-- All blocks of a program that is being run are blocks of the program, or of the content from
outside that is being run. -/
structure Inside (p : Program) (target : Target) (scope : Scope) (c : Config σ) : Prop where
  /-- The block that is being run. -/
  active : c.active.Of c.interpreter.program
  /-- The blocks that are gone back to. -/
  callers : Nested p target scope c.interpreter.program c.interpreter.slots c.callers

/-- What a program that is being run can become in one step. -/
inductive Moves (target : Target) (scope : Scope) (c : Config σ) : Config σ → Prop
  /-- An instruction without bodies has been run. -/
  | pass (pending : String) (s : σ) (h : (c.active.advance 1).Of c.interpreter.program) :
    Moves target scope c (c.after 1 pending s)
  /-- A body is begun. -/
  | enter {body behind : Activation} (hbody : body.Of c.interpreter.program)
    (hbehind : behind.Of c.interpreter.program) : Moves target scope c (c.enter body behind)
  /-- Content from outside is begun. -/
  | project {name : Option String} {content : SlotContent} {behind : Activation}
    (hcontent : c.interpreter.content? scope name = some content)
    (hbehind : behind.Of c.interpreter.program) :
    Moves target scope c (c.project (content.program target).instructions behind)
  /-- A loop is begun. -/
  | iterate {body behind : Activation} (hbody : body.Of c.interpreter.program)
    (hbehind : behind.Of c.interpreter.program) (item : String) (index : Option String)
    (entries : List (Value × Nat)) :
    Moves target scope c (c.iterate body behind item index entries)
  /-- A block has been run. -/
  | leave {c' : Config σ} (h : c.leave = some c') : Moves target scope c c'

/-- What a step can come to. -/
inductive Outcome (v : Visitor σ) (target : Target) (scope : Scope) (c : Config σ) :
    Except RenderError (Option (Config σ)) → Prop
  /-- The bodies of the next instruction are not there. -/
  | overrun {i : Instruction} {code : List Instruction} (hrest : c.active.rest = i :: code)
    (hlong : code.length < i.span) :
    Outcome v target scope c (.error (.malformedProgram c.active.place))
  /-- The visitor refuses an event. -/
  | refused {e : RenderError} {event : Event} (h : v.visit c.visitor event = .error e) :
    Outcome v target scope c (.error e)
  /-- A loop runs over something that is no array. -/
  | notIterable (expression found : String) :
    Outcome v target scope c (.error (.notIterable expression found))
  /-- The program has been run. -/
  | ended (hrest : c.active.rest = []) (hcallers : c.callers = []) :
    Outcome v target scope c (.ok none)
  /-- The program goes on. -/
  | moved {c' : Config σ} (h : c.Moves target scope c') : Outcome v target scope c (.ok (some c'))

variable {v : Visitor σ} {p : Program} {target : Target} {scope : Scope} {c c' : Config σ}

/-- The reason why a collection cannot be run over. -/
theorem eq_of_itemsOf_eq_error {collection : Expression} {value : Value} {e : RenderError}
    (h : itemsOf collection value = .error e) :
    e = .notIterable collection.text value.kindName := by
  cases value <;> cases h
  all_goals rfl

/-- There is nothing behind a block only if it is the whole program. -/
theorem callers_of_leave_eq_none (h : c.leave = none) : c.callers = [] := by
  rw [leave] at h
  split at h
  · assumption
  all_goals cases h

/-- An instruction without bodies comes to no more than its event. -/
theorem outcome_plain {i : Instruction} {code : List Instruction}
    (hrest : c.active.rest = i :: code) (hplain : i.hasBodies = false)
    (h : c.active.Of c.interpreter.program) :
    c.Outcome v target scope (c.next v target scope) := by
  have hspan : i.span = 0 := by cases i <;> first | rfl | cases hplain
  have hpassed : ((c.active.advance 1).advance (.ofNat ([] : List Instruction).length)).Of
      c.interpreter.program := h.advance hrest hspan.symm
  rw [Activation.advance_one] at hpassed
  rw [next_plain ⟨h.fits, hrest, rfl⟩ hplain]
  cases (c.interpreter.effect scope i).1 with
  | none => exact .moved (.pass _ _ hpassed)
  | some event =>
      rw [Option.toList_some, List.foldlM_cons]
      cases hvisit : v.visit c.visitor event with
      | error e => exact .refused hvisit
      | ok s => exact .moved (.pass _ s hpassed)

/-- A slot whose fallback is there comes to its content or to the fallback. -/
theorem outcome_projectSlot {name : Option String} {body code : List Instruction}
    (hrest : c.active.rest = .projectSlot name body.length :: (body ++ code))
    (h : c.active.Of c.interpreter.program) (hword : body.length < UInt64.size) :
    c.Outcome v target scope (c.next v target scope) := by
  have hat : c.At c.active.place _ := ⟨h.fits, hrest, rfl⟩
  have hbehind := h.advance hrest rfl
  have hbody : Activation.Of ⟨body, c.passed.active.index, 0⟩ c.interpreter.program := by
    refine hat.tail.fits.of h.part hat.tail.rest ?_
    rw [hat.tail.place]
    exact .fallback h.stands (h.getElem?_place hrest)
      (h.place_add_le hrest (List.length_append ▸ Nat.le_add_right ..))
  rw [next_projectSlot hat hword]
  cases hcontent : c.interpreter.content? scope name with
  | none => exact .moved (.enter hbody hbehind)
  | some content => exact .moved (.project hcontent hbehind)

/-- A loop whose body is there is begun, unless it runs over something that is no array. -/
theorem outcome_iterate {collection : Expression} {item : String} {position : Option String}
    {body code : List Instruction}
    (hrest : c.active.rest = .iterate collection item position body.length :: (body ++ code))
    (h : c.active.Of c.interpreter.program) (hword : body.length < UInt64.size) :
    c.Outcome v target scope (c.next v target scope) := by
  have hat : c.At c.active.place _ := ⟨h.fits, hrest, rfl⟩
  have hbehind := h.advance hrest rfl
  have hbody : Activation.Of ⟨body, c.passed.active.index, 0⟩ c.interpreter.program := by
    refine hat.tail.fits.of h.part hat.tail.rest ?_
    rw [hat.tail.place]
    exact .body h.stands (h.getElem?_place hrest)
      (h.place_add_le hrest (List.length_append ▸ Nat.le_add_right ..))
  rw [next_iterate hat hword]
  cases hitems : itemsOf collection ((c.interpreter.names scope).eval collection) with
  | error e =>
      obtain rfl := eq_of_itemsOf_eq_error hitems
      exact .notIterable _ _
  | ok items => exact .moved (.iterate (c := c) hbody hbehind item position items.zipIdx)

/-- A branch whose bodies are there comes to one of them. -/
theorem outcome_branch {condition : Expression} {negated : Bool}
    {consequent alternate code : List Instruction}
    (hrest : c.active.rest = .branch condition negated consequent.length alternate.length ::
      (consequent ++ (alternate ++ code)))
    (h : c.active.Of c.interpreter.program) (hword : consequent.length < UInt64.size)
    (hword' : alternate.length < UInt64.size) :
    c.Outcome v target scope (c.next v target scope) := by
  have hat : c.At c.active.place _ := ⟨h.fits, hrest, rfl⟩
  have hother := hat.tail.after c.interpreter.buffer c.visitor
  have hbehind : ((c.active.advance 1).advance (.ofNat (consequent ++ alternate).length)).Of
      c.interpreter.program := h.advance (by rw [hrest, List.append_assoc]) List.length_append
  have hspan := h.place_add_le (n := consequent.length + alternate.length) hrest (by
    rw [List.length_append, List.length_append]
    omega)
  have hfirst : Activation.Of ⟨consequent, c.passed.active.index, 0⟩ c.interpreter.program := by
    refine hat.tail.fits.of h.part hat.tail.rest ?_
    rw [hat.tail.place]
    exact .consequent h.stands (h.getElem?_place hrest) hspan
  have hsecond : Activation.Of
      ⟨alternate, (c.passed.active.advance (.ofNat consequent.length)).index, 0⟩
      c.interpreter.program := by
    refine hother.fits.of h.part hother.rest ?_
    rw [hother.place]
    exact .alternate h.stands (h.getElem?_place hrest) hspan
  rw [List.length_append] at hbehind
  rw [next_branch hat hword hword']
  split
  · exact .moved (.enter hfirst hbehind)
  · exact .moved (.enter hsecond hbehind)

/-- **What a step comes to**, in a block of a program with lengths that are words. -/
theorem outcome_next (h : c.active.Of c.interpreter.program)
    (hwords : FitsWords c.interpreter.program) :
    c.Outcome v target scope (c.next v target scope) := by
  cases hrest : c.active.rest with
  | nil =>
      rw [next_of_rest_nil hrest]
      cases hleave : c.leave with
      | none => exact .ended hrest (callers_of_leave_eq_none hleave)
      | some c' => exact .moved (.leave hleave)
  | cons i code =>
      have hword := hwords.lengths i (List.mem_of_getElem? (h.getElem?_place hrest))
      rcases Nat.lt_or_ge code.length i.span with hlong | hfits
      · rw [next_overrun ⟨h.fits, hrest, rfl⟩ hword hlong]
        exact .overrun hrest hlong
      · cases i with
        | projectSlot name n =>
            obtain ⟨body, behind, rfl, rfl⟩ := exists_split hfits
            exact outcome_projectSlot hrest h hword
        | iterate collection item position n =>
            obtain ⟨body, behind, rfl, rfl⟩ := exists_split hfits
            exact outcome_iterate hrest h hword
        | branch condition negated m n =>
            obtain ⟨bodies, behind, rfl, hbodies⟩ := exists_split hfits
            have hfirst : m ≤ bodies.length := by
              rw [hbodies]
              exact Nat.le_add_right ..
            obtain ⟨consequent, alternate, rfl, rfl⟩ := exists_split hfirst
            obtain rfl : alternate.length = n := by
              rw [List.length_append] at hbodies
              exact Nat.add_left_cancel hbodies
            rw [List.append_assoc] at hrest
            exact outcome_branch hrest h hword.1 hword.2
        | openElement _ | closeElement _ | setAttribute _ _ | setStyle _ | bufferText _
        | yieldText => exact outcome_plain hrest rfl h

/-! ### Runs -/

/-- A program is inside of its blocks when it is begun. -/
theorem inside_start (hwords : FitsWords p.instructions) :
    (start v p).Inside p target scope :=
  ⟨.ofProgram hwords, .program⟩

/-- A loop goes on in its body or behind it. -/
theorem inside_iterate {body behind : Activation}
    (hcallers : Nested p target scope c.interpreter.program c.interpreter.slots c.callers)
    (hbody : body.Of c.interpreter.program) (hbehind : behind.Of c.interpreter.program)
    (item : String) (index : Option String) (entries : List (Value × Nat)) :
    (c.iterate body behind item index entries).Inside p target scope := by
  cases entries with
  | nil => exact ⟨hbehind, hcallers⟩
  | cons entry rest => exact ⟨hbody, .loop item index rest hcallers hbody hbehind⟩

/-- When a block has been run, the program goes on in a block of the program around it. -/
theorem inside_leave
    (hcallers : Nested p target scope c.interpreter.program c.interpreter.slots c.callers)
    (h : c.leave = some c') : c'.Inside p target scope := by
  obtain ⟨active, ⟨program, slots, frames, buffer⟩, callers, visitor⟩ := c
  cases hcallers with
  | program => cases h
  | block hcallers hbehind =>
      obtain rfl := Option.some.inj h
      exact ⟨hbehind, hcallers⟩
  | loop item index rest hcallers hbody hbehind =>
      obtain rfl := Option.some.inj h
      let looped : Interpreter := ⟨program, slots, frames, buffer⟩
      exact inside_iterate (c := ⟨active, looped.pop, _, visitor⟩) hcallers hbody hbehind item index
        rest
  | content hcallers hbehind _ =>
      obtain rfl := Option.some.inj h
      exact ⟨hbehind, hcallers⟩

section

variable (hcontents : ∀ name content, scope.slot? name = some content →
  FitsWords (content.program target).instructions)

include hcontents

/-- A program inside of its blocks is inside of them after the next step. -/
theorem Inside.moves (h : c.Inside p target scope) (hmoves : c.Moves target scope c') :
    c'.Inside p target scope := by
  cases hmoves with
  | pass pending s hpassed => exact ⟨hpassed, h.callers⟩
  | enter hbody hbehind => exact ⟨hbody, .block h.callers hbehind⟩
  | project hcontent hbehind =>
      have hslot := (Interpreter.content?_eq_some _ scope hcontent).2
      exact ⟨.ofProgram (hcontents _ _ hslot), .content h.callers hbehind hcontent⟩
  | iterate hbody hbehind item index entries =>
      exact inside_iterate h.callers hbody hbehind item index entries
  | leave hleave => exact inside_leave h.callers hleave

/-- The lengths in what is run are words. -/
theorem Inside.fitsWords (h : c.Inside p target scope) (hwords : FitsWords p.instructions) :
    FitsWords c.interpreter.program := by
  cases hslots : c.interpreter.slots with
  | true =>
      rw [h.callers.eq_program hslots]
      exact hwords
  | false =>
      obtain ⟨name, content, hslot, hcode⟩ := h.callers.eq_content hslots
      rw [hcode]
      exact hcontents name content hslot

/-- **The interpreter stays inside of its blocks**, whatever the lengths in its program are. -/
theorem inside_of_reaches (hwords : FitsWords p.instructions)
    (h : (start v p).Reaches v target scope c) : c.Inside p target scope := by
  induction h with
  | refl => exact inside_start hwords
  | @tail c _ _ hnext ih =>
      have houtcome : c.Outcome v target scope (c.next v target scope) :=
        outcome_next ih.active (ih.fitsWords hcontents hwords)
      rw [hnext] at houtcome
      cases houtcome with
      | moved hmoves => exact ih.moves hcontents hmoves

end

end Config

end TwinRender
