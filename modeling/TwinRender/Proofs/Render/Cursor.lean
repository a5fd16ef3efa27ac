import TwinRender.Proofs.Lowering.WellFormed
import TwinRender.Render.Interpreter

/-!
# Steps of the interpreter

The interpreter goes through a program in place, with words for places and lengths. As long as every
length is a word and the program is no longer than a word can say, its sums are exact. So it cuts
the bodies of an instruction out of a block if they are there, and refuses the instruction if they
are not, whatever it would have looked at next.

## Main definitions

* `Instruction.FitsWord`, `FitsWords`: lengths that are words.
* `Activation.Fits`: a block whose places are words.
* `Config.At`: a configuration before some instructions.
* `Interpreter.effect`: what an instruction without bodies does.

## Main results

* `Activation.Fits.split_eq`: **bodies are cut out as they are read**.
* `Config.next_plain`, `Config.next_projectSlot`, `Config.next_branch`, `Config.next_iterate`: the
  steps of the interpreter.
* `Config.next_overrun`: **an instruction whose bodies are not there is refused**.
-/

namespace TwinRender

open Step (ofInstructions)

/-! ### Words -/

/-- The lengths that an instruction gives are words. -/
def Instruction.FitsWord : Instruction → Prop
  | .projectSlot _ n => n < UInt64.size
  | .branch _ _ m n => m < UInt64.size ∧ n < UInt64.size
  | .iterate _ _ _ n => n < UInt64.size
  | _ => True

/-- Whether an instruction has bodies. -/
def Instruction.hasBodies : Instruction → Bool
  | .projectSlot _ _ | .branch _ _ _ _ | .iterate _ _ _ _ => true
  | _ => false

/-- The lengths that some instructions give are words, and so is their number. -/
structure FitsWords (code : List Instruction) : Prop where
  /-- There are not too many. -/
  length : code.length < UInt64.size
  /-- Their lengths are words. -/
  lengths : ∀ i ∈ code, i.FitsWord

/-- A block that is split inside. -/
theorem exists_split {n : Nat} {code : List Instruction} (h : n ≤ code.length) :
    ∃ body behind, code = body ++ behind ∧ body.length = n :=
  ⟨code.take n, code.drop n, (List.take_append_drop n code).symm, List.length_take_of_le h⟩

/-- A block is not split behind its end. -/
theorem splitBlock?_eq_none_iff {n : Nat} {code : List Instruction} :
    splitBlock? n code = none ↔ code.length < n := by
  rw [splitBlock?, ← Nat.not_le]
  split
  · next h => simp [h]
  · next h => simp [h]

/-- The parts of a block that is split. -/
theorem splitBlock?_eq_some {n : Nat} {code body behind : List Instruction}
    (h : splitBlock? n code = some (body, behind)) : code = body ++ behind ∧ body.length = n := by
  rw [splitBlock?] at h
  split at h
  · next hle =>
    obtain ⟨rfl, rfl⟩ := Prod.mk.inj (Option.some.inj h)
    exact ⟨(List.take_append_drop n code).symm, List.length_take_of_le hle⟩
  · cases h

namespace Activation

/-- The instructions from the cursor on. -/
def rest (a : Activation) : List Instruction := a.block.drop a.cursor.toNat

/-- The index in the program of the instruction that comes next, as a number. -/
def place (a : Activation) : Nat := a.offset.toNat + a.cursor.toNat

/-- The instruction that comes next is the first one from the cursor on. -/
theorem instruction?_eq (a : Activation) : a.instruction? = a.rest.head? := by
  rw [instruction?, rest, List.head?_drop]

/-- Instructions are passed over one part after the other. -/
theorem advance_advance (a : Activation) (m n : Nat) :
    (a.advance (.ofNat m)).advance (.ofNat n) = a.advance (.ofNat (m + n)) := by
  rw [advance, advance, advance, UInt64.ofNat_add, UInt64.add_assoc]

/-- An instruction is passed over, and then what it owns. -/
theorem advance_one (a : Activation) (n : Nat) :
    (a.advance 1).advance (.ofNat n) = a.advance (.ofNat (n + 1)) := by
  rw [Nat.add_comm]
  exact a.advance_advance 1 n

/-- A block whose places are places of the program, and words. -/
structure Fits (a : Activation) : Prop where
  /-- The cursor stands in the block, or behind it. -/
  cursor : a.cursor.toNat ≤ a.block.length
  /-- The end of the block is a word. -/
  room : a.offset.toNat + a.block.length < UInt64.size

namespace Fits

variable {a : Activation} {n : Nat}

/-- The index of an instruction does not wrap around. -/
theorem toNat_index (h : a.Fits) : a.index.toNat = a.place := by
  obtain ⟨hcursor, hroom⟩ := h
  rw [index, UInt64.toNat_add, place]
  exact Nat.mod_eq_of_lt (by change _ < UInt64.size; omega)

/-- The instructions from the cursor on, counted. -/
theorem length_rest (h : a.Fits) : a.cursor.toNat + a.rest.length = a.block.length := by
  rw [rest, List.length_drop]
  exact Nat.add_sub_cancel' h.cursor

/-- The cursor does not wrap around. -/
theorem toNat_advance (h : a.Fits) (hn : n ≤ a.rest.length) :
    (a.advance (.ofNat n)).cursor.toNat = a.cursor.toNat + n := by
  have hlength := h.length_rest
  have hroom := h.room
  have hword : n < UInt64.size := by omega
  rw [advance, UInt64.toNat_add, UInt64.toNat_ofNat_of_lt' hword]
  exact Nat.mod_eq_of_lt (by change _ < UInt64.size; omega)

/-- A block fits with some of its instructions passed over. -/
theorem advance (h : a.Fits) (hn : n ≤ a.rest.length) : (a.advance (.ofNat n)).Fits where
  cursor := by
    have hlength := h.length_rest
    rw [h.toNat_advance hn]
    change a.cursor.toNat + n ≤ a.block.length
    omega
  room := h.room

/-- The instructions behind the ones that are passed over. -/
theorem rest_advance (h : a.Fits) (hn : n ≤ a.rest.length) :
    (a.advance (.ofNat n)).rest = a.rest.drop n := by
  rw [rest, h.toNat_advance hn, rest, List.drop_drop]
  rfl

/-- The place behind the instructions that are passed over. -/
theorem place_advance (h : a.Fits) (hn : n ≤ a.rest.length) :
    (a.advance (.ofNat n)).place = a.place + n := by
  rw [place, h.toNat_advance hn, place, Nat.add_assoc]
  rfl

/-- **Bodies are cut out as they are read**: a body of any length that is a word is cut out if there
are so many instructions, and refused if there are not. -/
theorem split_eq (h : a.Fits) (hn : n < UInt64.size) (index : UInt64) :
    a.split (.ofNat n) index = match splitBlock? n a.rest with
      | some (body, _) => .ok (⟨body, a.index, 0⟩, a.advance (.ofNat n))
      | none => .error (.malformedProgram index.toNat) := by
  have hlength := h.length_rest
  have hroom := h.room
  have hword : (UInt64.ofNat n).toNat = n := UInt64.toNat_ofNat_of_lt' hn
  rw [split, checkedAdd, hword, splitBlock?]
  by_cases hle : n ≤ a.rest.length
  · have hsum : a.cursor.toNat + n < UInt64.size := by omega
    have hlast : (a.cursor + UInt64.ofNat n).toNat = a.cursor.toNat + n := h.toNat_advance hle
    have hpart : part? a.block a.cursor (a.cursor + .ofNat n) = some (a.rest.take n) := by
      rw [part?, if_pos ⟨UInt64.le_iff_toNat_le.mpr (by omega), by omega⟩, hlast, List.drop_take,
        Nat.add_sub_cancel_left]
      rfl
    rw [if_pos hsum, Option.bind_some, hpart, if_pos hle]
    simp only [List.length_take_of_le hle]
    rfl
  · rw [if_neg hle]
    by_cases hsum : a.cursor.toNat + n < UInt64.size
    · have hlast : (a.cursor + UInt64.ofNat n).toNat = a.cursor.toNat + n := by
        rw [UInt64.toNat_add, hword]
        exact Nat.mod_eq_of_lt hsum
      have hpart : part? a.block a.cursor (a.cursor + .ofNat n) = none := by
        rw [part?, if_neg fun hplaces => by omega]
      rw [if_pos hsum, Option.bind_some, hpart]
    · rw [if_neg hsum]
      rfl

/-- A body that was cut out fits. -/
theorem body (h : a.Fits) {body behind : List Instruction} (hrest : a.rest = body ++ behind) :
    Fits ⟨body, a.index, 0⟩ where
  cursor := Nat.zero_le _
  room := by
    have hlength := h.length_rest
    have hroom := h.room
    rw [hrest, List.length_append] at hlength
    change a.index.toNat + body.length < UInt64.size
    rw [h.toNat_index, place]
    omega

end Fits

/-- The instructions of a body that has not been begun. -/
@[simp] theorem rest_zero (block : List Instruction) (offset : UInt64) :
    rest ⟨block, offset, 0⟩ = block := rfl

/-- The place of a body that has not been begun. -/
@[simp] theorem place_zero (block : List Instruction) (offset : UInt64) :
    place ⟨block, offset, 0⟩ = offset.toNat := rfl

end Activation

/-! ### Names -/

namespace Interpreter

variable (i : Interpreter) (target : Target) (scope : Scope)

/-- What steps are run with in place of an interpreter. -/
def environment : Environment :=
  ⟨scope.data, i.frames.flatten, fun name =>
    (i.content? scope name).map fun content =>
      (content.program target).runProjected scope.data⟩

/-- The content for a slot is run as it is projected. -/
theorem project_environment (name : Option String) :
    (i.environment target scope).project name = (i.content? scope name).map fun content =>
      (content.program target).runProjected scope.data := rfl

/-- Expressions have the same values. -/
theorem eval_names (e : Expression) :
    (i.names scope).eval e = (i.environment target scope).eval e := rfl

/-- Texts are the same. -/
theorem content_names (source : Source) :
    source.content (i.names scope) = source.content (i.environment target scope) := by
  cases source <;> rfl

/-- Attributes have the same values. -/
theorem value_names (name : String) (source : AttributeSource) :
    source.value (i.names scope) name = source.value (i.environment target scope) name := by
  rcases source with _ | (_ | _) <;> rfl

/-- Content is projected only where slots are filled. -/
theorem content?_eq_some {name : Option String} {content : SlotContent}
    (h : i.content? scope name = some content) :
    i.slots = true ∧ scope.slot? name = some content := by
  rw [content?] at h
  split at h
  · next hslots => exact ⟨hslots, h⟩
  · cases h

/-- What an instruction without bodies does: the event that it gives to the visitor, if any, and the
text that is pending behind it. -/
def effect : Instruction → Option Event × String
  | .openElement tag => (some (.openElement tag), i.buffer)
  | .closeElement tag => (some (.closeElement tag), i.buffer)
  | .setAttribute name source =>
    ((source.value (i.names scope) name).map (.attribute name), i.buffer)
  | .setStyle source => ((source.value (i.names scope) "style").map (.attribute "style"), i.buffer)
  | .bufferText source => (none, i.buffer ++ source.content (i.names scope))
  | .yieldText => (some (.text i.buffer), "")
  | .projectSlot _ _ | .branch _ _ _ _ | .iterate _ _ _ _ => (none, i.buffer)

/-- In the body of a loop, names have the values that the loop binds. -/
theorem environment_push (item : String) (index : Option String) (entry : Value × Nat) :
    (i.push (frame item index entry)).environment target scope =
      (i.environment target scope).bind item index entry.1 entry.2 := by
  cases index <;> rfl

end Interpreter

/-! ### Configurations -/

namespace Config

variable {σ : Type}

/-- The configuration before the rest of a block, with another pending text, and with what the
visitor has come to. -/
def resume (c : Config σ) (behind : Activation) (pending : String) (s : σ) : Config σ :=
  { c with
    active := behind
    interpreter := { c.interpreter with buffer := pending }
    visitor := s }

/-- The configuration behind some instructions. -/
def after (c : Config σ) (n : Nat) : String → σ → Config σ :=
  c.resume (c.active.advance (.ofNat n))

/-- Instructions are run one part after the other. -/
theorem after_after (c : Config σ) (m n : Nat) (p q : String) (s t : σ) :
    (c.after m p s).after n q t = c.after (m + n) q t := by
  simp only [after, resume, Activation.advance_advance]

/-- Nothing has been run. -/
theorem after_zero (c : Config σ) : c.after 0 c.interpreter.buffer c.visitor = c := by
  have hadvance : c.active.advance (.ofNat 0) = c.active := by
    rw [Activation.advance, show UInt64.ofNat 0 = 0 from rfl, UInt64.add_zero]
  rw [after, hadvance, resume]

variable {v : Visitor σ} {target : Target} {scope : Scope}

/-! ### Steps -/

section

variable {c : Config σ} {i : Instruction} {code : List Instruction}

/-- The next step is the next instruction. -/
theorem next_of_rest (h : c.active.rest = i :: code) :
    c.next v target scope = (execute v target scope c.passed c.active.index i).map some := by
  rw [next, Activation.instruction?_eq, h]
  rfl

/-- The next step leads out of a block that has been run. -/
theorem next_of_rest_nil (h : c.active.rest = []) :
    c.next v target scope = .ok c.leave := by
  rw [next, Activation.instruction?_eq, h]
  rfl

end

/-! ### Blocks -/

/-- The interpreter stands before some instructions, of which the first one has an index. -/
structure At (c : Config σ) (index : Nat) (code : List Instruction) : Prop where
  /-- The places of the block are words. -/
  fits : c.active.Fits
  /-- These are the instructions that are left of the block. -/
  rest : c.active.rest = code
  /-- The first one has this index. -/
  place : c.active.place = index

namespace At

variable {c : Config σ} {index : Nat} {a b : List Instruction} {i : Instruction}

/-- The interpreter behind some of the instructions. -/
theorem after (h : c.At index (a ++ b)) (pending : String) (s : σ) :
    (c.after a.length pending s).At (index + a.length) b := by
  have hlength : a.length ≤ c.active.rest.length := by
    rw [h.rest, List.length_append]
    exact Nat.le_add_right ..
  refine ⟨h.fits.advance hlength, ?_, ?_⟩
  · exact (h.fits.rest_advance hlength).trans (by rw [h.rest, List.drop_left])
  · exact (h.fits.place_advance hlength).trans (by rw [h.place])

/-- The interpreter behind one instruction. -/
theorem tail (h : c.At index (i :: b)) :
    c.passed.At (index + 1) b := by
  have hafter := At.after (a := [i]) h c.interpreter.buffer c.visitor
  exact ⟨hafter.fits, hafter.rest, hafter.place⟩

/-- The index of the next instruction is exact. -/
theorem toNat_index (h : c.At index b) : c.active.index.toNat = index :=
  h.fits.toNat_index.trans h.place

/-- The interpreter before a body that it has cut out. -/
theorem body (h : c.At index (a ++ b)) (c' : Config σ) (hc' : c'.active = ⟨a, c.active.index, 0⟩) :
    c'.At index a := by
  refine ⟨?_, ?_, ?_⟩
  · rw [hc']
    exact h.fits.body h.rest
  · rw [hc', Activation.rest_zero]
  · rw [hc', Activation.place_zero, h.toNat_index]

/-- A body that is there is cut out. -/
theorem split (h : c.At index (a ++ b)) (ha : a.length < UInt64.size) (owner : UInt64) :
    c.active.split (.ofNat a.length) owner =
      .ok (⟨a, c.active.index, 0⟩, c.active.advance (.ofNat a.length)) := by
  rw [h.fits.split_eq ha, h.rest, splitBlock?_append]

/-- A body that is not there is refused. -/
theorem split_error (h : c.At index b) {n : Nat} (hn : n < UInt64.size) (hb : b.length < n)
    (owner : UInt64) :
    c.active.split (.ofNat n) owner = .error (.malformedProgram owner.toNat) := by
  rw [h.fits.split_eq hn, h.rest, splitBlock?_eq_none_iff.mpr hb]

/-- Nothing is left behind a block that has been run. -/
theorem rest_after (h : c.At index a) (pending : String) (s : σ) :
    (c.after a.length pending s).active.rest = [] := by
  rw [← List.append_nil a] at h
  exact (h.after pending s).rest

end At

/-! ### Instructions -/

/-- The configuration behind an instruction and what it owns. -/
theorem resume_passed (c : Config σ) (n : Nat) :
    c.passed.resume (c.passed.active.advance (.ofNat n)) = c.after (n + 1) := by
  have hadvance : c.passed.active.advance (.ofNat n) = c.active.advance (.ofNat (n + 1)) :=
    c.active.advance_one n
  rw [hadvance]
  rfl

section

variable {c : Config σ} {index : Nat} {i : Instruction} {code body rest : List Instruction}

/-- **The step of an instruction without bodies.** -/
theorem next_plain (hat : c.At index (i :: code)) (hi : i.hasBodies = false) :
    c.next v target scope =
      ((c.interpreter.effect scope i).1.toList.foldlM v.visit c.visitor).map fun s =>
        some (c.after 1 (c.interpreter.effect scope i).2 s) := by
  have hemit (e : Event) (pending : String) :
      (emit v (c.passed.resume c.passed.active pending c.visitor) e).map some =
        ([e].foldlM v.visit c.visitor).map fun s => some (c.after 1 pending s) := by
    rw [emit, List.foldlM_cons]
    change (v.visit c.visitor e >>= _).map some = _
    cases v.visit c.visitor e <;> rfl
  have hattribute (name : String) (source : AttributeSource) :
      (emitAttribute v scope c.passed name source).map some =
        (((source.value (c.interpreter.names scope) name).map
          (Event.attribute name)).toList.foldlM v.visit c.visitor).map fun s =>
            some (c.after 1 c.interpreter.buffer s) := by
    rw [emitAttribute, show c.passed.interpreter = c.interpreter from rfl]
    cases source.value (c.interpreter.names scope) name with
    | none => rfl
    | some value => exact hemit (.attribute name value) c.interpreter.buffer
  rw [next_of_rest hat.rest]
  cases i with
  | openElement tag => exact hemit (.openElement tag) c.interpreter.buffer
  | closeElement tag => exact hemit (.closeElement tag) c.interpreter.buffer
  | setAttribute name source => exact hattribute name source
  | setStyle source => exact hattribute "style" source
  | bufferText source => rfl
  | yieldText => exact hemit (.text c.interpreter.buffer) ""
  | projectSlot _ _ | branch _ _ _ _ | iterate _ _ _ _ => cases hi

/-- **The step of a slot.** The fallback is cut out before the content is looked at. -/
theorem next_projectSlot {name : Option String}
    (hat : c.At index (.projectSlot name body.length :: (body ++ rest)))
    (hword : body.length < UInt64.size) :
    c.next v target scope = .ok (some (match c.interpreter.content? scope name with
      | some content => c.passed.project (content.program target).instructions
          (c.passed.active.advance (.ofNat body.length))
      | none => c.passed.enter ⟨body, c.passed.active.index, 0⟩
          (c.passed.active.advance (.ofNat body.length)))) := by
  rw [next_of_rest hat.rest, execute, hat.tail.split hword,
    show c.passed.interpreter = c.interpreter from rfl]
  cases c.interpreter.content? scope name <;> rfl

/-- **The step of a branch.** Both bodies are cut out before the condition is looked at. -/
theorem next_branch {condition : Expression} {negated : Bool} {alternate : List Instruction}
    (hat : c.At index (.branch condition negated body.length alternate.length ::
      (body ++ (alternate ++ rest))))
    (hword : body.length < UInt64.size) (hword' : alternate.length < UInt64.size) :
    c.next v target scope = .ok (some (c.passed.enter
      (if ((c.interpreter.names scope).eval condition).truthy != negated then
        ⟨body, c.passed.active.index, 0⟩
      else ⟨alternate, (c.passed.active.advance (.ofNat body.length)).index, 0⟩)
      (c.passed.active.advance (.ofNat (body.length + alternate.length))))) := by
  have hfirst := hat.tail.split hword c.active.index
  have hsecond : (c.passed.active.advance (.ofNat body.length)).split (.ofNat alternate.length)
      c.active.index = .ok (⟨alternate, (c.passed.active.advance (.ofNat body.length)).index, 0⟩,
        c.passed.active.advance (.ofNat (body.length + alternate.length))) := by
    rw [← Activation.advance_advance]
    exact (hat.tail.after c.interpreter.buffer c.visitor).split hword' c.active.index
  rw [next_of_rest hat.rest, execute, hfirst]
  simp only [bind, Except.bind, hsecond]
  change (if (((c.interpreter.names scope).eval condition).truthy != negated) = true then _
    else _ : Except RenderError (Config σ)).map some = _
  split <;> rfl

/-- **The step of a loop.** The body is cut out before the collection is looked at. -/
theorem next_iterate {collection : Expression} {item : String} {position : Option String}
    (hat : c.At index (.iterate collection item position body.length :: (body ++ rest)))
    (hword : body.length < UInt64.size) :
    c.next v target scope =
      (itemsOf collection ((c.interpreter.names scope).eval collection)).map fun items =>
        some (c.passed.iterate ⟨body, c.passed.active.index, 0⟩
          (c.passed.active.advance (.ofNat body.length)) item position items.zipIdx) := by
  rw [next_of_rest hat.rest, execute, hat.tail.split hword]
  change (itemsOf collection ((c.interpreter.names scope).eval collection) >>= _).map some = _
  cases itemsOf collection ((c.interpreter.names scope).eval collection) <;> rfl

/-- **An instruction whose bodies are not there is refused**, with its index in the program, before
anything else is looked at. -/
theorem next_overrun (hat : c.At index (i :: code)) (hword : i.FitsWord)
    (hlong : code.length < i.span) :
    c.next v target scope = .error (.malformedProgram index) := by
  rw [next_of_rest hat.rest, ← hat.toNat_index]
  cases i with
  | projectSlot name n =>
      rw [execute, hat.tail.split_error hword hlong]
      rfl
  | branch condition negated m n =>
      by_cases hfirst : m ≤ code.length
      · -- the first body is there, and the second one is not
        obtain ⟨body, others, rfl, rfl⟩ := exists_split hfirst
        have hothers : others.length < n := by
          change (body ++ others).length < body.length + n at hlong
          rw [List.length_append] at hlong
          omega
        have hsecond : (c.passed.active.advance (.ofNat body.length)).split (.ofNat n)
            c.active.index = .error (.malformedProgram c.active.index.toNat) :=
          (hat.tail.after c.interpreter.buffer c.visitor).split_error hword.2 hothers _
        rw [execute, hat.tail.split hword.1]
        simp only [bind, Except.bind, hsecond]
        rfl
      · rw [execute, hat.tail.split_error hword.1 (Nat.lt_of_not_le hfirst)]
        rfl
  | iterate collection item position n =>
      rw [execute, hat.tail.split_error hword hlong]
      rfl
  | openElement _ | closeElement _ | setAttribute _ _ | setStyle _ | bufferText _ | yieldText =>
      exact absurd hlong (Nat.not_lt_zero _)

end

end Config

end TwinRender
