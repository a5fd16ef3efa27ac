import TwinRender.Proofs.Names
import TwinRender.Render

/-!
# Blocks of code

A flat list of instructions is read into steps, and the steps are run. This module says how both
go through the parts of a list: a list of instructions is a *block* when no instruction in it owns
anything behind it, so that the steps of a block followed by more code are the steps of the block
followed by the steps of that code.

## Main definitions

* `IsBlock`: instructions that own nothing behind them.

## Main results

* `IsBlock.append`, `IsBlock.slot`, `IsBlock.branch`, `IsBlock.iterate`: blocks are closed under
  the ways in which code is put together.
* `runSteps_append`: steps are run one behind the other.
-/

namespace TwinRender

open Step (ofInstructions)

/-! ### Reading -/

/-- As many instructions as a list has are split off from whatever stands behind it. -/
theorem splitBlock?_append (body rest : List Instruction) :
    splitBlock? body.length (body ++ rest) = some (body, rest) := by
  have hle : body.length ≤ (body ++ rest).length := by
    rw [List.length_append]
    omega
  rw [splitBlock?, if_pos hle, List.take_left, List.drop_left]

/-- The step of a slot whose fallback fits. -/
theorem ofInstructions_slot (index : Nat) (name : Option String) (body rest : List Instruction) :
    ofInstructions index (.projectSlot name body.length :: (body ++ rest)) =
      .slot name (ofInstructions (index + 1) body) ::
        ofInstructions (index + 1 + body.length) rest := by
  rw [ofInstructions]
  split
  · next h => rw [splitBlock?_append] at h; exact absurd h (by simp)
  · next h =>
      rw [splitBlock?_append, Option.some.injEq, Prod.mk.injEq] at h
      obtain ⟨rfl, rfl⟩ := h
      rfl

/-- The step of a loop whose body fits. -/
theorem ofInstructions_iterate (index : Nat) (collection : Expression) (item : String)
    (position : Option String) (body rest : List Instruction) :
    ofInstructions index (.iterate collection item position body.length :: (body ++ rest)) =
      .each collection item position (ofInstructions (index + 1) body) ::
        ofInstructions (index + 1 + body.length) rest := by
  rw [ofInstructions]
  split
  · next h => rw [splitBlock?_append] at h; exact absurd h (by simp)
  · next h =>
      rw [splitBlock?_append, Option.some.injEq, Prod.mk.injEq] at h
      obtain ⟨rfl, rfl⟩ := h
      rfl

/-- The step of a branch whose bodies fit. -/
theorem ofInstructions_branch (index : Nat) (condition : Expression) (negated : Bool)
    (consequent alternate rest : List Instruction) :
    ofInstructions index (.branch condition negated consequent.length alternate.length ::
        (consequent ++ (alternate ++ rest))) =
      .branch condition negated (ofInstructions (index + 1) consequent)
          (ofInstructions (index + 1 + consequent.length) alternate) ::
        ofInstructions (index + 1 + consequent.length + alternate.length) rest := by
  rw [ofInstructions]
  split
  · next h => rw [splitBlock?_append] at h; exact absurd h (by simp)
  · next h =>
      rw [splitBlock?_append, Option.some.injEq, Prod.mk.injEq] at h
      obtain ⟨rfl, rfl⟩ := h
      split
      · next h' => rw [splitBlock?_append] at h'; exact absurd h' (by simp)
      · next h' =>
          rw [splitBlock?_append, Option.some.injEq, Prod.mk.injEq] at h'
          obtain ⟨rfl, rfl⟩ := h'
          rfl

/-! ### Blocks -/

/-- Instructions that own nothing behind them: whatever follows is read on its own. -/
def IsBlock (code : List Instruction) : Prop :=
  ∀ index rest, ofInstructions index (code ++ rest) =
    ofInstructions index code ++ ofInstructions (index + code.length) rest

namespace IsBlock

/-- No instructions are a block. -/
theorem nil : IsBlock [] := by
  intro index rest
  simp [ofInstructions]

/-- Two blocks are one. -/
theorem append {a b : List Instruction} (ha : IsBlock a) (hb : IsBlock b) : IsBlock (a ++ b) := by
  intro index rest
  rw [List.append_assoc, ha, hb, ha, List.append_assoc, List.length_append, Nat.add_assoc]

/-- An instruction with all that it owns is a block. -/
theorem owner {i : Instruction} {body : List Instruction} (s : Nat → Step)
    (h : ∀ index rest, ofInstructions index (i :: (body ++ rest)) =
      s index :: ofInstructions (index + 1 + body.length) rest) : IsBlock (i :: body) := by
  intro index rest
  have halone := h index []
  rw [List.append_nil] at halone
  rw [List.cons_append, h, halone, ofInstructions, List.singleton_append, List.length_cons,
    Nat.add_assoc, Nat.add_comm 1]

/-- The beginning of an element is a block. -/
theorem openElement (tag : String) : IsBlock [.openElement tag] :=
  owner (fun _ => .openElement tag) fun _ _ => by rw [List.nil_append, ofInstructions]; rfl

/-- The end of an element is a block. -/
theorem closeElement (tag : String) : IsBlock [.closeElement tag] :=
  owner (fun _ => .closeElement tag) fun _ _ => by rw [List.nil_append, ofInstructions]; rfl

/-- An attribute is a block. -/
theorem setAttribute (name : String) (source : AttributeSource) :
    IsBlock [.setAttribute name source] :=
  owner (fun _ => .attribute name source) fun _ _ => by rw [List.nil_append, ofInstructions]; rfl

/-- A style is a block. -/
theorem setStyle (source : AttributeSource) : IsBlock [.setStyle source] :=
  owner (fun _ => .attribute "style" source) fun _ _ => by
    rw [List.nil_append, ofInstructions]; rfl

/-- A text is a block. -/
theorem bufferText (source : Source) : IsBlock [.bufferText source] :=
  owner (fun _ => .buffer source) fun _ _ => by rw [List.nil_append, ofInstructions]; rfl

/-- Giving out the pending text is a block. -/
theorem yieldText : IsBlock [.yieldText] :=
  owner (fun _ => .flush) fun _ _ => by rw [List.nil_append, ofInstructions]; rfl

/-- A slot with its fallback is a block. -/
theorem slot (name : Option String) (body : List Instruction) :
    IsBlock (.projectSlot name body.length :: body) :=
  owner (fun index => .slot name (ofInstructions (index + 1) body)) fun index rest =>
    ofInstructions_slot index name body rest

/-- A loop with its body is a block. -/
theorem iterate (collection : Expression) (item : String) (position : Option String)
    (body : List Instruction) :
    IsBlock (.iterate collection item position body.length :: body) :=
  owner (fun index => .each collection item position (ofInstructions (index + 1) body))
    fun index rest => ofInstructions_iterate index collection item position body rest

/-- A branch with its bodies is a block. -/
theorem branch (condition : Expression) (negated : Bool)
    (consequent alternate : List Instruction) :
    IsBlock (.branch condition negated consequent.length alternate.length ::
      (consequent ++ alternate)) := by
  refine owner (fun index => .branch condition negated (ofInstructions (index + 1) consequent)
    (ofInstructions (index + 1 + consequent.length) alternate)) fun index rest => ?_
  rw [List.append_assoc, ofInstructions_branch, List.length_append, Nat.add_assoc (index + 1)]

end IsBlock

/-! ### Running -/

namespace Run

/-- A part behind another that has not failed. -/
theorem andThen_ok (events : List Event) (pending : String) (next : String → Run) :
    andThen ⟨events, .ok pending⟩ next =
      ⟨events ++ (next pending).events, (next pending).state⟩ := rfl

/-- Nothing before a part. -/
@[simp] theorem idle_andThen (pending : String) (next : String → Run) :
    (idle pending).andThen next = next pending := by
  rw [idle, andThen_ok, List.nil_append]

/-- Nothing behind a part. -/
@[simp] theorem andThen_idle (r : Run) : r.andThen idle = r := by
  obtain ⟨events, _ | pending⟩ := r
  · rfl
  · rw [andThen_ok, idle, List.append_nil]

/-- Three parts can be run in either grouping. -/
theorem andThen_assoc (r : Run) (f g : String → Run) :
    (r.andThen f).andThen g = r.andThen fun pending => (f pending).andThen g := by
  obtain ⟨events, _ | pending⟩ := r
  · rfl
  simp only [andThen_ok]
  rcases hf : f pending with ⟨events', _ | pending'⟩
  · rfl
  · simp only [andThen_ok, List.append_assoc]

end Run

/-- Steps are run one behind the other. -/
theorem runSteps_append (env : Environment) (pending : String) (a b : List Step) :
    runSteps env pending (a ++ b) =
      (runSteps env pending a).andThen fun pending => runSteps env pending b := by
  induction a generalizing pending with
  | nil => rw [List.nil_append, runSteps, Run.idle_andThen]
  | cons s rest ih =>
      rw [List.cons_append, runSteps, runSteps, Run.andThen_assoc]
      congr 1
      funext pending
      exact ih pending

/-- Code behind a block is run behind it. -/
theorem IsBlock.runSteps_append {a : List Instruction} (ha : IsBlock a) (env : Environment)
    (pending : String) (index : Nat) (b : List Instruction) :
    runSteps env pending (ofInstructions index (a ++ b)) =
      (runSteps env pending (ofInstructions index a)).andThen fun pending =>
        runSteps env pending (ofInstructions (index + a.length) b) := by
  rw [ha, TwinRender.runSteps_append]

end TwinRender
