import TwinRender.Proofs.Render.Machine

/-!
# Well-formed code

Whether code is well formed can be seen without running it. The elements that are open at each
instruction are known, and so is whether text is pending; every length is the length of a body that
is there, and each body is well formed on its own, so that it ends what it begins and nothing else.

A machine that runs such a block is the same machine behind it, with the same elements open, no text
pending and the same bindings, whatever the data are; unless a loop runs over something that is no
array. The same holds of every block that is begun on the way.

## Main definitions

* `WellFormed`: code that ends what it begins, given the elements that are open before it.
* `Machine.Restored`, `Restores`: a machine that is the same behind a block.
* `AllRestore`: all blocks that are begun in a block are begun with no text pending and restore.

## Main results

* `WellFormed.allRestore`: **all blocks of well-formed code restore the machine**.
-/

namespace TwinRender

open Step (ofInstructions)

/-! ### Code -/

/-- What an instruction without a body does to the elements that are open, and to whether text is
pending. -/
inductive Instruction.Leads : Instruction → List String → Bool → List String → Bool → Prop
  /-- One more element is open. -/
  | openElement (tag : String) (tags : List String) :
    Leads (.openElement tag) tags false (tag :: tags) false
  /-- The innermost element is no longer open. -/
  | closeElement (tag : String) (tags : List String) :
    Leads (.closeElement tag) (tag :: tags) false tags false
  /-- An attribute stands in an element. -/
  | setAttribute (name : String) (source : AttributeSource) (tag : String) (tags : List String) :
    Leads (.setAttribute name source) (tag :: tags) false (tag :: tags) false
  /-- A style stands in an element. -/
  | setStyle (source : AttributeSource) (tag : String) (tags : List String) :
    Leads (.setStyle source) (tag :: tags) false (tag :: tags) false
  /-- Text is pending behind a text. -/
  | bufferText (source : Source) (tags : List String) (inRun : Bool) :
    Leads (.bufferText source) tags inRun tags true
  /-- No text is pending when it has been given out. -/
  | yieldText (tags : List String) : Leads .yieldText tags true tags false

/-- Code is well formed behind the open elements with these tags, which it ends, and behind a
pending text or none. The lengths in it are the lengths of its bodies, and each body is well formed
on its own. -/
inductive WellFormed : List String → Bool → List Instruction → Prop
  /-- At the end, no element is open and no text is pending. -/
  | nil : WellFormed [] false []
  /-- An instruction without a body. -/
  | plain {i : Instruction} {tags tags' : List String} {inRun inRun' : Bool}
    {rest : List Instruction} (h : i.Leads tags inRun tags' inRun')
    (hrest : WellFormed tags' inRun' rest) : WellFormed tags inRun (i :: rest)
  /-- A slot with its fallback. -/
  | slot (name : Option String) {tags : List String} {body rest : List Instruction}
    (hbody : WellFormed [] false body) (hrest : WellFormed tags false rest) :
    WellFormed tags false (.projectSlot name body.length :: (body ++ rest))
  /-- A branch with its two bodies. -/
  | branch (condition : Expression) (negated : Bool) {tags : List String}
    {consequent alternate rest : List Instruction} (hconsequent : WellFormed [] false consequent)
    (halternate : WellFormed [] false alternate) (hrest : WellFormed tags false rest) :
    WellFormed tags false (.branch condition negated consequent.length alternate.length ::
      (consequent ++ (alternate ++ rest)))
  /-- A loop with its body. -/
  | iterate (collection : Expression) (item : String) (index : Option String) {tags : List String}
    {body rest : List Instruction} (hbody : WellFormed [] false body)
    (hrest : WellFormed tags false rest) :
    WellFormed tags false (.iterate collection item index body.length :: (body ++ rest))

/-! ### Machines -/

namespace Machine

/-- A machine is the same again, or a loop could not be run. -/
inductive Restored (m : Machine) : Except RenderError Machine → Prop
  /-- The machine is the same. -/
  | same : Restored m (.ok m)
  /-- A loop was to run over something that is neither an array nor absent. -/
  | notIterable (expression found : String) : Restored m (.error (.notIterable expression found))

/-- A machine that is the same, then does something. -/
theorem Restored.bind {m m' : Machine} {r : Except RenderError Machine}
    {f : Machine → Except RenderError Machine} (h : m.Restored r) (hf : m'.Restored (f m)) :
    m'.Restored (r >>= f) := by
  cases h with
  | same => exact hf
  | notIterable expression found => exact .notIterable expression found

/-- A machine that is the same after each item is the same after all of them. -/
theorem Restored.foldlM {α : Type} {m : Machine} {f : Machine → α → Except RenderError Machine}
    (h : ∀ a, m.Restored (f m a)) (items : List α) : m.Restored (items.foldlM f m) := by
  induction items with
  | nil => exact .same
  | cons a rest ih =>
      rw [List.foldlM_cons]
      exact (h a).bind ih

/-- Where machines that are the same after each item come to a machine, it is the same. -/
theorem Restored.eq_of_ok {m m' : Machine} {r : Except RenderError Machine} (h : m.Restored r)
    (hr : r = .ok m') : m' = m := by
  cases h with
  | same => exact (Except.ok.inj hr).symm
  | notIterable _ _ => cases hr

/-- A machine has these elements open, around others, and a pending text only where it may. -/
structure At (m : Machine) (tags outer : List String) (inRun : Bool) : Prop where
  /-- The elements that are open. -/
  openTags : m.openTags = tags ++ outer
  /-- No text is pending outside of a run of text. -/
  buffer : inRun = false → m.buffer = ""

end Machine

open Machine (Restored Opens Begins At)

/-! ### Blocks that restore the machine -/

/-- Running a block on any machine without a pending text leaves the machine as it was, whatever
elements are open around it. -/
def Restores (env : Environment) (block : List Step) : Prop :=
  ∀ m : Machine, m.buffer = "" → m.Restored (m.run env block)

/-- All blocks that are begun while a block is run are begun with no text pending, and restore the
machine. -/
def AllRestore (env : Environment) (block : List Step) : Prop :=
  ∀ (m m' : Machine) (inner : List Step), m.buffer = "" → Begins env m block m' inner →
    m'.buffer = "" ∧ Restores env inner

/-- Content from outside leaves a machine as it was. -/
def Environment.Restores (env : Environment) : Prop :=
  ∀ name projected, env.project name = some projected →
    ∀ m : Machine, m.Restored (m.project projected)

/-- A block of which all blocks restore the machine restores it. -/
theorem AllRestore.restores {env : Environment} {block : List Step} (h : AllRestore env block) :
    Restores env block := fun m hm => (h m m block hm (.self m block)).2 m hm

/-- Steps from some point of a block on: they leave the elements around the block and no text, and
all blocks that they begin restore the machine. -/
structure Completes (env : Environment) (tags : List String) (inRun : Bool) (steps : List Step) :
    Prop where
  /-- The machine at the end of the block. -/
  restored : ∀ {m : Machine} {outer : List String}, m.At tags outer inRun →
    (⟨m.frames, "", outer⟩ : Machine).Restored (m.run env steps)
  /-- The blocks that are begun. -/
  opened : ∀ {m m₁ m₂ : Machine} {outer : List String} {before behind inner : List Step} {s : Step},
    m.At tags outer inRun → steps = before ++ s :: behind → m.run env before = .ok m₁ →
      Opens env m₁ s m₂ inner → m₂.buffer = "" ∧ AllRestore env inner

namespace Completes

variable {env : Environment}

/-- Nothing is left to do. -/
theorem nil : Completes env [] false [] := by
  refine ⟨fun {m outer} hm => ?_, fun _ h => ?_⟩
  · obtain ⟨frames, buffer, openTags⟩ := m
    obtain rfl : openTags = outer := hm.openTags
    obtain rfl : buffer = "" := hm.buffer rfl
    rw [Machine.run]
    exact .same
  · exact absurd h (by simp)

/-- One more step, which leads to where the other steps complete the block, and of which all blocks
restore the machine. -/
theorem cons {s : Step} {rest : List Step} {tags tags' : List String} {inRun inRun' : Bool}
    (hstep : ∀ {m : Machine} {outer : List String}, m.At tags outer inRun →
      ∃ m' : Machine, m'.At tags' outer inRun' ∧ m'.frames = m.frames ∧
        m'.Restored (m.step env s))
    (hopens : ∀ {m m' : Machine} {outer : List String} {inner : List Step},
      m.At tags outer inRun → Opens env m s m' inner → m'.buffer = "" ∧ AllRestore env inner)
    (hrest : Completes env tags' inRun' rest) : Completes env tags inRun (s :: rest) := by
  refine ⟨fun {m outer} hm => ?_, fun {m m₁ m₂ outer before behind inner s'} hm heq hrun hs => ?_⟩
  · obtain ⟨m', hm', hframes, hrestored⟩ := hstep hm
    rw [Machine.run, ← hframes]
    exact hrestored.bind (hrest.restored hm')
  · cases before with
    | nil =>
        obtain ⟨rfl, rfl⟩ := List.cons.inj heq
        rw [Machine.run, Except.ok.injEq] at hrun
        subst hrun
        exact hopens hm hs
    | cons first before =>
        obtain ⟨rfl, rfl⟩ := List.cons.inj heq
        obtain ⟨m', hm', -, hrestored⟩ := hstep hm
        rw [Machine.run] at hrun
        cases hbehind : m.step env s with
        | error e => rw [hbehind] at hrun; cases hrun
        | ok behind =>
            rw [hbehind] at hrun
            obtain rfl := hrestored.eq_of_ok hbehind
            exact hrest.opened hm' rfl hrun hs

/-- A step with bodies, which leaves the machine as it was. -/
theorem owner {s : Step} {rest : List Step} {tags : List String}
    (hstep : ∀ m : Machine, m.buffer = "" → m.Restored (m.step env s))
    (hopens : ∀ {m m' : Machine} {inner : List Step}, m.buffer = "" → Opens env m s m' inner →
      m'.buffer = "" ∧ AllRestore env inner)
    (hrest : Completes env tags false rest) : Completes env tags false (s :: rest) :=
  cons (fun {m _} hm => ⟨m, hm, rfl, hstep m (hm.buffer rfl)⟩)
    (fun hm hs => hopens (hm.buffer rfl) hs) hrest

/-- A slot, given its fallback. -/
theorem slot (henv : env.Restores) (name : Option String) {fallback rest : List Step}
    {tags : List String} (hfallback : AllRestore env fallback)
    (hrest : Completes env tags false rest) :
    Completes env tags false (.slot name fallback :: rest) := by
  refine owner (fun m hm => ?_) (fun hm hs => ?_) hrest
  · rw [Machine.step]
    split
    · next projected h => exact henv name projected h m
    · exact hfallback.restores m hm
  · cases hs with
    | fallback _ => exact ⟨hm, hfallback⟩

/-- A branch, given its two bodies. -/
theorem branch (condition : Expression) (negated : Bool) {consequent alternate rest : List Step}
    {tags : List String} (hconsequent : AllRestore env consequent)
    (halternate : AllRestore env alternate) (hrest : Completes env tags false rest) :
    Completes env tags false (.branch condition negated consequent alternate :: rest) := by
  refine owner (fun m hm => ?_) (fun hm hs => ?_) hrest
  · rw [Machine.step]
    split
    · exact hconsequent.restores m hm
    · exact halternate.restores m hm
  · cases hs with
    | consequent _ => exact ⟨hm, hconsequent⟩
    | alternate _ => exact ⟨hm, halternate⟩

/-- A loop, given its body. -/
theorem each (collection : Expression) (item : String) (index : Option String)
    {body rest : List Step} {tags : List String} (hbody : AllRestore env body)
    (hrest : Completes env tags false rest) :
    Completes env tags false (.each collection item index body :: rest) := by
  -- each iteration takes away what it put on the machine
  have hiteration {m : Machine} (hm : m.buffer = "") (entry : Value × Nat) :
      m.Restored (Machine.iteration env item index body m entry) :=
    Restored.bind (hbody.restores (m.push (Machine.frame item index entry.1 entry.2)) hm) .same
  refine owner (fun m hm => ?_) (fun hm hs => ?_) hrest
  · rw [Machine.step]
    cases hvalue : (m.environment env).eval collection with
    | null => exact .same
    | array items => exact Restored.foldlM (hiteration hm) items.zipIdx
    | bool _ | number _ | string _ | object _ => exact .notIterable _ _
  · cases hs with
    | body _ _ hbefore =>
        obtain rfl := (Restored.foldlM (hiteration hm) _).eq_of_ok hbefore
        exact ⟨hm, hbody⟩

/-- A whole block of which all blocks restore the machine. -/
theorem allRestore {block : List Step} (h : Completes env [] false block) :
    AllRestore env block := by
  intro m m' inner hm hbegins
  cases hbegins with
  | self =>
      refine ⟨hm, fun m hm => ?_⟩
      have hrestored := h.restored (m := m) ⟨rfl, fun _ => hm⟩
      obtain ⟨frames, buffer, openTags⟩ := m
      obtain rfl : buffer = "" := hm
      exact hrestored
  | inside hrun hopens hbegins =>
      obtain ⟨hbuffer, hinner⟩ := h.opened ⟨rfl, fun _ => hm⟩ rfl hrun hopens
      exact hinner _ _ _ hbuffer hbegins

end Completes

/-! ### Well-formed code -/

/-- An instruction without a body does what its step does. -/
theorem Instruction.Leads.completes {env : Environment} {i : Instruction} {tags tags' : List String}
    {inRun inRun' : Bool} (h : i.Leads tags inRun tags' inRun') {index : Nat}
    {rest : List Instruction}
    (hrest : Completes env tags' inRun' (ofInstructions (index + 1) rest)) :
    Completes env tags inRun (ofInstructions index (i :: rest)) := by
  cases h with
  | openElement tag =>
      rw [ofInstructions]
      refine Completes.cons (fun {m outer} hm => ?_) (fun _ hs => by cases hs) hrest
      refine ⟨{ m with openTags := tag :: m.openTags }, ⟨?_, hm.buffer⟩, rfl, .same⟩
      exact congrArg (tag :: ·) hm.openTags
  | closeElement tag =>
      rw [ofInstructions]
      refine Completes.cons (fun {m outer} hm => ?_) (fun _ hs => by cases hs) hrest
      refine ⟨{ m with openTags := tags' ++ outer }, ⟨rfl, hm.buffer⟩, rfl, ?_⟩
      rw [Machine.step, Machine.after, hm.openTags, List.cons_append, Event.openTags, if_pos rfl]
      exact .same
  | setAttribute name source tag tags =>
      rw [ofInstructions]
      refine Completes.cons (fun {m outer} hm => ?_) (fun _ hs => by cases hs) hrest
      exact ⟨m, hm, rfl, .same⟩
  | setStyle source tag tags =>
      rw [ofInstructions]
      refine Completes.cons (fun {m outer} hm => ?_) (fun _ hs => by cases hs) hrest
      exact ⟨m, hm, rfl, .same⟩
  | bufferText source =>
      rw [ofInstructions]
      refine Completes.cons (fun {m outer} hm => ?_) (fun _ hs => by cases hs) hrest
      exact ⟨{ m with buffer := m.buffer ++ source.content (m.environment env) },
        ⟨hm.openTags, by simp⟩, rfl, .same⟩
  | yieldText =>
      rw [ofInstructions]
      refine Completes.cons (fun {m outer} hm => ?_) (fun _ hs => by cases hs) hrest
      exact ⟨{ m with buffer := "" }, ⟨hm.openTags, fun _ => rfl⟩, rfl, .same⟩

/-- Well-formed code completes the block that it is the rest of. -/
theorem WellFormed.completes {env : Environment} (henv : env.Restores) {tags : List String}
    {inRun : Bool} {code : List Instruction} (h : WellFormed tags inRun code) (index : Nat) :
    Completes env tags inRun (ofInstructions index code) := by
  induction h generalizing index with
  | nil =>
      rw [ofInstructions]
      exact .nil
  | plain h _ ih => exact h.completes (ih (index + 1))
  | slot name _ _ ihbody ihrest =>
      rw [ofInstructions_slot]
      exact .slot henv name (ihbody _).allRestore (ihrest _)
  | branch condition negated _ _ _ ihconsequent ihalternate ihrest =>
      rw [ofInstructions_branch]
      exact .branch condition negated (ihconsequent _).allRestore (ihalternate _).allRestore
        (ihrest _)
  | iterate collection item position _ _ ihbody ihrest =>
      rw [ofInstructions_iterate]
      exact .each collection item position (ihbody _).allRestore (ihrest _)

/-- **All blocks of well-formed code restore the machine**: they end what they begin and nothing
else, leave no text pending, and leave the bindings as they were, or come to a loop that cannot be
run. -/
theorem WellFormed.allRestore {env : Environment} (henv : env.Restores) {code : List Instruction}
    (h : WellFormed [] false code) (index : Nat) : AllRestore env (ofInstructions index code) :=
  (h.completes henv index).allRestore

end TwinRender
