import TwinRender.Proofs.Render.Cursor

/-!
# The interpreter runs the steps

A tree of steps is read from a program once and for all; the interpreter cuts the same bodies out of
its blocks each time it comes to them, and refuses what would not have been read. It therefore comes
to what the run of the steps comes to: it gives the same events to the visitor, and ends in the same
way, with all that has been done before.

## Main definitions

* `Config.Reaches`: the configurations that are come to.
* `Config.Follows`, `Config.RunsAs`: the interpreter does what a run says.

## Main results

* `Config.runsAs`: **the interpreter does what the steps of a block say**.
* `Config.follows_run`: **the interpreter does what the run of a program says**.
-/

namespace TwinRender

open Step (ofInstructions)

/-- The step of an instruction whose bodies are not there. -/
theorem ofInstructions_overrun (index : Nat) {i : Instruction} {rest : List Instruction}
    (h : rest.length < i.span) : ofInstructions index (i :: rest) = [.malformed index] := by
  cases i with
  | projectSlot name n =>
      rw [ofInstructions]
      split
      · rfl
      · next hsome => cases (splitBlock?_eq_none_iff.mpr h).symm.trans hsome
  | iterate collection item position n =>
      rw [ofInstructions]
      split
      · rfl
      · next hsome => cases (splitBlock?_eq_none_iff.mpr h).symm.trans hsome
  | branch condition negated m n =>
      rw [ofInstructions]
      split
      · rfl
      · next hsome =>
        obtain ⟨rfl, rfl⟩ := splitBlock?_eq_some hsome
        rw [Instruction.span, List.length_append] at h
        split
        · rfl
        · next hsome' => rw [splitBlock?_eq_none_iff.mpr (by omega)] at hsome'; cases hsome'
  | openElement _ | closeElement _ | setAttribute _ _ | setStyle _ | bufferText _ | yieldText =>
      exact absurd h (Nat.not_lt_zero _)

namespace Config

variable {σ : Type} (v : Visitor σ) (target : Target) (scope : Scope)

/-- One configuration comes to another. -/
def Reaches : Config σ → Config σ → Prop :=
  Relation.ReflTransGen fun c c' => c.next v target scope = .ok (some c')

/-- The interpreter does what a run says: it gives the events of the run to the visitor, and then it
fails as the run does, or is where it should be. If the visitor refuses an event, that is how the
interpreter fails. -/
def Follows (c : Config σ) (r : Run) (last : String → σ → Config σ) : Prop :=
  match r.events.foldlM v.visit c.visitor with
  | .error e => ∃ c', c.Reaches v target scope c' ∧ c'.next v target scope = .error e
  | .ok s =>
    match r.state with
    | .error e =>
      ∃ c', c.Reaches v target scope c' ∧ c'.visitor = s ∧ c'.next v target scope = .error e
    | .ok pending => c.Reaches v target scope (last pending s)

variable {v target scope}

namespace Follows

variable {c c' : Config σ} {r : Run} {last last' : String → σ → Config σ}

/-- The interpreter is where it should be. -/
theorem idle {pending : String} (h : last pending c.visitor = c) :
    c.Follows v target scope (.idle pending) last := by
  change c.Reaches v target scope (last pending c.visitor)
  rw [h]
  exact .refl

/-- The interpreter fails. -/
theorem failed {e : RenderError} (h : c.next v target scope = .error e) :
    c.Follows v target scope (.failed e) last :=
  ⟨c, .refl, rfl, h⟩

/-- The interpreter does something that no visitor sees. -/
theorem step (h : c.next v target scope = .ok (some c')) (hvisitor : c'.visitor = c.visitor)
    (hrest : c'.Follows v target scope r last) : c.Follows v target scope r last := by
  rw [Follows, hvisitor] at hrest
  rw [Follows]
  cases hevents : r.events.foldlM v.visit c.visitor with
  | error e =>
      rw [hevents] at hrest
      obtain ⟨end', hreaches, hend⟩ := hrest
      exact ⟨end', .head h hreaches, hend⟩
  | ok s =>
      rw [hevents] at hrest
      cases hstate : r.state with
      | error e =>
          rw [hstate] at hrest
          obtain ⟨end', hreaches, hend⟩ := hrest
          exact ⟨end', .head h hreaches, hend⟩
      | ok pending =>
          rw [hstate] at hrest
          exact .head h hrest

/-- The interpreter gives events to the visitor in one step. -/
theorem visited {events : List Event} {pending : String}
    (h : c.next v target scope =
      (events.foldlM v.visit c.visitor).map fun s => some (last pending s)) :
    c.Follows v target scope ⟨events, .ok pending⟩ last := by
  rw [Follows]
  cases hevents : events.foldlM v.visit c.visitor with
  | error e =>
      rw [hevents] at h
      exact ⟨c, .refl, h⟩
  | ok s =>
      rw [hevents] at h
      exact .single h

/-- One part of a run behind another. -/
theorem andThen {next : String → Run} (h : c.Follows v target scope r last)
    (hlast : ∀ pending s, (last pending s).visitor = s)
    (hnext : ∀ pending s, (last pending s).Follows v target scope (next pending) last') :
    c.Follows v target scope (r.andThen next) last' := by
  obtain ⟨events, e | pending⟩ := r
  · rw [Follows] at h
    change Follows v target scope c ⟨events, .error e⟩ last'
    rw [Follows]
    cases hevents : events.foldlM v.visit c.visitor with
    | error reason => rwa [hevents] at h
    | ok s => rwa [hevents] at h
  · rw [Run.andThen_ok, Follows, List.foldlM_append]
    rw [Follows] at h
    cases hevents : events.foldlM v.visit c.visitor with
    | error reason => rwa [hevents] at h
    | ok s =>
        rw [hevents] at h
        have hrest := hnext pending s
        rw [Follows, hlast] at hrest
        change match (next pending).events.foldlM v.visit s with
          | .error e => _
          | .ok s => _
        cases hmore : (next pending).events.foldlM v.visit s with
        | error reason =>
            rw [hmore] at hrest
            obtain ⟨end', hreaches, hend⟩ := hrest
            exact ⟨end', .trans h hreaches, hend⟩
        | ok t =>
            rw [hmore] at hrest
            cases hstate : (next pending).state with
            | error reason =>
                rw [hstate] at hrest
                obtain ⟨end', hreaches, hend⟩ := hrest
                exact ⟨end', .trans h hreaches, hend⟩
            | ok final =>
                rw [hstate] at hrest
                exact .trans h hrest

/-- The interpreter goes on without being seen. -/
theorem reaches (h : c.Follows v target scope r last)
    (hlast : ∀ pending s, (last pending s).visitor = s)
    (hlast' : ∀ pending s, (last' pending s).visitor = s)
    (hreaches : ∀ pending s, (last pending s).next v target scope = .ok (some (last' pending s))) :
    c.Follows v target scope r last' := by
  rw [← Run.andThen_idle r]
  exact h.andThen hlast fun pending s => .step (hreaches pending s)
    ((hlast' pending s).trans (hlast pending s).symm) (.idle (by rw [hlast']))

end Follows

/-! ### Blocks -/

/-- The interpreter does what the steps of some instructions say, from the configurations in which
content is projected or not. -/
def RunsAs (v : Visitor σ) (target : Target) (scope : Scope) (slots : Bool) (index : Nat)
    (code : List Instruction) : Prop :=
  ∀ c : Config σ, c.interpreter.slots = slots → c.At index code → (∀ i ∈ code, i.FitsWord) →
    c.Follows v target scope (runSteps (c.interpreter.environment target scope)
      c.interpreter.buffer (ofInstructions index code)) (c.after code.length)

namespace RunsAs

variable {slots : Bool} {index : Nat} {i : Instruction} {s : Step}
  {body owned rest : List Instruction}

/-- No instructions are run. -/
theorem nil : RunsAs v target scope slots index [] := by
  intro c _ _ _
  rw [ofInstructions, runSteps]
  exact .idle c.after_zero

/-- An instruction is run with all that it owns, and then what is behind it. -/
theorem cons (hread : ofInstructions index (i :: (owned ++ rest)) =
      s :: ofInstructions (index + (i :: owned).length) rest)
    (hstep : ∀ c : Config σ, c.interpreter.slots = slots → c.At index (i :: (owned ++ rest)) →
      (∀ j ∈ i :: (owned ++ rest), j.FitsWord) →
      c.Follows v target scope (runStep (c.interpreter.environment target scope)
        c.interpreter.buffer s) (c.after (i :: owned).length))
    (hrest : RunsAs v target scope slots (index + (i :: owned).length) rest) :
    RunsAs v target scope slots index (i :: (owned ++ rest)) := by
  intro c hslots hat hwords
  have hlength : (i :: (owned ++ rest)).length = (i :: owned).length + rest.length := by
    rw [← List.cons_append, List.length_append]
  rw [hread, runSteps, hlength]
  refine (hstep c hslots hat hwords).andThen (fun _ _ => rfl) fun pending t => ?_
  have hafter := hrest (c.after (i :: owned).length pending t) hslots
    (At.after (a := i :: owned) hat pending t)
    fun j hj => hwords j (List.mem_cons_of_mem i (List.mem_append_right owned hj))
  rwa [show (c.after (i :: owned).length pending t).after rest.length =
    c.after ((i :: owned).length + rest.length) from
      funext fun _ => funext fun _ => after_after ..] at hafter

/-- An instruction without bodies is run, and then what is behind it. -/
theorem plain (hplain : i.hasBodies = false)
    (hread : ofInstructions index (i :: rest) = s :: ofInstructions (index + 1) rest)
    (hrun : ∀ inner : Interpreter, runStep (inner.environment target scope) inner.buffer s =
      ⟨(inner.effect scope i).1.toList, .ok (inner.effect scope i).2⟩)
    (hrest : RunsAs v target scope slots (index + 1) rest) :
    RunsAs v target scope slots index (i :: rest) := by
  refine @cons σ v target scope slots index i s [] rest hread (fun c _ hat _ => ?_) hrest
  rw [hrun]
  exact .visited (next_plain hat hplain)

/-- An instruction whose bodies are not there is refused. -/
theorem overrun (hlong : rest.length < i.span) :
    RunsAs v target scope slots index (i :: rest) := by
  intro c _ hat hwords
  have hsteps : runSteps (c.interpreter.environment target scope) c.interpreter.buffer
      (ofInstructions index (i :: rest)) = .failed (.malformedProgram index) := by
    rw [ofInstructions_overrun index hlong, runSteps, runStep]
    rfl
  rw [hsteps]
  exact .failed (next_overrun hat (hwords i (List.mem_cons_self ..)) hlong)

/-- A body is run, and the interpreter goes on behind it. -/
theorem enter (hbody : RunsAs v target scope slots index body) {c : Config σ}
    (hslots : c.interpreter.slots = slots) {inner behind : Activation}
    (hat : (c.enter inner behind).At index body) (hwords : ∀ j ∈ body, j.FitsWord) :
    (c.enter inner behind).Follows v target scope
      (runSteps (c.interpreter.environment target scope) c.interpreter.buffer
        (ofInstructions index body))
      (c.resume behind) := by
  refine (hbody (c.enter inner behind) hslots hat hwords).reaches (fun _ _ => rfl) (fun _ _ => rfl)
    fun pending t => ?_
  rw [next_of_rest_nil (hat.rest_after pending t)]
  rfl

/-- Content from outside is run, and the interpreter goes on behind it with the text that was
pending. -/
theorem project {p : Program} (hcontent : RunsAs v target scope false 0 p.instructions)
    (hwords : FitsWords p.instructions) (c : Config σ) (behind : Activation) :
    (c.project p.instructions behind).Follows v target scope
      ⟨(p.runProjected scope.data).events,
        (p.runProjected scope.data).state.map fun _ => c.interpreter.buffer⟩
      (c.resume behind) := by
  have hroom : (0 : UInt64).toNat + p.instructions.length < UInt64.size := by
    simpa using hwords.length
  have hat : (c.project p.instructions behind).At 0 p.instructions :=
    ⟨⟨Nat.zero_le _, hroom⟩, rfl, rfl⟩
  have hrun := hcontent (c.project p.instructions behind) rfl hat hwords.lengths
  have hdiscard : (⟨(p.runProjected scope.data).events,
      (p.runProjected scope.data).state.map fun _ => c.interpreter.buffer⟩ : Run) =
        (p.runProjected scope.data).andThen fun _ => .idle c.interpreter.buffer := by
    rcases p.runProjected scope.data with ⟨events, _ | pending⟩
    · rfl
    · rw [Run.andThen_ok, Run.idle, List.append_nil]
      rfl
  rw [hdiscard]
  refine Follows.andThen hrun (fun _ _ => rfl) fun pending t => ?_
  have hnext : ((c.project p.instructions behind).after p.instructions.length pending t).next v
      target scope = .ok (some (c.resume behind c.interpreter.buffer t)) := by
    rw [next_of_rest_nil (hat.rest_after pending t)]
    rfl
  exact .step hnext rfl (.idle rfl)

/-- The body of a loop is run for one item after another, and the interpreter goes on behind the
loop. -/
theorem iterate (hbody : RunsAs v target scope slots index body) (item : String)
    (position : Option String) {inner behind : Activation} (hwords : ∀ j ∈ body, j.FitsWord)
    (hat : ∀ c : Config σ, c.active = inner → c.At index body) (entries : List (Value × Nat))
    (c : Config σ) (hslots : c.interpreter.slots = slots) :
    (c.iterate inner behind item position entries).Follows v target scope
      (Run.forEach (fun entry pending =>
        runSteps ((c.interpreter.environment target scope).bind item position entry.1 entry.2)
          pending (ofInstructions index body)) entries c.interpreter.buffer)
      (c.resume behind) := by
  induction entries generalizing c with
  | nil => exact .idle rfl
  | cons entry entries ih =>
      have hinner := hat (c.iterate inner behind item position (entry :: entries)) rfl
      have hfirst := hbody (c.iterate inner behind item position (entry :: entries)) hslots hinner
        hwords
      have hnames : (c.iterate inner behind item position
          (entry :: entries)).interpreter.environment target scope =
            (c.interpreter.environment target scope).bind item position entry.1 entry.2 :=
        Interpreter.environment_push ..
      rw [hnames] at hfirst
      refine hfirst.andThen (fun _ _ => rfl) fun pending t => ?_
      refine Follows.step ?_ ?_ (ih (c.resume c.active pending t) hslots)
      · rw [next_of_rest_nil (hinner.rest_after pending t)]
        rfl
      · cases entries <;> rfl

/-- A slot with its fallback. -/
theorem slot (name : Option String)
    (hcontents : slots = true → ∀ content, scope.slot? name = some content →
      RunsAs v target scope false 0 (content.program target).instructions ∧
        FitsWords (content.program target).instructions)
    (hbody : RunsAs v target scope slots (index + 1) body)
    (hrest : RunsAs v target scope slots (index + 1 + body.length) rest) :
    RunsAs v target scope slots index (.projectSlot name body.length :: (body ++ rest)) := by
  refine cons (s := .slot name (ofInstructions (index + 1) body)) ?_ (fun c hslots hat hwords => ?_)
    ?_
  · rw [ofInstructions_slot, List.length_cons, Nat.add_assoc, Nat.add_comm 1]
  · have hnext : c.next v target scope = _ :=
      next_projectSlot hat (hwords _ (List.mem_cons_self ..))
    rw [List.length_cons, ← resume_passed, runStep, Interpreter.project_environment]
    cases hcontent : c.interpreter.content? scope name with
    | none =>
        rw [hcontent] at hnext
        exact .step hnext rfl (enter hbody (c := c.passed) hslots (hat.tail.body _ rfl)
          fun j hj => hwords j (by simp [hj]))
    | some content =>
        rw [hcontent] at hnext
        have hgiven := c.interpreter.content?_eq_some scope hcontent
        obtain ⟨hprogram, hprogramWords⟩ := hcontents (hslots ▸ hgiven.1) content hgiven.2
        exact .step hnext rfl (project hprogram hprogramWords c.passed _)
  · rwa [List.length_cons, Nat.add_comm body.length, ← Nat.add_assoc]

/-- A branch with its bodies. -/
theorem branch (condition : Expression) (negated : Bool) {alternate : List Instruction}
    (hbody : RunsAs v target scope slots (index + 1) body)
    (halternate : RunsAs v target scope slots (index + 1 + body.length) alternate)
    (hrest : RunsAs v target scope slots (index + 1 + body.length + alternate.length) rest) :
    RunsAs v target scope slots index (.branch condition negated body.length alternate.length ::
      (body ++ (alternate ++ rest))) := by
  have hlength : index + (Instruction.branch condition negated body.length
      alternate.length :: (body ++ alternate)).length =
        index + 1 + body.length + alternate.length := by
    rw [List.length_cons, List.length_append]
    omega
  rw [← List.append_assoc]
  refine cons (s := .branch condition negated (ofInstructions (index + 1) body)
    (ofInstructions (index + 1 + body.length) alternate)) ?_ (fun c hslots hat hwords => ?_) ?_
  · rw [List.append_assoc, ofInstructions_branch, hlength]
  · obtain ⟨hm, hn⟩ : body.length < UInt64.size ∧ alternate.length < UInt64.size :=
      hwords _ (List.mem_cons_self ..)
    rw [List.append_assoc] at hat
    have hnext : c.next v target scope = _ := next_branch hat hm hn
    have hbetween := hat.tail.after c.interpreter.buffer c.visitor
    rw [List.length_cons, List.length_append, ← resume_passed, runStep, ← Interpreter.eval_names]
    split
    · next htaken =>
      rw [if_pos htaken] at hnext
      exact .step hnext rfl (enter hbody (c := c.passed) hslots (hat.tail.body _ rfl)
        fun j hj => hwords j (by simp [hj]))
    · next htaken =>
      rw [if_neg htaken] at hnext
      exact .step hnext rfl (enter halternate (c := c.passed) hslots (hbetween.body _ rfl)
        fun j hj => hwords j (by simp [hj]))
  · rwa [hlength]

/-- A loop with its body. -/
theorem loop (collection : Expression) (item : String) (position : Option String)
    (hbody : RunsAs v target scope slots (index + 1) body)
    (hrest : RunsAs v target scope slots (index + 1 + body.length) rest) :
    RunsAs v target scope slots index
      (.iterate collection item position body.length :: (body ++ rest)) := by
  refine cons (s := .each collection item position (ofInstructions (index + 1) body)) ?_
    (fun c hslots hat hwords => ?_) ?_
  · rw [ofInstructions_iterate, List.length_cons, Nat.add_assoc, Nat.add_comm 1]
  · have hnext : c.next v target scope = _ :=
      next_iterate hat (hwords _ (List.mem_cons_self ..))
    rw [List.length_cons, ← resume_passed, runStep, ← Interpreter.eval_names]
    cases hitems : itemsOf collection ((c.interpreter.names scope).eval collection) with
    | error e =>
        rw [hitems] at hnext
        exact .failed hnext
    | ok items =>
        rw [hitems] at hnext
        refine .step hnext ?_ (iterate hbody item position (fun j hj => hwords j (by simp [hj]))
          (fun c' hc' => hat.tail.body c' hc') items.zipIdx c.passed hslots)
        cases items.zipIdx <;> rfl
  · rwa [List.length_cons, Nat.add_comm body.length, ← Nat.add_assoc]

end RunsAs

/-! ### Programs -/

/-- **The interpreter does what the steps of a block say**, given that it does what the steps of the
contents for slots say. -/
theorem runsAs {slots : Bool}
    (hcontents : slots = true → ∀ name content, scope.slot? name = some content →
      RunsAs v target scope false 0 (content.program target).instructions ∧
        FitsWords (content.program target).instructions)
    (index : Nat) (code : List Instruction) : RunsAs v target scope slots index code := by
  have hattribute (name : String) (source : AttributeSource) (inner : Interpreter) :
      runStep (inner.environment target scope) inner.buffer (.attribute name source) =
        ⟨((source.value (inner.names scope) name).map (Event.attribute name)).toList,
          .ok inner.buffer⟩ := by
    rw [runStep, ← Interpreter.value_names]
    cases source.value (inner.names scope) name <;> rfl
  induction index, code using Step.ofInstructions.induct with
  | case1 index => exact .nil
  | case2 index tag rest ih =>
      exact .plain (s := .openElement tag) rfl (by rw [ofInstructions])
        (fun _ => by rw [runStep]; rfl) ih
  | case3 index tag rest ih =>
      exact .plain (s := .closeElement tag) rfl (by rw [ofInstructions])
        (fun _ => by rw [runStep]; rfl) ih
  | case4 index name source rest ih =>
      exact .plain rfl (by rw [ofInstructions]) (hattribute name source) ih
  | case5 index source rest ih =>
      exact .plain rfl (by rw [ofInstructions]) (hattribute "style" source) ih
  | case6 index source rest ih =>
      exact .plain (s := .buffer source) rfl (by rw [ofInstructions])
        (fun _ => by rw [runStep, ← Interpreter.content_names]; rfl) ih
  | case7 index rest ih =>
      exact .plain (s := .flush) rfl (by rw [ofInstructions]) (fun _ => by rw [runStep]; rfl) ih
  | case8 index name n rest hnone => exact .overrun (splitBlock?_eq_none_iff.mp hnone)
  | case9 index name n rest fallback behind hsome _ ih ih' =>
      obtain ⟨rfl, rfl⟩ := splitBlock?_eq_some hsome
      exact .slot name (fun hslots content h => hcontents hslots name content h) ih ih'
  | case10 index condition negated m n rest hnone =>
      have hlong := splitBlock?_eq_none_iff.mp hnone
      exact .overrun (Nat.lt_add_right n hlong)
  | case11 index condition negated m n rest consequent others hsome hnone =>
      obtain ⟨rfl, rfl⟩ := splitBlock?_eq_some hsome
      have hlong := splitBlock?_eq_none_iff.mp hnone
      refine .overrun ?_
      rw [List.length_append]
      exact Nat.add_lt_add_left hlong _
  | case12 index condition negated m n rest consequent others hsome alternate behind hsome' _ _ ih
      ih' ih'' =>
      obtain ⟨rfl, rfl⟩ := splitBlock?_eq_some hsome
      obtain ⟨rfl, rfl⟩ := splitBlock?_eq_some hsome'
      exact .branch condition negated ih ih' ih''
  | case13 index collection item position n rest hnone =>
      exact .overrun (splitBlock?_eq_none_iff.mp hnone)
  | case14 index collection item position n rest body behind hsome _ ih ih' =>
      obtain ⟨rfl, rfl⟩ := splitBlock?_eq_some hsome
      exact .loop collection item position ih ih'

/-- **The interpreter does what the run of a program says**, whatever the visitor makes of it. -/
theorem follows_run {p : Program} (htarget : p.target = target) (hwords : FitsWords p.instructions)
    (hcontents : ∀ name content, scope.slot? name = some content →
      FitsWords (content.program target).instructions) :
    (start v p).Follows v target scope (p.run target scope)
      ((start v p).after p.instructions.length) := by
  have hroom : (0 : UInt64).toNat + p.instructions.length < UInt64.size := by
    simpa using hwords.length
  rw [Program.run, if_pos htarget]
  refine runsAs (fun _ name content hcontent => ⟨?_, hcontents name content hcontent⟩) 0
    p.instructions (start v p) rfl ⟨⟨Nat.zero_le _, hroom⟩, rfl, rfl⟩ hwords.lengths
  exact runsAs (fun h => by cases h) 0 (content.program target).instructions

end Config

end TwinRender
