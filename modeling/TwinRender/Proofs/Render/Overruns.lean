import TwinRender.Proofs.Render.Nesting

/-!
# Bodies that are not there

An instruction may say that it owns more instructions than its block has left, with lengths up to
the largest word. The interpreter refuses it when it comes to it, with its place in the program, and
it says so of no other instruction. A renderer then fails with what the interpreter says, since its
visitor never speaks of lengths; what has been written until then are the events before.

Content from outside was compiled, so all its bodies are there, and the place is always one in the
program itself.

## Main definitions

* `Config.Overruns`: the next instruction owns more than its block has left.
* `Visitor.Gives`: what a renderer makes of a run.
* `Program.Locates`: a renderer refuses just the instructions that overrun, at their places.

## Main results

* `Config.next_eq_malformed_iff`: one step refuses just the instructions that overrun.
* `Program.locates_overruns`: **overrunning bodies are always caught, at their place**.
-/

namespace TwinRender

/-! ### Lengths in well-formed code -/

/-- Lengths are words if the instructions that they count are. -/
theorem Instruction.fitsWord_of_span {i : Instruction} (h : i.span < UInt64.size) : i.FitsWord := by
  cases i with
  | projectSlot name n => exact h
  | iterate collection item position n => exact h
  | branch condition negated m n => exact ⟨Nat.lt_of_le_of_lt (Nat.le_add_right m n) h,
      Nat.lt_of_le_of_lt (Nat.le_add_left n m) h⟩
  | openElement _ | closeElement _ | setAttribute _ _ | setStyle _ | bufferText _ | yieldText =>
      trivial

namespace WellFormed

variable {tags : List String} {inRun : Bool} {i : Instruction} {code : List Instruction}

/-- No length in well-formed code is longer than the code. -/
theorem span_le (h : WellFormed tags inRun code) (hi : i ∈ code) : i.span ≤ code.length := by
  induction h with
  | nil => cases hi
  | plain hleads _ ih =>
      rw [List.length_cons]
      rcases List.mem_cons.mp hi with rfl | hi
      · have hspan : i.span = 0 := by cases hleads <;> rfl
        omega
      · have := ih hi
        omega
  | slot name _ _ ihbody ihrest | iterate collection item index _ _ ihbody ihrest =>
      rw [List.length_cons, List.length_append]
      rcases List.mem_cons.mp hi with rfl | hi
      · rw [Instruction.span]
        omega
      · rcases List.mem_append.mp hi with hi | hi
        · have := ihbody hi
          omega
        · have := ihrest hi
          omega
  | branch condition negated _ _ _ ihconsequent ihalternate ihrest =>
      rw [List.length_cons, List.length_append, List.length_append]
      rcases List.mem_cons.mp hi with rfl | hi
      · rw [Instruction.span]
        omega
      · rcases List.mem_append.mp hi with hi | hi
        · have := ihconsequent hi
          omega
        · rcases List.mem_append.mp hi with hi | hi
          · have := ihalternate hi
            omega
          · have := ihrest hi
            omega

/-- The lengths in well-formed code are words, if there are not too many instructions. -/
theorem fitsWords (h : WellFormed tags inRun code) (hlength : code.length < UInt64.size) :
    FitsWords code :=
  ⟨hlength, fun _ hi => Instruction.fitsWord_of_span (Nat.lt_of_le_of_lt (h.span_le hi) hlength)⟩

end WellFormed

/-! ### Visitors -/

/-- All that an event is refused for is that it ends an element that is not the innermost one. -/
theorem Event.eq_of_openTags_eq_error {event : Event} {tags : List String} {e : RenderError}
    (h : event.openTags tags = .error e) : ∃ tag, e = .unbalancedClose tag := by
  cases event with
  | closeElement tag =>
      refine ⟨tag, ?_⟩
      simp only [Event.openTags] at h
      split at h
      · split at h
        · cases h
        · exact (Except.error.inj h).symm
      · exact (Except.error.inj h).symm
  | openElement _ | «attribute» _ _ | text _ => cases h

namespace Visitor

variable {σ : Type} {v : Visitor σ}

/-- A visitor never speaks of lengths. -/
def Honest (v : Visitor σ) : Prop :=
  ∀ s event index, v.visit s event ≠ .error (.malformedProgram index)

/-- The writer of markup only refuses elements that are not open. -/
theorem honest_markup : markup.Honest := by
  intro s event index h
  have htags := s.1.step_openTags event
  cases hstep : s.1.step event with
  | ok next =>
      simp only [markup, hstep] at h
      cases h
  | error e =>
      rw [hstep] at htags
      simp only [markup, hstep] at h
      obtain ⟨tag, rfl⟩ := Event.eq_of_openTags_eq_error htags.symm
      cases h

/-- The builder of trees only refuses elements that are not open. -/
theorem honest_tree : tree.Honest := by
  intro b event index h
  have htags := b.step_openTags event
  rw [show b.step event = _ from h] at htags
  obtain ⟨tag, htag⟩ := Event.eq_of_openTags_eq_error htags.symm
  cases htag

/-- A visitor that never speaks of lengths does not for several events. -/
theorem Honest.foldlM (h : v.Honest) (events : List Event) (s : σ) (index : Nat) :
    events.foldlM v.visit s ≠ .error (.malformedProgram index) := by
  induction events generalizing s with
  | nil => exact fun hnil => by cases hnil
  | cons event rest ih =>
      rw [List.foldlM_cons]
      cases hvisit : v.visit s event with
      | error e =>
          rintro ⟨⟩
          exact h s event index hvisit
      | ok next => exact ih next

/-- What a renderer makes of a run with a visitor: if the visitor takes all events and the run has
failed, the renderer fails for the same reason, and there is no other way to speak of lengths. -/
structure Gives {α : Type} (v : Visitor σ) (r : Run) (result : Except RenderError α) : Prop where
  /-- A failed run is a failure. -/
  failed : ∀ s e, r.events.foldlM v.visit v.start = .ok s → r.state = .error e → result = .error e
  /-- Lengths are wrong only in a failed run. -/
  only : ∀ index, result = .error (.malformedProgram index) →
    ∃ s, r.events.foldlM v.visit v.start = .ok s ∧ r.state = .error (.malformedProgram index)

/-- The writer of markup writes what it is fed with. -/
theorem foldlM_markup (events : List Event) (w : Writer) (written : List Piece) :
    events.foldlM markup.visit (w, written) =
      (w.feed events).2.map fun last => (last, written ++ (w.feed events).1) := by
  induction events generalizing w written with
  | nil =>
      rw [Writer.feed]
      change Except.ok (w, written) = .ok (w, written ++ [])
      rw [List.append_nil]
  | cons event rest ih =>
      rw [List.foldlM_cons, Writer.feed]
      cases hstep : w.step event with
      | error e =>
          simp only [markup, hstep]
          rfl
      | ok next =>
          have hvisit : markup.visit (w, written) event = .ok (next.1, written ++ next.2) := by
            simp only [markup, hstep]
            rfl
          rw [hvisit]
          change rest.foldlM markup.visit (next.1, written ++ next.2) = _
          rw [ih, List.append_assoc]

/-- What is written for a failed run if all its events are taken. -/
theorem stream_eq {r : Run} {s : Writer × List Piece} {e : RenderError}
    (hevents : r.events.foldlM markup.visit markup.start = .ok s) (hstate : r.state = .error e) :
    r.stream = (s.2, some e) := by
  rw [show markup.start = (Writer.start, []) from rfl, foldlM_markup] at hevents
  rw [Run.stream]
  rcases hfeed : Writer.start.feed r.events with ⟨pieces, reason | w⟩
  · rw [hfeed] at hevents
    cases hevents
  · rw [hfeed] at hevents
    obtain rfl := Except.ok.inj hevents
    rw [hstate]
    rfl

/-- What renders markup makes of a run. -/
theorem gives_streamed {α : Type} (r : Run) (read : List Piece → α) :
    markup.Gives r (streamed read r.stream) where
  failed s e hevents hstate := by
    rw [streamed, stream_eq hevents hstate]
  only index h := by
    have hhonest := honest_markup.foldlM r.events markup.start index
    rw [show markup.start = (Writer.start, []) from rfl, foldlM_markup] at hhonest ⊢
    rw [streamed, Run.stream] at h
    rcases hfeed : Writer.start.feed r.events with ⟨pieces, reason | w⟩
    · rw [hfeed] at h hhonest
      obtain rfl := Except.error.inj h
      exact absurd rfl hhonest
    · rw [hfeed] at h
      cases hstate : r.state with
      | error e =>
          rw [hstate] at h
          exact ⟨_, rfl, congrArg Except.error (Except.error.inj h)⟩
      | ok pending => rw [hstate] at h; cases h

/-- What builds trees makes of a run. -/
theorem gives_tree (r : Run) : tree.Gives r r.tree where
  failed s e hevents hstate := by
    rw [show tree.visit = TreeBuilder.step from rfl,
      show tree.start = TreeBuilder.empty from rfl] at hevents
    rw [Run.tree, hevents, hstate]
    rfl
  only index h := by
    have hhonest := honest_tree.foldlM r.events tree.start index
    rw [show tree.visit = TreeBuilder.step from rfl,
      show tree.start = TreeBuilder.empty from rfl] at hhonest ⊢
    rw [Run.tree] at h
    cases hevents : r.events.foldlM TreeBuilder.step .empty with
    | error e =>
        rw [hevents] at h hhonest
        obtain rfl := Except.error.inj h
        exact absurd rfl hhonest
    | ok b =>
        rw [hevents] at h
        cases hstate : r.state with
        | error e =>
            rw [hstate] at h
            exact ⟨b, rfl, congrArg Except.error (Except.error.inj h)⟩
        | ok pending =>
            rw [hstate] at h
            obtain ⟨tag, tags, -, htag⟩ := TreeBuilder.finish_eq_error_iff.mp h
            cases htag

end Visitor

/-! ### Instructions that overrun -/

namespace Config

variable {σ : Type}

/-- The next instruction owns more instructions than its block has left. -/
def Overruns (c : Config σ) : Prop :=
  ∃ i, c.active.instruction? = some i ∧
    c.active.block.length < c.active.cursor.toNat + 1 + i.span

variable {v : Visitor σ} {p : Program} {target : Target} {scope : Scope} {a c c' : Config σ}
  {r : Run} {index : Nat}

/-- An instruction overruns if there are fewer instructions behind it in its block. -/
theorem overruns_iff (h : c.active.Fits) :
    c.Overruns ↔ ∃ i code, c.active.rest = i :: code ∧ code.length < i.span := by
  have hlength := h.length_rest
  constructor
  · rintro ⟨i, hi, hlong⟩
    rw [Activation.instruction?_eq] at hi
    obtain ⟨code, hrest⟩ := List.head?_eq_some_iff.mp hi
    rw [hrest, List.length_cons] at hlength
    exact ⟨i, code, hrest, by omega⟩
  · rintro ⟨i, code, hrest, hlong⟩
    rw [hrest, List.length_cons] at hlength
    refine ⟨i, ?_, by omega⟩
    rw [Activation.instruction?_eq, hrest, List.head?_cons]

/-- **One step refuses just the instructions that overrun**, with their places. -/
theorem next_eq_malformed_iff (h : c.active.Of c.interpreter.program)
    (hwords : FitsWords c.interpreter.program) (hv : v.Honest) :
    c.next v target scope = .error (.malformedProgram index) ↔
      c.Overruns ∧ c.active.place = index := by
  rw [overruns_iff h.fits]
  constructor
  · intro hnext
    have houtcome : c.Outcome v target scope (c.next v target scope) := outcome_next h hwords
    rw [hnext] at houtcome
    generalize hresult : (Except.error (.malformedProgram index) :
      Except RenderError (Option (Config σ))) = result at houtcome
    cases houtcome with
    | overrun hrest hlong =>
        cases hresult
        exact ⟨⟨_, _, hrest, hlong⟩, rfl⟩
    | refused hvisit =>
        cases hresult
        exact (hv _ _ _ hvisit).elim
    | notIterable _ _ | ended _ _ | moved _ => cases hresult
  · rintro ⟨⟨i, code, hrest, hlong⟩, rfl⟩
    exact next_overrun ⟨h.fits, hrest, rfl⟩
      (hwords.lengths i (List.mem_of_getElem? (h.getElem?_place hrest))) hlong

/-- In content from outside that is well formed, no instruction overruns. -/
theorem Inside.slots_of_overruns (h : c.Inside p target scope)
    (hwell : ∀ name content, scope.slot? name = some content →
      WellFormed [] false (content.program target).instructions) (hover : c.Overruns) :
    c.interpreter.slots = true := by
  by_contra hslots
  obtain ⟨name, content, hslot, hcode⟩ := h.callers.eq_content (Bool.not_eq_true _ ▸ hslots)
  obtain ⟨i, code, hrest, hlong⟩ := (overruns_iff h.active.fits).mp hover
  have hend := h.active.place_add_length
  have hfits := (hwell name content hslot).fits (hcode ▸ h.active.stands)
    (by rw [← hend, hrest, List.length_cons]; omega) (hcode ▸ h.active.getElem?_place hrest)
  rw [← hend, hrest, List.length_cons] at hfits
  omega

/-- Two configurations that are come to and have nothing behind them are the same. -/
theorem Reaches.unique (h : a.Reaches v target scope c) (h' : a.Reaches v target scope c')
    (hstop : ∀ d, c.next v target scope ≠ .ok (some d))
    (hstop' : ∀ d, c'.next v target scope ≠ .ok (some d)) : c = c' := by
  have hunique : Relator.RightUnique fun c c' : Config σ => c.next v target scope = .ok (some c') :=
    fun _ _ _ hb hc => Option.some.inj (Except.ok.inj (hb.symm.trans hc))
  rcases h.total_of_right_unique hunique h' with h | h
  · rcases h.cases_head with rfl | ⟨d, hd, -⟩
    · rfl
    · exact absurd hd (hstop d)
  · rcases h.cases_head with rfl | ⟨d, hd, -⟩
    · rfl
    · exact absurd hd (hstop' d)

/-- Where the interpreter refuses an instruction, the run has failed, with all events before it. -/
theorem Follows.run_of_reaches {last : String → σ → Config σ} (h : a.Follows v target scope r last)
    (hv : v.Honest) (hlast : ∀ pending s, (last pending s).next v target scope = .ok none)
    (hreaches : a.Reaches v target scope c)
    (hnext : c.next v target scope = .error (.malformedProgram index)) :
    r.events.foldlM v.visit a.visitor = .ok c.visitor ∧
      r.state = .error (.malformedProgram index) := by
  have hstop (d : Config σ) : c.next v target scope ≠ .ok (some d) := by
    rw [hnext]
    rintro ⟨⟩
  rw [Follows] at h
  cases hevents : r.events.foldlM v.visit a.visitor with
  | error e =>
      rw [hevents] at h
      obtain ⟨c', hreaches', hnext'⟩ := h
      obtain rfl := hreaches.unique hreaches' hstop fun d => by rw [hnext']; rintro ⟨⟩
      obtain rfl := Except.error.inj (hnext'.symm.trans hnext)
      exact (hv.foldlM _ _ _ hevents).elim
  | ok s =>
      rw [hevents] at h
      cases hstate : r.state with
      | error e =>
          rw [hstate] at h
          obtain ⟨c', hreaches', rfl, hnext'⟩ := h
          obtain rfl := hreaches.unique hreaches' hstop fun d => by rw [hnext']; rintro ⟨⟩
          exact ⟨rfl, congrArg Except.error (Except.error.inj (hnext'.symm.trans hnext))⟩
      | ok pending =>
          rw [hstate] at h
          obtain rfl := hreaches.unique h hstop fun d => by rw [hlast]; rintro ⟨⟩
          cases (hlast pending s).symm.trans hnext

/-- Where a run has failed, the interpreter refuses an instruction. -/
theorem Follows.exists_of_state {last : String → σ → Config σ} (h : a.Follows v target scope r last)
    {s : σ} {e : RenderError} (hevents : r.events.foldlM v.visit a.visitor = .ok s)
    (hstate : r.state = .error e) :
    ∃ c, a.Reaches v target scope c ∧ c.next v target scope = .error e := by
  rw [Follows, hevents, hstate] at h
  obtain ⟨c, hreaches, -, hnext⟩ := h
  exact ⟨c, hreaches, hnext⟩

end Config

/-! ### Renderers -/

namespace Program

/-- A renderer refuses just the instructions that overrun, at their places, and the interpreter that
it runs stays inside of its blocks. -/
structure Locates {σ α : Type} (p : Program) (v : Visitor σ) (target : Target) (scope : Scope)
    (result : Except RenderError α) : Prop where
  /-- All blocks that are run are blocks of the program, with places that are words. -/
  inside : ∀ c, (Config.start v p).Reaches v target scope c → c.Inside p target scope
  /-- An instruction that overruns its block, even if it does not overrun the program, is an
  instruction of the program itself, and it is refused with its place. -/
  located : p.target = target → ∀ c, (Config.start v p).Reaches v target scope c → c.Overruns →
    c.interpreter.program = p.instructions ∧
      p.instructions[c.active.place]? = c.active.instruction? ∧
      c.next v target scope = .error (.malformedProgram c.active.place) ∧
      result = .error (.malformedProgram c.active.place)
  /-- Nothing else is refused like this. -/
  only : ∀ index, result = .error (.malformedProgram index) → p.target = target ∧
    ∃ c, (Config.start v p).Reaches v target scope c ∧ c.Overruns ∧ c.active.place = index

/-- Both renderers refuse just the instructions that overrun. Markup is written until then. -/
structure LocatesOverruns (p : Program) (scope : Scope) : Prop where
  /-- The renderer of markup. -/
  server : p.Locates .markup .server scope (renderToString p scope)
  /-- The renderer of trees. -/
  client : p.Locates .tree .client scope (renderClient p scope)
  /-- What has been written when an instruction is refused. -/
  written : p.target = .server → ∀ c, (Config.start .markup p).Reaches .markup .server scope c →
    c.Overruns → stream p scope = (c.visitor.2, some (.malformedProgram c.active.place))

variable {σ α : Type} {v : Visitor σ} {p : Program} {target : Target} {scope : Scope}

/-- The interpreter is done when it is behind a program. -/
theorem next_after (hwords : FitsWords p.instructions) (pending : String) (s : σ) :
    ((Config.start v p).after p.instructions.length pending s).next v target scope = .ok none := by
  have hat : (Config.start v p).At 0 p.instructions :=
    ⟨(Activation.Of.ofProgram hwords).fits, rfl, rfl⟩
  rw [Config.next_of_rest_nil (hat.rest_after pending s)]
  rfl

section

variable (hwords : FitsWords p.instructions)
  (hcontents : ∀ name content, scope.slot? name = some content →
    FitsWords (content.program target).instructions)

include hwords hcontents

/-- Whatever the interpreter comes to, it refuses just the instructions that overrun. -/
theorem next_iff_of_reaches (hv : v.Honest) {c : Config σ}
    (hreaches : (Config.start v p).Reaches v target scope c) {index : Nat} :
    c.next v target scope = .error (.malformedProgram index) ↔
      c.Overruns ∧ c.active.place = index := by
  have hinside := Config.inside_of_reaches hcontents hwords hreaches
  exact Config.next_eq_malformed_iff hinside.active (hinside.fitsWords hcontents hwords) hv

/-- Where an instruction overruns, the run has failed, with all events before it. -/
theorem run_of_overruns (hv : v.Honest) (htarget : p.target = target) {c : Config σ}
    (hreaches : (Config.start v p).Reaches v target scope c) (hover : c.Overruns) :
    (p.run target scope).events.foldlM v.visit v.start = .ok c.visitor ∧
      (p.run target scope).state = .error (.malformedProgram c.active.place) :=
  (Config.follows_run htarget hwords hcontents).run_of_reaches hv (next_after hwords) hreaches
    ((next_iff_of_reaches hwords hcontents hv hreaches).mpr ⟨hover, rfl⟩)

/-- A renderer refuses just the instructions that overrun. -/
theorem locates (hv : v.Honest)
    (hwell : ∀ name content, scope.slot? name = some content →
      WellFormed [] false (content.program target).instructions)
    {result : Except RenderError α} (hgives : v.Gives (p.run target scope) result) :
    p.Locates v target scope result where
  inside c hreaches := Config.inside_of_reaches hcontents hwords hreaches
  located htarget c hreaches hover := by
    have hinside := Config.inside_of_reaches hcontents hwords hreaches
    have hprogram := hinside.callers.eq_program (hinside.slots_of_overruns hwell hover)
    obtain ⟨i, code, hrest, -⟩ := (Config.overruns_iff hinside.active.fits).mp hover
    obtain ⟨hevents, hstate⟩ := run_of_overruns hwords hcontents hv htarget hreaches hover
    refine ⟨hprogram, ?_, ?_, hgives.failed _ _ hevents hstate⟩
    · rw [Activation.instruction?_eq, hrest, ← hprogram]
      exact hinside.active.getElem?_place hrest
    · exact (next_iff_of_reaches hwords hcontents hv hreaches).mpr ⟨hover, rfl⟩
  only index hresult := by
    obtain ⟨s, hevents, hstate⟩ := hgives.only index hresult
    have htarget : p.target = target := by
      by_contra htarget
      rw [run, if_neg htarget] at hstate
      cases hstate
    obtain ⟨c, hreaches, hnext⟩ :=
      (Config.follows_run htarget hwords hcontents).exists_of_state hevents hstate
    exact ⟨htarget, c, hreaches, (next_iff_of_reaches hwords hcontents hv hreaches).mp hnext⟩

end

/-- **Overrunning bodies are always caught, at their place.** Whatever words the lengths in a program
are, whenever the interpreter comes to an instruction that owns more than its innermost block has
left, both renderers fail there, and say where it is in the program, before a condition, a
collection or content from outside is looked at. They say so in no other case, and the interpreter
is never outside of its blocks. The program and the compiled content for each slot have no more
instructions than a word can count. -/
theorem locates_overruns (hwords : FitsWords p.instructions) {contents : String → Option Template}
    (hs : scope.CompiledFrom contents)
    (hroom : ∀ name content, scope.slot? name = some content →
      ∀ target, (content.program target).instructions.length < UInt64.size) :
    p.LocatesOverruns scope := by
  have hwell (target : Target) (name : Option String) (content : SlotContent)
      (hslot : scope.slot? name = some content) :
      WellFormed [] false (content.program target).instructions := by
    obtain ⟨t, hcompiled⟩ := hs.of_slot hslot
    exact (hcompiled.allRestore target scope).1
  have hcontents (target : Target) (name : Option String) (content : SlotContent)
      (hslot : scope.slot? name = some content) :
      FitsWords (content.program target).instructions :=
    (hwell target name content hslot).fitsWords (hroom name content hslot target)
  refine ⟨?_, ?_, fun htarget c hreaches hover => ?_⟩
  · exact locates hwords (hcontents .server) Visitor.honest_markup (hwell .server)
      (Visitor.gives_streamed _ _)
  · exact locates hwords (hcontents .client) Visitor.honest_tree (hwell .client)
      (Visitor.gives_tree _)
  · obtain ⟨hevents, hstate⟩ := run_of_overruns hwords (hcontents .server) Visitor.honest_markup
      htarget hreaches hover
    exact Visitor.stream_eq hevents hstate

/-- A branch whose first body ends before the fallback of its slot, which would still fit in the
program. -/
def overrunningCode : List Instruction :=
  [.openElement "p", .branch (.identifier "flag") true 1 0, .projectSlot none 1, .yieldText,
    .closeElement "p"]

/-- The slot inside the branch is located, although its fallback would fit in the program. -/
theorem locates_overruns_nested :
    FitsWords overrunningCode ∧ listScope.CompiledFrom listContents ∧
      (∀ name content, listScope.slot? name = some content →
        ∀ target, (content.program target).instructions.length < UInt64.size) ∧
      Program.LocatesOverruns ⟨"nested", .server, overrunningCode, []⟩ listScope ∧
      renderToString ⟨"nested", .server, overrunningCode, []⟩ listScope =
        .error (.malformedProgram 2) := by
  have hwords : FitsWords overrunningCode :=
    ⟨by decide, by simp [overrunningCode, Instruction.FitsWord, UInt64.size]⟩
  have hroom : ∀ name content, listScope.slot? name = some content →
      ∀ target, (content.program target).instructions.length < UInt64.size := by
    intro name content hslot target
    rw [listScope, Scope.slot?, Scope.withSlot, OrderedMap.get?_insert] at hslot
    split at hslot
    · obtain rfl := Option.some.inj hslot
      cases target <;> decide
    · cases hslot
  exact ⟨hwords, compiledFrom_listScope, hroom,
    locates_overruns (p := ⟨"nested", .server, overrunningCode, []⟩) hwords compiledFrom_listScope
      hroom, by cbv⟩

end Program

end TwinRender
