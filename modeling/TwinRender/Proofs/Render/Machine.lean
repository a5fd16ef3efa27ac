import TwinRender.Proofs.Render.Blocks
import TwinRender.Proofs.Render.Tags

/-!
# A machine that runs steps

Steps are run by a machine with three parts that change on the way: the bindings of the loops that
are being run, the text that is pending, and the elements that are open. A loop pushes its bindings
before each run of its body and pops them behind it, and an element that ends is checked when it
does. The machine comes to what the run of the steps comes to; in particular it always has the
bindings again that it was begun with.

The machine makes it possible to say of each block of a program how it is begun and how it ends.

## Main definitions

* `Machine`, `Machine.step`, `Machine.run`: the machine.
* `Machine.Opens`, `Machine.Begins`: the blocks that are begun in a run.

## Main results

* `Machine.run_eq`: **the machine comes to what the run comes to**.
-/

namespace TwinRender

/-- The state of a machine. -/
structure Machine where
  /-- The bindings of the loops that are being run, innermost first. -/
  frames : List (List (String × Value))
  /-- The pending text. -/
  buffer : String
  /-- The tags of the elements that are open, innermost first. -/
  openTags : List String

/-- What a run makes of a machine: the elements that it leaves open, and the text that is pending
behind it. -/
def Run.onto (r : Run) (m : Machine) : Except RenderError Machine := do
  let tags ← r.events.foldlM Event.openTags m.openTags
  let buffer ← r.state
  return { m with buffer := buffer, openTags := tags }

namespace Machine

/-- The machine before a program is run. -/
def start : Machine := ⟨[], "", []⟩

/-- The values of names in a machine, given the environment outside of all loops. -/
def environment (env : Environment) (m : Machine) : Environment :=
  { env with bindings := m.frames.flatten ++ env.bindings }

/-- The bindings of a loop for one item. -/
def frame (item : String) (index : Option String) (value : Value) (position : Nat) :
    List (String × Value) :=
  (item, value) :: match index with
    | none => []
    | some name => [(name, Value.ofNat position)]

/-- The machine in the body of a loop. -/
def push (m : Machine) (bindings : List (String × Value)) : Machine :=
  { m with frames := bindings :: m.frames }

/-- The machine behind the body of a loop. -/
def pop (m : Machine) : Machine := { m with frames := m.frames.tail }

/-- The machine behind an event. -/
def after (m : Machine) (e : Event) : Except RenderError Machine :=
  (e.openTags m.openTags).map fun tags => { m with openTags := tags }

/-- The machine behind content from outside, which has a pending text and loops of its own. -/
def project (m : Machine) (projected : Run) : Except RenderError Machine :=
  (projected.onto m).map fun behind => { behind with buffer := m.buffer }

mutual

/-- The machine behind a step. -/
def step (env : Environment) (m : Machine) : Step → Except RenderError Machine
  | .openElement tag => m.after (.openElement tag)
  | .closeElement tag => m.after (.closeElement tag)
  | .attribute _ _ => .ok m
  | .buffer source => .ok { m with buffer := m.buffer ++ source.content (m.environment env) }
  | .flush => .ok { m with buffer := "" }
  | .slot name fallback =>
    match env.project name with
    | some projected => m.project projected
    | none => run env m fallback
  | .branch condition negated consequent alternate =>
    if ((m.environment env).eval condition).truthy != negated then run env m consequent
    else run env m alternate
  | .each collection item index body => do
    let items ← itemsOf collection ((m.environment env).eval collection)
    items.zipIdx.foldlM (fun m entry => do
      let behind ← run env (m.push (frame item index entry.1 entry.2)) body
      return behind.pop) m
  | .malformed index => .error (.malformedProgram index)

/-- The machine behind some steps. -/
def run (env : Environment) (m : Machine) : List Step → Except RenderError Machine
  | [] => .ok m
  | s :: rest => do
    let behind ← step env m s
    run env behind rest

end

/-- The machine behind one iteration of a loop. -/
def iteration (env : Environment) (item : String) (index : Option String) (body : List Step)
    (m : Machine) (entry : Value × Nat) : Except RenderError Machine := do
  let behind ← run env (m.push (frame item index entry.1 entry.2)) body
  return behind.pop

/-! ### The machine and the run -/

/-- In the body of a loop, the names have the values that the loop binds. -/
theorem environment_push (env : Environment) (m : Machine) (item : String) (index : Option String)
    (value : Value) (position : Nat) :
    (m.push (frame item index value position)).environment env =
      (m.environment env).bind item index value position := by
  cases index <;> rfl

/-- A run leaves the bindings alone. -/
theorem frames_onto {r : Run} {m m' : Machine} (h : r.onto m = .ok m') : m'.frames = m.frames := by
  rw [Run.onto] at h
  cases htags : r.events.foldlM Event.openTags m.openTags with
  | error e => rw [htags] at h; cases h
  | ok tags =>
      cases hstate : r.state with
      | error e => rw [htags, hstate] at h; cases h
      | ok buffer => rw [htags, hstate] at h; cases h; rfl

/-- A run behind another one. -/
theorem onto_andThen (r : Run) (next : String → Run) (m : Machine) :
    (r.andThen next).onto m = r.onto m >>= fun behind => (next behind.buffer).onto behind := by
  obtain ⟨events, e | pending⟩ := r
  · change Run.onto ⟨events, .error e⟩ m = _
    rw [Run.onto]
    cases events.foldlM Event.openTags m.openTags <;> rfl
  · rw [Run.andThen_ok, Run.onto, Run.onto, List.foldlM_append]
    cases events.foldlM Event.openTags m.openTags <;> rfl

/-- What a run makes of a machine does not depend on the bindings. -/
theorem onto_push (r : Run) (m : Machine) (bindings : List (String × Value)) :
    (r.onto (m.push bindings)).map pop = r.onto m := by
  rw [Run.onto, Run.onto]
  change (r.events.foldlM Event.openTags m.openTags >>= _).map pop = _
  cases r.events.foldlM Event.openTags m.openTags with
  | error e => rfl
  | ok tags => cases r.state <;> rfl

/-- Iterations come to what their runs come to. -/
theorem foldlM_iteration {env : Environment} {body : List Step} (item : String)
    (index : Option String)
    (hbody : ∀ m : Machine, m.run env body =
      (runSteps (m.environment env) m.buffer body).onto m)
    (entries : List (Value × Nat)) (m : Machine) :
    entries.foldlM (iteration env item index body) m =
      (Run.forEach (fun entry pending =>
        runSteps ((m.environment env).bind item index entry.1 entry.2) pending body)
          entries m.buffer).onto m := by
  induction entries generalizing m with
  | nil => rfl
  | cons entry rest ih =>
      have hfirst : iteration env item index body m entry =
          (runSteps ((m.environment env).bind item index entry.1 entry.2) m.buffer
            body).onto m := by
        rw [← environment_push, ← onto_push _ m (frame item index entry.1 entry.2), iteration,
          hbody]
        rfl
      rw [List.foldlM_cons, Run.forEach, onto_andThen, hfirst]
      cases hbehind : (runSteps _ m.buffer body).onto m with
      | error e => rfl
      | ok behind =>
          have hframes : behind.environment env = m.environment env := by
            rw [environment, environment, frames_onto hbehind]
          have hrest := ih behind
          rw [hframes] at hrest
          exact hrest

mutual

/-- The machine takes a step as the run does. -/
theorem step_eq (env : Environment) (m : Machine) (s : Step) :
    m.step env s = (runStep (m.environment env) m.buffer s).onto m := by
  match s with
  | .openElement tag => rfl
  | .closeElement tag =>
      rw [step, runStep, after, Run.onto, List.foldlM_cons]
      cases Event.openTags m.openTags (.closeElement tag) <;> rfl
  | .attribute name source =>
      rw [step, runStep]
      cases source.value (m.environment env) name <;> rfl
  | .buffer source => rw [step, runStep]; rfl
  | .flush => rw [step, runStep]; rfl
  | .slot name fallback =>
      rw [step, runStep]
      change (match env.project name with
        | some projected => m.project projected
        | none => run env m fallback) = Run.onto (match env.project name with
          | some projected => _
          | none => _) m
      cases env.project name with
      | none => exact run_eq env m fallback
      | some projected =>
          simp only [project, Run.onto]
          cases projected.events.foldlM Event.openTags m.openTags with
          | error e => rfl
          | ok tags => cases projected.state <;> rfl
  | .branch condition negated consequent alternate =>
      rw [step, runStep]
      split
      · exact run_eq env m consequent
      · exact run_eq env m alternate
  | .each collection item index body =>
      rw [step, runStep]
      cases itemsOf collection ((m.environment env).eval collection) with
      | error e => rfl
      | ok items => exact foldlM_iteration item index (fun m => run_eq env m body) items.zipIdx m
  | .malformed index => rw [step, runStep]; rfl

/-- **The machine comes to what the run comes to**, and has the same bindings again. -/
theorem run_eq (env : Environment) (m : Machine) (steps : List Step) :
    m.run env steps = (runSteps (m.environment env) m.buffer steps).onto m := by
  cases steps with
  | nil => rw [run, runSteps]; rfl
  | cons s rest =>
      rw [run, runSteps, onto_andThen, step_eq env m s]
      cases hbehind : (runStep (m.environment env) m.buffer s).onto m with
      | error e => rfl
      | ok behind =>
          have hframes : behind.environment env = m.environment env := by
            rw [environment, environment, frames_onto hbehind]
          have hrest := run_eq env behind rest
          rw [hframes] at hrest
          exact hrest

end

/-! ### Blocks -/

/-- A step begins to run a block that it owns: a fallback, one of two branches, or the body of a
loop behind some iterations. -/
inductive Opens (env : Environment) (m : Machine) : Step → Machine → List Step → Prop
  /-- No content is given for a slot. -/
  | fallback {name : Option String} {block : List Step} (h : env.project name = none) :
    Opens env m (.slot name block) m block
  /-- The condition of a branch holds. -/
  | consequent {condition : Expression} {negated : Bool} {block alternate : List Step}
    (h : (((m.environment env).eval condition).truthy != negated) = true) :
    Opens env m (.branch condition negated block alternate) m block
  /-- The condition of a branch fails. -/
  | alternate {condition : Expression} {negated : Bool} {consequent block : List Step}
    (h : (((m.environment env).eval condition).truthy != negated) = false) :
    Opens env m (.branch condition negated consequent block) m block
  /-- A loop comes to one of its items. -/
  | body {collection : Expression} {item : String} {index : Option String} {block : List Step}
    {items : List Value} {before behind : List (Value × Nat)} {entry : Value × Nat} {m' : Machine}
    (hitems : itemsOf collection ((m.environment env).eval collection) = .ok items)
    (hentry : items.zipIdx = before ++ entry :: behind)
    (hbefore : before.foldlM (iteration env item index block) m = .ok m') :
    Opens env m (.each collection item index block)
      (m'.push (frame item index entry.1 entry.2)) block

/-- While one block is run on one machine, another block is begun on another machine: the block
itself is, and so is whatever its steps begin when the steps before them have been run. -/
inductive Begins (env : Environment) : Machine → List Step → Machine → List Step → Prop
  /-- The block itself. -/
  | self (m : Machine) (block : List Step) : Begins env m block m block
  /-- A block that is begun inside. -/
  | inside {m m₁ m₂ m' : Machine} {before behind inner block : List Step} {s : Step}
    (hrun : m.run env before = .ok m₁) (hopens : Opens env m₁ s m₂ inner)
    (h : Begins env m₂ inner m' block) : Begins env m (before ++ s :: behind) m' block

end Machine

end TwinRender
