import TwinRender.Lowering
import TwinRender.Proofs.Render.Blocks
import TwinRender.Proofs.Render.Events

/-!
# What lowered code computes

A run shows nodes when it gives out their events, however it cuts the texts, or fails as their
evaluation fails, behind the beginning of such events. A block of code computes a meaning when
every run of it, in an environment that represents the values of names and the content from
outside, shows that meaning. The text that is pending when a block begins belongs to the run of
text that the block continues.

## Main definitions

* `Run.Shows`: a run comes to nodes, or to a failure.
* `Environment.Represents`: an environment holds what an evaluation is given.
* `Computes`: a block of code has a meaning.

## Main results

* `Run.Shows.tree_eq`: the tree of a run that shows nodes.
* `Computes.append`, `Computes.flushed`, `Computes.buffered`, `Computes.element`,
  `Computes.slot`, `Computes.branch`, `Computes.iterate`: the meaning of code that is put together
  from blocks.
-/

namespace TwinRender

open Step (ofInstructions)
open Template (Projection bindLoop)

/-! ### Runs that show nodes -/

/-- A run comes to nodes: it gives out events of nodes that are the same when merged, and leaves
no text pending. A run comes to a failure behind the beginning of the events of some nodes. -/
def Run.Shows (r : Run) : Except RenderError (List VNode) → Prop
  | .ok nodes =>
    r.state = .ok "" ∧ ∃ forest,
      r.events = VNode.listEvents forest ∧ VNode.mergedList forest = VNode.mergedList nodes
  | .error e => r.state = .error e ∧ ∃ forest, r.events <+: VNode.listEvents forest

namespace Run.Shows

/-- Nothing shows no nodes. -/
theorem idle : (Run.idle "").Shows (.ok []) := ⟨rfl, [], rfl, rfl⟩

/-- A failure before any event. -/
theorem failed (e : RenderError) : (Run.failed e).Shows (.error e) :=
  ⟨rfl, [], List.prefix_refl _⟩

/-- What is shown matters up to merging. -/
theorem congr {r : Run} {nodes nodes' : List VNode} (h : r.Shows (.ok nodes))
    (heq : VNode.mergedList nodes = VNode.mergedList nodes') : r.Shows (.ok nodes') := by
  obtain ⟨hstate, forest, hevents, hforest⟩ := h
  exact ⟨hstate, forest, hevents, hforest.trans heq⟩

/-- Runs one behind the other show nodes one behind the other. -/
theorem andThen {r : Run} {next : String → Run} {a b : Except RenderError (List VNode)}
    (ha : r.Shows a) (hb : (next "").Shows b) :
    (r.andThen next).Shows (do
      let first ← a
      let rest ← b
      return first ++ rest) := by
  obtain ⟨events, state⟩ := r
  cases a with
  | error e =>
      obtain ⟨rfl, forest, hevents⟩ := ha
      exact ⟨rfl, forest, hevents⟩
  | ok nodes =>
      obtain ⟨rfl, forest, hevents, hforest⟩ := ha
      obtain rfl : events = VNode.listEvents forest := hevents
      rw [andThen_ok]
      cases b with
      | error e =>
          obtain ⟨hstate, forest', rest, hrest⟩ := hb
          refine ⟨hstate, forest ++ forest', rest, ?_⟩
          rw [VNode.listEvents_append, ← hrest, List.append_assoc]
      | ok nodes' =>
          obtain ⟨hstate, forest', hevents', hforest'⟩ := hb
          refine ⟨hstate, forest ++ forest', ?_, ?_⟩
          · rw [hevents', VNode.listEvents_append]
          · exact VNode.mergedList_append_congr hforest hforest'

/-- Runs for one item after another show the parts of the items one behind the other. -/
theorem forEach {α : Type} {body : α → String → Run}
    {part : α → Except RenderError (List VNode)} (h : ∀ a, (body a "").Shows (part a))
    (items : List α) :
    (Run.forEach body items "").Shows (do
      let parts ← items.mapM part
      return parts.flatten) := by
  induction items with
  | nil => exact idle
  | cons a rest ih =>
      have hboth := (h a).andThen ih
      rw [Run.forEach, List.mapM_cons]
      cases hpart : part a with
      | error e => rwa [hpart] at hboth
      | ok first =>
          rw [hpart] at hboth
          cases hrest : rest.mapM part with
          | error e => rwa [hrest] at hboth
          | ok parts => rwa [hrest] at hboth

/-- **The tree of a run** is the merged list of what the run shows. -/
theorem tree_eq {r : Run} {a : Except RenderError (List VNode)} (h : r.Shows a) :
    r.tree = a.map VNode.mergedList := by
  cases a with
  | error e =>
      obtain ⟨hstate, forest, hevents⟩ := h
      obtain ⟨b, hb⟩ := TreeBuilder.foldlM_prefix hevents
        (TreeBuilder.foldlM_listEvents forest .empty)
      rw [Run.tree, hb, hstate]
      rfl
  | ok nodes =>
      obtain ⟨hstate, forest, hevents, hforest⟩ := h
      rw [Run.tree, hevents, TreeBuilder.foldlM_listEvents, hstate]
      change ((forest.map VNode.merged).foldl TreeBuilder.push .empty).finish = _
      rw [TreeBuilder.finish_foldl_push, hforest]
      rfl

end Run.Shows

/-! ### Environments -/

/-- An environment represents values of names and content from outside. -/
structure Environment.Represents (env : Environment) (contents : Projection)
    (names : String → Value) : Prop where
  /-- The names have these values. -/
  lookup_eq : env.lookup = names
  /-- Running the content for a slot shows what the content comes to. -/
  project : ∀ name, Option.Rel Run.Shows (env.project name) (contents (name.getD ""))

namespace Environment.Represents

variable {env : Environment} {contents : Projection} {names : String → Value}

/-- Expressions have the same values. -/
theorem eval_eq (h : env.Represents contents names) (e : Expression) :
    env.eval e = e.eval names := by
  rw [Environment.eval, h.lookup_eq]

/-- The body of a loop sees its item and its position before anything else. -/
theorem bind (h : env.Represents contents names) (item : String) (index : Option String)
    (value : Value) (position : Nat) :
    (env.bind item index value position).Represents contents
      (bindLoop names item index value position) := by
  refine ⟨?_, h.project⟩
  funext name
  have hlookup := congrFun h.lookup_eq name
  simp only [Environment.lookup] at hlookup
  by_cases hitem : name = item
  · subst hitem
    simp [Environment.lookup, Environment.bind, bindLoop]
  · have hbeq : (name == item) = false := by simpa using hitem
    cases index with
    | none => simp [Environment.lookup, Environment.bind, bindLoop, hitem, hbeq, List.lookup_cons,
        ← hlookup]
    | some other =>
        by_cases hother : name = other
        · subst hother
          simp [Environment.lookup, Environment.bind, bindLoop, hitem, hbeq, List.lookup_cons]
        · have hbeq' : (name == other) = false := by simpa using hother
          simp [Environment.lookup, Environment.bind, bindLoop, hitem, hbeq, hbeq', Ne.symm hother,
            List.lookup_cons, ← hlookup]

end Environment.Represents

/-! ### The meaning of code -/

/-- What code stands for: nodes or a failure, given the values of names and the content from
outside. -/
abbrev Meaning := Projection → (String → Value) → Except RenderError (List VNode)

/-- The text that is pending, as nodes. -/
def pendingText (pending : String) : List VNode := if pending = "" then [] else [.text pending]

/-- A pending text joins a text behind it. -/
theorem mergedList_pendingText (pending s : String) (ns : List VNode) :
    VNode.mergedList (pendingText pending ++ .text s :: ns) =
      VNode.mergedList (.text (pending ++ s) :: ns) := by
  by_cases h : pending = ""
  · rw [pendingText, if_pos h, h, List.nil_append, String.empty_append]
  · rw [pendingText, if_neg h, List.singleton_append, VNode.mergedList_text_text]

/-- **A block of code computes a meaning**: every run of it shows the meaning, behind the text
that is pending. Only code that continues a run of text may find a text pending. -/
structure Computes (code : List Instruction) (inRun : Bool) (meaning : Meaning) : Prop where
  /-- The code owns nothing behind it. -/
  isBlock : IsBlock code
  /-- Every run shows the meaning. -/
  shows : ∀ {env : Environment} {contents : Projection} {names : String → Value},
    env.Represents contents names → ∀ (index : Nat) (pending : String),
      pending = "" ∨ inRun = true →
        (runSteps env pending (ofInstructions index code)).Shows
          ((meaning contents names).map (pendingText pending ++ ·))

namespace Computes

variable {a b code body alternate : List Instruction} {inRun inRun' : Bool}
  {m m' : Meaning}

/-- A run that starts without pending text shows the meaning itself. -/
theorem shows_empty (h : Computes code inRun m) {env : Environment} {contents : Projection}
    {names : String → Value} (henv : env.Represents contents names) (index : Nat) :
    (runSteps env "" (ofInstructions index code)).Shows (m contents names) := by
  have hshows := h.shows henv index "" (Or.inl rfl)
  have hmap : (m contents names).map (pendingText "" ++ ·) = m contents names := by
    cases m contents names <;> rfl
  rwa [hmap] at hshows

/-- To compute outside of a run of text, code need only be run without pending text. -/
theorem of_empty (hblock : IsBlock code)
    (h : ∀ {env : Environment} {contents : Projection} {names : String → Value},
      env.Represents contents names → ∀ index : Nat,
        (runSteps env "" (ofInstructions index code)).Shows (m contents names)) :
    Computes code false m := by
  refine ⟨hblock, fun henv index pending hpending => ?_⟩
  obtain rfl : pending = "" := hpending.resolve_right Bool.false_ne_true
  have hshows := h henv index
  rename_i contents names
  have hmap : (m contents names).map (pendingText "" ++ ·) = m contents names := by
    cases m contents names <;> rfl
  rwa [hmap]

/-- Code that may continue a run of text also computes outside of one. -/
theorem outside (h : Computes code inRun m) : Computes code false m :=
  of_empty h.isBlock h.shows_empty

/-- No code computes no nodes. -/
theorem nil : Computes [] false fun _ _ => .ok [] :=
  of_empty IsBlock.nil fun _ _ => by
    rw [ofInstructions, runSteps]
    exact Run.Shows.idle

/-- A block outside of a run of text, and a block behind it. -/
theorem append (ha : Computes a false m) (hb : Computes b inRun m') :
    Computes (a ++ b) false fun contents names => do
      let first ← m contents names
      let rest ← m' contents names
      return first ++ rest :=
  of_empty (ha.isBlock.append hb.isBlock) fun henv index => by
    rw [ha.isBlock.runSteps_append]
    exact (ha.shows_empty henv index).andThen (hb.shows_empty henv _)

/-! ### Texts -/

/-- A text that is put into the buffer is pending. -/
theorem runSteps_buffer (env : Environment) (pending : String) (index : Nat) (source : Source)
    (rest : List Instruction) :
    runSteps env pending (ofInstructions index (.bufferText source :: rest)) =
      runSteps env (pending ++ source.content env) (ofInstructions (index + 1) rest) := by
  rw [ofInstructions, runSteps, runStep, Run.idle_andThen]

/-- A text at the end of its run, and a block behind it. -/
theorem flushed {source : Source} {s : (String → Value) → String}
    (hs : ∀ {env : Environment} {contents : Projection} {names : String → Value},
      env.Represents contents names → source.content env = s names)
    (hb : Computes b inRun m) :
    Computes ([.bufferText source, .yieldText] ++ b) true fun contents names => do
      let rest ← m contents names
      return .text (s names) :: rest := by
  refine ⟨((IsBlock.bufferText source).append IsBlock.yieldText).append hb.isBlock,
    fun {env contents names} henv index pending _ => ?_⟩
  have hrun : runSteps env pending (ofInstructions index ([.bufferText source, .yieldText] ++ b)) =
      (Run.andThen ⟨[.text (pending ++ s names)], .ok ""⟩ fun pending =>
        runSteps env pending (ofInstructions (index + 1 + 1) b)) := by
    rw [List.cons_append, runSteps_buffer, List.singleton_append, ofInstructions, runSteps, runStep,
      hs henv]
  have hfirst : Run.Shows ⟨[.text (pending ++ s names)], .ok ""⟩
      (.ok [.text (pending ++ s names)]) :=
    ⟨rfl, [.text (pending ++ s names)], rfl, rfl⟩
  have hboth := @Run.Shows.andThen _
    (fun pending => runSteps env pending (ofInstructions (index + 1 + 1) b)) _ _ hfirst
    (hb.shows_empty henv (index + 1 + 1))
  rw [hrun]
  cases hm : m contents names with
  | error e => rwa [hm] at hboth
  | ok nodes =>
      rw [hm] at hboth
      exact hboth.congr (mergedList_pendingText pending (s names) nodes).symm

/-- A text within its run, and a block behind it that continues the run. -/
theorem buffered {source : Source} {s : (String → Value) → String}
    (hs : ∀ {env : Environment} {contents : Projection} {names : String → Value},
      env.Represents contents names → source.content env = s names)
    (hb : Computes b true m)
    (htext : ∀ contents names nodes, m contents names = .ok nodes →
      ∃ t rest, nodes = .text t :: rest) :
    Computes ([.bufferText source] ++ b) true fun contents names => do
      let rest ← m contents names
      return .text (s names) :: rest := by
  refine ⟨(IsBlock.bufferText source).append hb.isBlock,
    fun {env contents names} henv index pending _ => ?_⟩
  have hshows := hb.shows henv (index + 1) (pending ++ s names) (Or.inr rfl)
  rw [List.singleton_append, runSteps_buffer, hs henv]
  cases hm : m contents names with
  | error e => rwa [hm] at hshows
  | ok nodes =>
      obtain ⟨t, rest, rfl⟩ := htext _ _ _ hm
      rw [hm] at hshows
      refine hshows.congr ?_
      rw [mergedList_pendingText, mergedList_pendingText, ← VNode.mergedList_text_text]

/-! ### Elements -/

/-- Code that gives an element its attributes. -/
structure Attributes (code : List Instruction)
    (attributes : (String → Value) → List (String × String)) : Prop where
  /-- The code owns nothing behind it. -/
  isBlock : IsBlock code
  /-- A run gives out the attributes and nothing else. -/
  run : ∀ {env : Environment} {contents : Projection} {names : String → Value},
    env.Represents contents names → ∀ (index : Nat) (pending : String),
      runSteps env pending (ofInstructions index code) =
        ⟨(attributes names).map fun a => .attribute a.1 a.2, .ok pending⟩

/-- An element with its attributes and its content. -/
theorem element {tag : String} {attributes : (String → Value) → OrderedMap String}
    (ha : Attributes a fun names => (attributes names).toList) (hb : Computes body inRun m) :
    Computes ([.openElement tag] ++ (a ++ (body ++ [.closeElement tag]))) false
      fun contents names => do
        let content ← m contents names
        return [.element tag (attributes names) content] := by
  have hblock := (IsBlock.openElement tag).append
    (ha.isBlock.append (hb.isBlock.append (IsBlock.closeElement tag)))
  refine of_empty hblock fun {env contents names} henv index => ?_
  have hbody := hb.shows_empty henv (index + 1 + a.length)
  rw [List.singleton_append, ofInstructions, runSteps, runStep, Run.andThen_ok,
    ha.isBlock.runSteps_append, ha.run henv, Run.andThen_ok, hb.isBlock.runSteps_append]
  rcases hr : runSteps env "" (ofInstructions (index + 1 + a.length) body) with ⟨events, state⟩
  rw [hr] at hbody
  cases hm : m contents names with
  | error e =>
      rw [hm] at hbody
      obtain ⟨rfl, forest, hevents⟩ := hbody
      refine ⟨rfl, [.element tag (attributes names) forest], ?_⟩
      rw [VNode.listEvents_singleton, VNode.events, List.singleton_append, List.cons_prefix_cons]
      refine ⟨rfl, (List.prefix_append_right_inj _).mpr ?_⟩
      exact hevents.trans (List.prefix_append _ _)
  | ok nodes =>
      rw [hm] at hbody
      obtain ⟨rfl, forest, hevents, hforest⟩ := hbody
      obtain rfl : events = VNode.listEvents forest := hevents
      rw [Run.andThen_ok, ofInstructions, runSteps, runStep, Run.andThen_ok, ofInstructions,
        runSteps]
      refine ⟨rfl, [.element tag (attributes names) forest], ?_, ?_⟩
      · rw [VNode.listEvents_singleton, VNode.events]
        rfl
      · simp only [VNode.mergedList, VNode.merged, hforest]

/-! ### Control -/

/-- A slot with its fallback. -/
theorem slot (name : Option String) (hb : Computes body inRun m) :
    Computes (.projectSlot name body.length :: body) false fun contents names =>
      match contents (name.getD "") with
      | some projected => projected
      | none => m contents names := by
  refine of_empty (IsBlock.slot name body) fun {env contents names} henv index => ?_
  have hstep := ofInstructions_slot index name body []
  rw [List.append_nil] at hstep
  rw [hstep, ofInstructions, runSteps, runStep]
  have hproject := henv.project name
  cases hp : env.project name with
  | none =>
      cases hc : contents (name.getD "") with
      | some a => rw [hp, hc] at hproject; cases hproject
      | none => simpa [runSteps] using hb.shows_empty henv (index + 1)
  | some r =>
      cases hc : contents (name.getD "") with
      | none => rw [hp, hc] at hproject; cases hproject
      | some projected =>
          rw [hp, hc] at hproject
          obtain ⟨events, state⟩ := r
          cases hproject with
          | some hshows =>
              cases projected with
              | error e =>
                  obtain ⟨rfl, hforest⟩ := hshows
                  exact ⟨rfl, hforest⟩
              | ok nodes =>
                  obtain ⟨rfl, forest, hevents, hforest⟩ := hshows
                  refine ⟨rfl, forest, ?_, hforest⟩
                  simpa [runSteps, Run.andThen, Except.map, Run.idle] using hevents

/-- A branch with its bodies. -/
theorem branch (condition : Expression) (negated : Bool) (hb : Computes body inRun m)
    (ha : Computes alternate inRun' m') :
    Computes (.branch condition negated body.length alternate.length :: (body ++ alternate)) false
      fun contents names =>
        if (condition.eval names).truthy != negated then m contents names
        else m' contents names := by
  refine of_empty (IsBlock.branch condition negated body alternate)
    fun {env contents names} henv index => ?_
  have hstep := ofInstructions_branch index condition negated body alternate []
  rw [List.append_nil] at hstep
  rw [hstep, ofInstructions, runSteps, runStep, henv.eval_eq]
  by_cases hc : ((condition.eval names).truthy != negated) = true
  · rw [if_pos hc, if_pos hc]
    simpa [runSteps] using hb.shows_empty henv (index + 1)
  · rw [if_neg hc, if_neg hc]
    simpa [runSteps] using ha.shows_empty henv (index + 1 + body.length)

/-- A loop with its body. -/
theorem iterate (collection : Expression) (item : String) (position : Option String)
    (hb : Computes body inRun m) :
    Computes (.iterate collection item position body.length :: body) false fun contents names =>
      match collection.eval names with
      | .array items => do
        let parts ← items.zipIdx.mapM fun entry =>
          m contents (bindLoop names item position entry.1 entry.2)
        return parts.flatten
      | .null => .ok []
      | v => .error (.notIterable collection.text v.kindName) := by
  refine of_empty (IsBlock.iterate collection item position body)
    fun {env contents names} henv index => ?_
  have hstep := ofInstructions_iterate index collection item position body []
  rw [List.append_nil] at hstep
  rw [hstep, ofInstructions, runSteps, runStep, henv.eval_eq]
  cases collection.eval names with
  | array items =>
      have hitem (entry : Value × Nat) :
          Run.Shows (runSteps (env.bind item position entry.1 entry.2) ""
              (ofInstructions (index + 1) body))
            (m contents (bindLoop names item position entry.1 entry.2)) :=
        hb.shows_empty (henv.bind item position entry.1 entry.2) (index + 1)
      have hloop := @Run.Shows.forEach _
        (fun entry pending => runSteps (env.bind item position entry.1 entry.2) pending
          (ofInstructions (index + 1) body)) _ hitem items.zipIdx
      simpa [runSteps, itemsOf] using hloop
  | null => simpa [runSteps, itemsOf, Run.forEach] using Run.Shows.idle
  | bool _ => exact Run.Shows.failed _
  | number _ => exact Run.Shows.failed _
  | string _ => exact Run.Shows.failed _
  | object _ => exact Run.Shows.failed _

end Computes

end TwinRender
