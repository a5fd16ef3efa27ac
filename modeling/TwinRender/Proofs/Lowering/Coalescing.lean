import TwinRender.Proofs.Lowering.Targets
import TwinRender.Proofs.Render.Splitting

/-!
# Texts given out together

A compiler that gives neighbouring texts out together lowers a template to other code than one that
gives each of them out on its own. The two codes are put together in the same way, and a run of the
first comes to what a run of the second does, with the texts of the second in parts. A text that is
pending in the first has been given out by the second, part by part.

## Main definitions

* `Run.Coalesced`: a run and one with its texts in parts, both without pending text at the end.
* `Coalesces`: two codes whose runs are like this.

## Main results

* `Coalesces.append`, `Coalesces.flushed`, `Coalesces.buffered`, `Coalesces.slot`,
  `Coalesces.branch`, `Coalesces.iterate`: codes that are put together from such codes.
* `lowerNodes_coalesces`: nodes are lowered to such codes.
* `compile_coalesceText`: **giving texts out together changes no markup and no tree, and adds no
  boundary.**
-/

namespace TwinRender

open Step (ofInstructions)
open Template (Node)

/-! ### Runs -/

/-- The second run comes to the same as the first one, with texts given out in parts, and no text is
pending behind them. -/
structure Run.Coalesced (r r' : Run) : Prop extends Run.Splits r r' where
  /-- No text is pending. -/
  settled : ∀ pending, r.state = .ok pending → pending = ""

/-- A run behind parts of a text that have been given out. -/
def Run.behind (parts : List String) (r : Run) : Run := ⟨parts.map Event.text ++ r.events, r.state⟩

namespace Run.Coalesced

variable {r r' : Run}

/-- Nothing happens on either side. -/
theorem idle : (Run.idle "").Coalesced (Run.idle "") :=
  ⟨⟨.nil, rfl⟩, fun _ h => (Except.ok.inj h).symm⟩

/-- Both runs fail. -/
theorem failed (e : RenderError) : (Run.failed e).Coalesced (Run.failed e) :=
  ⟨⟨.nil, rfl⟩, fun _ h => by cases h⟩

/-- Runs one behind the other. -/
theorem andThen {next other : String → Run} (h : r.Coalesced r')
    (hnext : (next "").Coalesced (other "")) : (r.andThen next).Coalesced (r'.andThen other) := by
  obtain ⟨events, state⟩ := r
  obtain ⟨events', state'⟩ := r'
  obtain ⟨⟨hevents, rfl⟩, hsettled⟩ := h
  cases state with
  | error e => exact ⟨⟨hevents, rfl⟩, hsettled⟩
  | ok pending =>
      obtain rfl := hsettled pending rfl
      exact ⟨⟨hevents.append hnext.events, hnext.state⟩, hnext.settled⟩

/-- Runs for one item after another. -/
theorem forEach {α : Type} {body other : α → String → Run}
    (h : ∀ a, (body a "").Coalesced (other a "")) (items : List α) :
    (Run.forEach body items "").Coalesced (Run.forEach other items "") := by
  induction items with
  | nil => exact idle
  | cons a rest ih => exact (h a).andThen ih

end Run.Coalesced

/-! ### Code -/

/-- **Two codes do the same, and the second one gives texts out in parts.** Only code that continues
a run of text may find parts of it given out, which are then pending for the first code. -/
structure Coalesces (coarse fine : List Instruction) (inRun : Bool) : Prop where
  /-- The first code owns nothing behind it. -/
  coarseBlock : IsBlock coarse
  /-- The second code owns nothing behind it. -/
  fineBlock : IsBlock fine
  /-- All runs come to the same. -/
  runs : ∀ (env : Environment) (i j : Nat) (parts : List String), parts = [] ∨ inRun = true →
    (runSteps env (String.join parts) (ofInstructions i coarse)).Coalesced
      ((runSteps env "" (ofInstructions j fine)).behind parts)

namespace Coalesces

variable {a a' b b' body body' alternate alternate' : List Instruction} {inRun inRun' : Bool}

/-- Runs where no text has begun. -/
theorem runs_empty (h : Coalesces a a' inRun) (env : Environment) (i j : Nat) :
    (runSteps env "" (ofInstructions i a)).Coalesced (runSteps env "" (ofInstructions j a')) :=
  h.runs env i j [] (Or.inl rfl)

/-- Outside of a run of text, codes need only be run where no text has begun. -/
theorem of_empty (ha : IsBlock a) (ha' : IsBlock a')
    (h : ∀ (env : Environment) (i j : Nat),
      (runSteps env "" (ofInstructions i a)).Coalesced (runSteps env "" (ofInstructions j a'))) :
    Coalesces a a' false := by
  refine ⟨ha, ha', fun env i j parts hparts => ?_⟩
  obtain rfl : parts = [] := hparts.resolve_right Bool.false_ne_true
  exact h env i j

/-- Codes that may continue a run of text are also alike outside of one. -/
theorem outside (h : Coalesces a a' inRun) : Coalesces a a' false :=
  of_empty h.coarseBlock h.fineBlock h.runs_empty

/-- No code. -/
theorem nil : Coalesces [] [] false :=
  of_empty IsBlock.nil IsBlock.nil fun _ _ _ => by
    rw [ofInstructions, ofInstructions, runSteps]
    exact .idle

/-- Codes outside of a run of text, and codes behind them. -/
theorem append (ha : Coalesces a a' inRun) (hb : Coalesces b b' inRun') :
    Coalesces (a ++ b) (a' ++ b') false :=
  of_empty (ha.coarseBlock.append hb.coarseBlock) (ha.fineBlock.append hb.fineBlock)
    fun env i j => by
      rw [ha.coarseBlock.runSteps_append, ha.fineBlock.runSteps_append]
      exact (ha.runs_empty env i j).andThen (hb.runs_empty env _ _)

/-- An instruction that leaves the pending text alone. -/
theorem leaf {i : Instruction} (hblock : IsBlock [i]) (s : Step)
    (hstep : ∀ index, ofInstructions index [i] = [s])
    (hpending : ∀ env pending, (runStep env "" s).state = .ok pending → pending = "") :
    Coalesces [i] [i] false :=
  of_empty hblock hblock fun env j k => by
    rw [hstep, hstep, runSteps]
    exact Run.Coalesced.andThen ⟨⟨.refl _, rfl⟩, hpending env⟩ .idle

/-! ### Texts -/

/-- A text at the end of its run, and codes behind it. -/
theorem flushed (source : Source) (hb : Coalesces b b' inRun) :
    Coalesces ([.bufferText source, .yieldText] ++ b) ([.bufferText source, .yieldText] ++ b')
      true := by
  have htext := (IsBlock.bufferText source).append IsBlock.yieldText
  refine ⟨htext.append hb.coarseBlock, htext.append hb.fineBlock, fun env i j parts _ => ?_⟩
  have hrun (pending : String) (index : Nat) (rest : List Instruction) :
      runSteps env pending (ofInstructions index ([.bufferText source, .yieldText] ++ rest)) =
        Run.andThen ⟨[.text (pending ++ source.content env)], .ok ""⟩ fun pending =>
          runSteps env pending (ofInstructions (index + 1 + 1) rest) := by
    rw [List.cons_append, Computes.runSteps_buffer, List.singleton_append, ofInstructions,
      runSteps, runStep]
  have hrest := hb.runs_empty env (i + 1 + 1) (j + 1 + 1)
  rw [hrun, hrun, Run.andThen_ok, Run.andThen_ok, String.empty_append]
  exact ⟨⟨.texts parts (.cons _ hrest.events), hrest.state⟩, hrest.settled⟩

/-- A text within its run, which the second code gives out, and codes that continue the run. -/
theorem buffered (source : Source) (hb : Coalesces b b' true) :
    Coalesces ([.bufferText source] ++ b) ([.bufferText source, .yieldText] ++ b') true := by
  refine ⟨(IsBlock.bufferText source).append hb.coarseBlock,
    ((IsBlock.bufferText source).append IsBlock.yieldText).append hb.fineBlock,
    fun env i j parts _ => ?_⟩
  -- the text is one part more
  have hrest := hb.runs env (i + 1) (j + 1 + 1) (parts ++ [source.content env]) (Or.inr rfl)
  have hfine : (runSteps env ""
      (ofInstructions j ([.bufferText source, .yieldText] ++ b'))).behind parts =
        (runSteps env "" (ofInstructions (j + 1 + 1) b')).behind
          (parts ++ [source.content env]) := by
    rw [List.cons_append, Computes.runSteps_buffer, List.singleton_append, ofInstructions,
      runSteps, runStep, Run.andThen_ok, String.empty_append, Run.behind, Run.behind,
      List.map_append, List.append_assoc]
    rfl
  rw [List.singleton_append, Computes.runSteps_buffer, hfine]
  rwa [String.join_append, String.join_cons, String.join_nil, String.append_empty] at hrest

/-! ### Control -/

/-- A slot with its fallback. -/
theorem slot (name : Option String) (hb : Coalesces body body' inRun) :
    Coalesces (.projectSlot name body.length :: body) (.projectSlot name body'.length :: body')
      false := by
  refine of_empty (IsBlock.slot name body) (IsBlock.slot name body') fun env i j => ?_
  have hstep (index : Nat) (body : List Instruction) := ofInstructions_slot index name body []
  simp only [List.append_nil] at hstep
  simp only [hstep, ofInstructions, runSteps, runStep, Run.andThen_idle]
  cases env.project name with
  | none => exact hb.runs_empty env (i + 1) (j + 1)
  | some projected =>
      refine ⟨⟨.refl _, rfl⟩, fun pending h => ?_⟩
      cases hstate : projected.state with
      | error e => simp [hstate, Except.map] at h
      | ok _ => simpa [hstate, Except.map] using h.symm

/-- A branch with its bodies. -/
theorem branch (condition : Expression) (negated : Bool) (hb : Coalesces body body' inRun)
    (ha : Coalesces alternate alternate' inRun') :
    Coalesces (.branch condition negated body.length alternate.length :: (body ++ alternate))
      (.branch condition negated body'.length alternate'.length :: (body' ++ alternate'))
      false := by
  refine of_empty (IsBlock.branch condition negated body alternate)
    (IsBlock.branch condition negated body' alternate') fun env i j => ?_
  have hstep (index : Nat) (body alternate : List Instruction) :=
    ofInstructions_branch index condition negated body alternate []
  simp only [List.append_nil] at hstep
  simp only [hstep, ofInstructions, runSteps, runStep, Run.andThen_idle]
  split
  · exact hb.runs_empty env _ _
  · exact ha.runs_empty env _ _

/-- A loop with its body. -/
theorem iterate (collection : Expression) (item : String) (position : Option String)
    (hb : Coalesces body body' inRun) :
    Coalesces (.iterate collection item position body.length :: body)
      (.iterate collection item position body'.length :: body') false := by
  refine of_empty (IsBlock.iterate collection item position body)
    (IsBlock.iterate collection item position body') fun env i j => ?_
  have hstep (index : Nat) (body : List Instruction) :=
    ofInstructions_iterate index collection item position body []
  simp only [List.append_nil] at hstep
  simp only [hstep, ofInstructions, runSteps, runStep, Run.andThen_idle]
  cases itemsOf collection (env.eval collection) with
  | error e => exact .failed e
  | ok items => exact .forEach (fun entry => hb.runs_empty _ _ _) items.zipIdx

end Coalesces

/-! ### Lowering -/

/-- Attributes are lowered to the same code by both compilers. -/
theorem lowerAttributes_coalesces (c c' : Context) (attributes : List Template.Attribute) :
    Coalesces (lowerAttributes c attributes).instructions
      (lowerAttributes c' attributes).instructions false := by
  rw [instructions_lowerAttributes c' c]
  induction attributes with
  | nil => exact .nil
  | cons a rest ih =>
      refine Coalesces.append (?_ : Coalesces _ _ false) ih
      rw [instructions_lowerAttribute]
      cases attributeSource a.name.toLower a.value with
      | none => exact .nil
      | some source =>
          have hpending (name : String) (env : Environment) (pending : String)
              (h : (runStep env "" (.attribute name source)).state = .ok pending) :
              pending = "" := by
            rw [runStep] at h
            split at h <;> exact (Except.ok.inj h).symm
          rw [Option.map_some, Option.toList_some]
          split
          · exact .leaf (.setStyle source) (.attribute "style" source)
              (fun _ => by rw [ofInstructions, ofInstructions]) (hpending _)
          · exact .leaf (.setAttribute _ source) (.attribute a.name.toLower source)
              (fun _ => by rw [ofInstructions, ofInstructions]) (hpending _)

/-- The beginning of an element is the same code. -/
theorem openElement_coalesces (tag : String) :
    Coalesces [.openElement tag] [.openElement tag] false :=
  .leaf (.openElement tag) (.openElement tag) (fun _ => by rw [ofInstructions, ofInstructions])
    fun _ _ h => (Except.ok.inj h).symm

/-- The end of an element is the same code. -/
theorem closeElement_coalesces (tag : String) :
    Coalesces [.closeElement tag] [.closeElement tag] false :=
  .leaf (.closeElement tag) (.closeElement tag) (fun _ => by rw [ofInstructions, ofInstructions])
    fun _ _ h => (Except.ok.inj h).symm

/-- A text, given out at once or with the texts behind it, and the nodes behind it. -/
theorem lowerText_coalesces {coarse fine : Context} (hcoarse : coarse.options.coalesceText = true)
    (hfine : fine.options.coalesceText = false) (value : Template.TextValue) {inRun : Bool}
    {b b' : List Instruction} (hb : Coalesces b b' inRun) :
    Coalesces ((lowerText (coarse.position !inRun) value).instructions ++ b)
      ((lowerText (fine.position !inRun) value).instructions ++ b') true := by
  rw [instructions_lowerText, instructions_lowerText, Context.position, Context.position, hcoarse,
    hfine, Bool.not_false, Bool.or_true, Bool.not_true, Bool.or_false, if_pos rfl]
  cases inRun with
  | true => exact .buffered (textSource value) hb
  | false => exact .flushed (textSource value) hb

mutual

/-- A node outside of runs of text is lowered to two codes that do the same. -/
theorem lowerNode_coalesces {coarse fine : Context}
    (hcoarse : coarse.options.coalesceText = true) (hfine : fine.options.coalesceText = false)
    (n : Node) (hn : n.isTextLike = false) (hv : n.faults = []) :
    ∃ f g, lowerNode coarse n = .ok f ∧ lowerNode fine n = .ok g ∧
      Coalesces f.instructions g.instructions false := by
  cases n with
  | text value location => cases hn
  | expression e location => cases hn
  | element tag attributes children location =>
      rw [Node.faults, List.append_eq_nil_iff] at hv
      obtain ⟨f, g, hf, hg, hbody⟩ := @lowerNodes_coalesces (coarse.within tag) (fine.within tag)
        hcoarse hfine children hv.2
      refine ⟨_, _, lowerNode_element hv.1 hf, lowerNode_element hv.1 hg, ?_⟩
      exact (((openElement_coalesces tag.toLower).append
        (lowerAttributes_coalesces coarse fine attributes)).append hbody).append
        (closeElement_coalesces tag.toLower)
  | slot name fallback location =>
      rw [Node.faults, List.append_eq_nil_iff] at hv
      obtain ⟨f, g, hf, hg, hbody⟩ := lowerNodes_coalesces hcoarse hfine fallback hv.2
      rcases name with _ | ⟨name | e | _⟩
      · exact ⟨_, _, by rw [lowerNode, hf]; rfl, by rw [lowerNode, hg]; rfl, .slot none hbody⟩
      · exact ⟨_, _, by rw [lowerNode, hf]; rfl, by rw [lowerNode, hg]; rfl,
          .slot (some name) hbody⟩
      · exact absurd hv.1 (by simp [Template.slotFaults])
      · exact absurd hv.1 (by simp [Template.slotFaults])
  | cond condition negated children location =>
      rw [Node.faults] at hv
      obtain ⟨f, g, hf, hg, hbody⟩ := lowerNodes_coalesces hcoarse hfine children hv
      exact ⟨branchFragment condition negated f .empty, branchFragment condition negated g .empty,
        by rw [lowerNode, hf]; rfl, by rw [lowerNode, hg]; rfl,
        .branch condition negated hbody .nil⟩
  | chain branches location =>
      rw [Node.faults, List.append_eq_nil_iff] at hv
      obtain ⟨f, g, hf, hg, hchain⟩ := lowerChain_coalesces hcoarse hfine branches hv.2
      exact ⟨f, g, by rw [lowerNode, hf], by rw [lowerNode, hg], hchain⟩
  | each collection item index children location =>
      rw [Node.faults, List.append_eq_nil_iff] at hv
      obtain ⟨f, g, hf, hg, hbody⟩ := lowerNodes_coalesces hcoarse hfine children hv.2
      exact ⟨_, _, by rw [lowerNode, hf]; rfl, by rw [lowerNode, hg]; rfl,
        .iterate collection item index hbody⟩

/-- **Nodes are lowered to two codes that do the same.** -/
theorem lowerNodes_coalesces {coarse fine : Context}
    (hcoarse : coarse.options.coalesceText = true) (hfine : fine.options.coalesceText = false)
    (ns : List Node) (hv : Node.listFaults ns = []) :
    ∃ f g, lowerNodes coarse ns = .ok f ∧ lowerNodes fine ns = .ok g ∧
      Coalesces f.instructions g.instructions (ns.head?.any Node.isTextLike) := by
  cases ns with
  | nil => exact ⟨.empty, .empty, by rw [lowerNodes], by rw [lowerNodes], .nil⟩
  | cons n ns =>
      rw [Node.listFaults, List.append_eq_nil_iff] at hv
      obtain ⟨rest, rest', hrest, hrest', hbehind⟩ := lowerNodes_coalesces hcoarse hfine ns hv.2
      rw [List.head?_cons, Option.any_some]
      by_cases hn : n.isTextLike = true
      · refine ⟨_, _, by rw [lowerNodes, Node.lowerNode_isTextLike hn, hrest]; rfl,
          by rw [lowerNodes, Node.lowerNode_isTextLike hn, hrest']; rfl, ?_⟩
        rw [hn]
        exact lowerText_coalesces hcoarse hfine n.textValue hbehind
      · rw [Bool.not_eq_true] at hn
        obtain ⟨first, first', hfirst, hfirst', hnode⟩ := @lowerNode_coalesces
          (coarse.position !(ns.head?.any Node.isTextLike))
          (fine.position !(ns.head?.any Node.isTextLike)) hcoarse hfine n hn hv.1
        refine ⟨_, _, by rw [lowerNodes, hfirst, hrest]; rfl,
          by rw [lowerNodes, hfirst', hrest']; rfl, ?_⟩
        rw [hn]
        exact hnode.append hbehind

/-- A chain is lowered to two codes that do the same. -/
theorem lowerChain_coalesces {coarse fine : Context}
    (hcoarse : coarse.options.coalesceText = true) (hfine : fine.options.coalesceText = false)
    (branches : List (Option Expression × List Node)) (hv : Node.branchFaults branches = []) :
    ∃ f g, lowerChain coarse branches = .ok f ∧ lowerChain fine branches = .ok g ∧
      Coalesces f.instructions g.instructions false := by
  cases branches with
  | nil => exact ⟨.empty, .empty, by rw [lowerChain], by rw [lowerChain], .nil⟩
  | cons branch rest =>
      obtain ⟨condition, children⟩ := branch
      rw [Node.branchFaults, List.append_eq_nil_iff] at hv
      obtain ⟨f, g, hf, hg, hbody⟩ := lowerNodes_coalesces hcoarse hfine children hv.1
      obtain ⟨f', g', hf', hg', hchain⟩ := lowerChain_coalesces hcoarse hfine rest hv.2
      cases condition with
      | some condition =>
          exact ⟨branchFragment condition false f f', branchFragment condition false g g',
            by rw [lowerChain, hf', hf]; rfl, by rw [lowerChain, hg', hg]; rfl,
            .branch condition false hbody hchain⟩
      | none =>
          exact ⟨f, g, by rw [lowerChain, hf', hf]; rfl, by rw [lowerChain, hg', hg]; rfl,
            hbody.outside⟩

end

/-! ### Templates -/

/-- Texts are given out one by one. -/
def CompileOptions.separate : CompileOptions := ⟨false⟩

/-- **A template is compiled to two programs that do the same**, one that gives neighbouring texts
out together and one that does not, for every target and in every scope. -/
theorem exists_compile_coalesced {t : Template} (hv : t.validate = .ok ()) (target : Target) :
    ∃ p q, compile t target .standard = .ok p ∧ compile t target .separate = .ok q ∧
      ∀ scope, (p.run target scope).Splits (q.run target scope) := by
  obtain ⟨f, g, hf, hg, hbody⟩ := @lowerNodes_coalesces (.root target .standard)
    (.root target .separate) rfl rfl t.nodes (Template.validate_eq_ok_iff.mp hv)
  refine ⟨⟨t.name, target, f.instructions, f.imports⟩, ⟨t.name, target, g.instructions, g.imports⟩,
    ?_, ?_, fun scope => ?_⟩
  · simp only [compile, hv, hf]
    rfl
  · simp only [compile, hv, hg]
    rfl
  · rw [Program.run, Program.run, if_pos rfl, if_pos rfl]
    exact (hbody.runs_empty _ 0 0).toSplits

/-- **Giving neighbouring texts out together is not seen**: the programs that do and the ones that
do not give the same tree and the same markup, or fail for the same reason, and where chunks of the
first end, chunks of the second end. -/
theorem compile_coalesceText {t : Template} (hv : t.validate = .ok ()) (scope : Scope) :
    ∃ server server' client client',
      compile t .server .standard = .ok server ∧ compile t .server .separate = .ok server' ∧
      compile t .client .standard = .ok client ∧ compile t .client .separate = .ok client' ∧
      renderClient client scope = renderClient client' scope ∧
      renderToString server scope = renderToString server' scope ∧
      (renderChunks server scope).map String.join = renderToString server scope ∧
      Chunks.Finer (renderChunks server scope) (renderChunks server' scope) := by
  obtain ⟨server, server', hserver, hserver', hruns⟩ := exists_compile_coalesced hv .server
  obtain ⟨client, client', hclient, hclient', hruns'⟩ := exists_compile_coalesced hv .client
  obtain ⟨hpieces, hfailure⟩ := (hruns scope).stream
  obtain ⟨hmarkup, hchunks⟩ := Chunks.finer_streamed hpieces hfailure
  exact ⟨server, server', client, client', hserver, hserver', hclient, hclient',
    (hruns' scope).tree_eq, hmarkup, map_join_renderChunks server scope, hchunks⟩

/-- A text that begins with a line feed, where a parser drops it, and a text behind it. -/
def verseTemplate : Template :=
  ⟨"verse", [.element "pre" []
    [.text (.literal "") .none, .text (.literal "\n") .none, .expression (.identifier "line") .none]
    .none]⟩

/-- A line for the text. -/
def verseScope : Scope := .ofData (.object [("line", .string "x")])

/-- The verse is rendered alike whether its texts are given out together or one by one. -/
theorem compile_coalesceText_verse :
    verseTemplate.validate = .ok () ∧ ∃ server server' client client',
      compile verseTemplate .server .standard = .ok server ∧
      compile verseTemplate .server .separate = .ok server' ∧
      compile verseTemplate .client .standard = .ok client ∧
      compile verseTemplate .client .separate = .ok client' ∧
      renderClient client verseScope = renderClient client' verseScope ∧
      renderToString server verseScope = renderToString server' verseScope ∧
      (renderChunks server verseScope).map String.join = renderToString server verseScope ∧
      Chunks.Finer (renderChunks server verseScope) (renderChunks server' verseScope) :=
  ⟨by cbv, compile_coalesceText (by cbv) verseScope⟩

/-- The text is one chunk, or one chunk for each part that is not empty. -/
example :
    ((compile verseTemplate .server .standard).toOption.map (renderChunks · verseScope) =
      some (.ok ["<pre>\n\nx", "</pre>"])) ∧
    ((compile verseTemplate .server .separate).toOption.map (renderChunks · verseScope) =
      some (.ok ["<pre>", "\n\n", "x", "</pre>"])) := by
  cbv

end TwinRender
