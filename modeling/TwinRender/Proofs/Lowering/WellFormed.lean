import TwinRender.Proofs.Lowering.Correctness
import TwinRender.Proofs.Render.WellFormed

/-!
# Compiled programs are well formed

Whatever the compiler lowers is well formed: what a node is lowered to can stand before any
well-formed code, and a run of text is given out behind its last text. So a program that was
compiled, like the content from outside that was compiled, restores the machine behind each of its
blocks, and there is but one reason for which it can fail.

## Main definitions

* `Program.RunsCleanly`: a program whose blocks restore the machine, and which fails only at loops.

## Main results

* `lowerNodes_wellFormed`: lowered nodes are well formed.
* `compile_runsCleanly`: **compiled programs run cleanly**.
-/

namespace TwinRender

open Template (Node Fault)
open Machine (Restored)
open Fragment (helper instruction)

/-! ### Lowering -/

/-- What a bind comes to comes from its first part. -/
theorem exists_of_bind_eq_ok {α β : Type} {a : Except Fault α} {k : α → Except Fault β} {b : β}
    (h : a >>= k = .ok b) : ∃ x, a = .ok x ∧ k x = .ok b := by
  cases a with
  | error e => cases h
  | ok x => exact ⟨x, rfl, h⟩

/-- What a lowered element consists of. A void element has no content. -/
theorem exists_of_lowerNode_element {c : Context} {tag : String}
    {attributes : List Template.Attribute} {children : List Node} {location : Location}
    {f : Fragment} (h : lowerNode c (.element tag attributes children location) = .ok f) :
    ∃ content, (content = .empty ∨ lowerNodes (c.within tag) children = .ok content) ∧
      f = instruction (.openElement tag.toLower) ++ lowerAttributes c attributes ++ content ++
        instruction (.closeElement tag.toLower) := by
  rw [lowerNode] at h
  split at h
  · exact ⟨.empty, .inl rfl, (Except.ok.inj h).symm⟩
  · obtain ⟨content, hlower, hf⟩ := exists_of_bind_eq_ok h
    exact ⟨content, .inr hlower, (Except.ok.inj hf).symm⟩

/-- What a lowered slot consists of, if its name is known. -/
theorem exists_of_lowerNode_slot {c : Context} {name : Option Template.AttributeValue}
    {fallback : List Node} {location : Location} {f : Fragment}
    (h : lowerNode c (.slot name fallback location) = .ok f) :
    ∃ name body, lowerNodes c fallback = .ok body ∧
      f = helper true .slot ++ instruction (.projectSlot name body.length) ++ body := by
  rcases name with _ | ⟨name | e | _⟩
  · rw [lowerNode] at h
    obtain ⟨body, hbody, hf⟩ := exists_of_bind_eq_ok h
    exact ⟨none, body, hbody, (Except.ok.inj hf).symm⟩
  · rw [lowerNode] at h
    obtain ⟨body, hbody, hf⟩ := exists_of_bind_eq_ok h
    exact ⟨some name, body, hbody, (Except.ok.inj hf).symm⟩
  · rw [lowerNode] at h
    cases h
  · rw [lowerNode] at h
    cases h

/-- Lowered attributes stand in an element. -/
theorem lowerAttributes_wellFormed (c : Context) (attributes : List Template.Attribute)
    {tag : String} {tags : List String} {rest : List Instruction}
    (hrest : WellFormed (tag :: tags) false rest) :
    WellFormed (tag :: tags) false ((lowerAttributes c attributes).instructions ++ rest) := by
  induction attributes with
  | nil => exact hrest
  | cons a others ih =>
      change WellFormed _ _ (((lowerAttribute c a).instructions ++
        (lowerAttributes c others).instructions) ++ rest)
      rw [instructions_lowerAttribute, List.append_assoc]
      cases attributeSource a.name.toLower a.value with
      | none => exact ih
      | some source =>
          rw [Option.map_some, Option.toList_some]
          split
          · exact .plain (.setStyle source tag tags) ih
          · exact .plain (.setAttribute a.name.toLower source tag tags) ih

/-- A lowered branch, given its lowered bodies. -/
theorem branchFragment_wellFormed (condition : Expression) (negated : Bool)
    {consequent alternate : Fragment} (hconsequent : WellFormed [] false consequent.instructions)
    (halternate : WellFormed [] false alternate.instructions) {tags : List String}
    {rest : List Instruction} (hrest : WellFormed tags false rest) :
    WellFormed tags false
      ((branchFragment condition negated consequent alternate).instructions ++ rest) := by
  change WellFormed tags false ((.branch condition negated consequent.length alternate.length ::
    (consequent.instructions ++ alternate.instructions)) ++ rest)
  rw [List.cons_append, List.append_assoc]
  exact .branch condition negated hconsequent halternate hrest

/-- Code that can stand before any well-formed code is well formed. -/
theorem wellFormed_of_append {code : List Instruction}
    (h : ∀ {rest}, WellFormed [] false rest → WellFormed [] false (code ++ rest)) :
    WellFormed [] false code := by
  have hnil := h .nil
  rwa [List.append_nil] at hnil

mutual

/-- A lowered node outside of runs of text is well formed. -/
theorem lowerNode_wellFormed (c : Context) (n : Node) (hn : n.isTextLike = false) {f : Fragment}
    (h : lowerNode c n = .ok f) {tags : List String} {rest : List Instruction}
    (hrest : WellFormed tags false rest) : WellFormed tags false (f.instructions ++ rest) := by
  cases n with
  | text value location => cases hn
  | expression e location => cases hn
  | element tag attributes children location =>
      obtain ⟨content, hlower, rfl⟩ := exists_of_lowerNode_element h
      have hend : WellFormed (tag.toLower :: tags) false (.closeElement tag.toLower :: rest) :=
        .plain (.closeElement tag.toLower tags) hrest
      have hwell : WellFormed (tag.toLower :: tags) false
          (content.instructions ++ .closeElement tag.toLower :: rest) := by
        rcases hlower with rfl | hlower
        · exact hend
        · exact lowerNodes_wellFormed (c.within tag) children hlower (by simp) hend
      change WellFormed tags false ((.openElement tag.toLower ::
        (lowerAttributes c attributes).instructions ++ content.instructions ++
          [.closeElement tag.toLower]) ++ rest)
      simp only [List.cons_append, List.append_assoc, List.nil_append]
      exact .plain (.openElement tag.toLower tags) (lowerAttributes_wellFormed c attributes hwell)
  | slot name fallback location =>
      obtain ⟨name, body, hbody, rfl⟩ := exists_of_lowerNode_slot h
      change WellFormed tags false
        ((.projectSlot name body.length :: body.instructions) ++ rest)
      exact .slot name
        (wellFormed_of_append (lowerNodes_wellFormed c fallback hbody (by simp))) hrest
  | cond condition negated children location =>
      rw [lowerNode] at h
      obtain ⟨body, hbody, hf⟩ := exists_of_bind_eq_ok h
      obtain rfl := Except.ok.inj hf
      exact branchFragment_wellFormed condition negated
        (wellFormed_of_append (lowerNodes_wellFormed c children hbody (by simp))) .nil hrest
  | chain branches location =>
      rw [lowerNode] at h
      exact lowerChain_wellFormed c branches h hrest
  | each collection item index children location =>
      rw [lowerNode] at h
      obtain ⟨body, hbody, hf⟩ := exists_of_bind_eq_ok h
      obtain rfl := Except.ok.inj hf
      exact .iterate collection item index
        (wellFormed_of_append (lowerNodes_wellFormed c children hbody (by simp))) hrest

/-- **Lowered nodes are well formed**, also behind a pending text if they begin with a text. -/
theorem lowerNodes_wellFormed (c : Context) (ns : List Node) {f : Fragment}
    (h : lowerNodes c ns = .ok f) {inRun : Bool}
    (hinRun : inRun = true → ns.head?.any Node.isTextLike = true) {tags : List String}
    {rest : List Instruction} (hrest : WellFormed tags false rest) :
    WellFormed tags inRun (f.instructions ++ rest) := by
  cases ns with
  | nil =>
      obtain rfl : inRun = false := by simpa using hinRun
      rw [lowerNodes] at h
      obtain rfl := Except.ok.inj h
      exact hrest
  | cons n ns =>
      rw [lowerNodes] at h
      obtain ⟨first, hfirst, h⟩ := exists_of_bind_eq_ok h
      obtain ⟨others, hothers, hf⟩ := exists_of_bind_eq_ok h
      obtain rfl := Except.ok.inj hf
      change WellFormed tags inRun ((first.instructions ++ others.instructions) ++ rest)
      rw [List.append_assoc]
      have hbehind {inRun : Bool} (h : inRun = true → ns.head?.any Node.isTextLike = true) :
          WellFormed tags inRun (others.instructions ++ rest) :=
        lowerNodes_wellFormed c ns hothers h hrest
      by_cases hn : n.isTextLike = true
      · rw [Node.lowerNode_isTextLike hn, Except.ok.injEq] at hfirst
        rw [← hfirst, instructions_lowerText]
        split
        · exact .plain (.bufferText _ tags inRun) (.plain (.yieldText tags) (hbehind (by simp)))
        · next hlast =>
            -- a text that is not given out has a text behind it
            have hnext : ns.head?.any Node.isTextLike = true := by
              simp only [Context.position, Bool.or_eq_true, not_or, Bool.not_eq_true',
                Bool.not_eq_false] at hlast
              exact hlast.1
            exact .plain (.bufferText _ tags inRun) (hbehind fun _ => hnext)
      · rw [Bool.not_eq_true] at hn
        obtain rfl : inRun = false := by simpa [hn] using hinRun
        exact lowerNode_wellFormed _ n hn hfirst (hbehind (by simp))

/-- A lowered chain is well formed. -/
theorem lowerChain_wellFormed (c : Context) (branches : List (Option Expression × List Node))
    {f : Fragment} (h : lowerChain c branches = .ok f) {tags : List String}
    {rest : List Instruction} (hrest : WellFormed tags false rest) :
    WellFormed tags false (f.instructions ++ rest) := by
  cases branches with
  | nil =>
      rw [lowerChain] at h
      obtain rfl := Except.ok.inj h
      exact hrest
  | cons branch others =>
      obtain ⟨condition, children⟩ := branch
      rw [lowerChain] at h
      obtain ⟨alternate, halternate, h⟩ := exists_of_bind_eq_ok h
      obtain ⟨body, hbody, hf⟩ := exists_of_bind_eq_ok h
      cases condition with
      | none =>
          obtain rfl := Except.ok.inj hf
          exact lowerNodes_wellFormed c children hbody (by simp) hrest
      | some condition =>
          obtain rfl := Except.ok.inj hf
          exact branchFragment_wellFormed condition false
            (wellFormed_of_append (lowerNodes_wellFormed c children hbody (by simp)))
            (wellFormed_of_append (lowerChain_wellFormed c others halternate)) hrest

end

/-- **A program that was compiled is well formed.** -/
theorem compile_wellFormed {t : Template} {target : Target} {o : CompileOptions} {p : Program}
    (h : compile t target o = .ok p) :
    p.target = target ∧ WellFormed [] false p.instructions := by
  rw [compile] at h
  obtain ⟨_, -, h⟩ := exists_of_bind_eq_ok h
  obtain ⟨body, hbody, hp⟩ := exists_of_bind_eq_ok h
  obtain rfl := Except.ok.inj hp
  exact ⟨rfl, wellFormed_of_append (lowerNodes_wellFormed _ t.nodes hbody (by simp))⟩

/-! ### Scopes -/

/-- What a program for a target is run with. -/
def Scope.environment (scope : Scope) (target : Target) : Environment :=
  ⟨scope.data, [], fun name =>
    (scope.slot? name).map fun content => (content.program target).runProjected scope.data⟩

/-- What content from outside is run with: the data alone. -/
def Scope.outside (scope : Scope) : Environment := ⟨scope.data, [], fun _ => none⟩

/-- Content from outside that restores a machine of its own restores the machine of the program. -/
theorem Machine.Restored.project {m : Machine} {projected : Run}
    (h : Restored ⟨[], "", m.openTags⟩ (projected.onto ⟨[], "", m.openTags⟩)) :
    m.Restored (m.project projected) := by
  simp only [Machine.project, Run.onto] at h ⊢
  cases htags : projected.events.foldlM Event.openTags m.openTags with
  | error e =>
      rw [htags] at h
      cases h with
      | notIterable expression found => exact .notIterable expression found
  | ok tags =>
      rw [htags] at h
      cases hstate : projected.state with
      | error e =>
          rw [hstate] at h
          cases h with
          | notIterable expression found => exact .notIterable expression found
      | ok buffer =>
          rw [hstate] at h
          obtain rfl : tags = m.openTags := congrArg Machine.openTags (h.eq_of_ok rfl)
          exact .same

/-- Compiled content is well formed, and all its blocks restore the machine. -/
theorem SlotContent.CompiledFrom.allRestore {content : SlotContent} {t : Template}
    (h : content.CompiledFrom t) (target : Target) (scope : Scope) :
    WellFormed [] false (content.program target).instructions ∧
      AllRestore scope.outside (content.program target).steps := by
  obtain ⟨o, ho⟩ := h.program target
  obtain ⟨-, hwell⟩ := compile_wellFormed ho
  exact ⟨hwell, hwell.allRestore (fun _ _ hnone => by cases hnone) 0⟩

/-- Compiled content leaves the machine of the program as it was. -/
theorem Scope.CompiledFrom.restores {scope : Scope} {contents : String → Option Template}
    (hs : scope.CompiledFrom contents) (target : Target) :
    (scope.environment target).Restores := by
  intro name projected hprojected m
  obtain ⟨content, hslot, rfl⟩ := Option.map_eq_some_iff.mp hprojected
  obtain ⟨t, hcompiled⟩ := hs.of_slot hslot
  have hrestored := (hcompiled.allRestore target scope).2.restores ⟨[], "", m.openTags⟩ rfl
  rw [Machine.run_eq] at hrestored
  exact hrestored.project

/-- The elements that a run leaves open, on the machine. -/
theorem Run.openTags_eq_onto (r : Run) :
    r.openTags = (r.onto .start).map Machine.openTags := by
  rw [openTags, onto]
  change _ = (r.events.foldlM Event.openTags [] >>= _).map Machine.openTags
  cases r.events.foldlM Event.openTags [] with
  | error e => rfl
  | ok tags => cases r.state <;> rfl

/-- A program for a target runs cleanly in a scope. -/
structure Program.RunsCleanly (p : Program) (target : Target) (scope : Scope) : Prop where
  /-- The program is for the target. -/
  target_eq : p.target = target
  /-- Each length in the program is the length of a body that is there, and each body ends what it
  begins and nothing else. -/
  wellFormed : WellFormed [] false p.instructions
  /-- All blocks are begun with no text pending, and leave the machine as it was. -/
  blocks : AllRestore (scope.environment target) p.steps
  /-- The same holds of the content for every slot. -/
  contents : ∀ name content, scope.slot? name = some content →
    WellFormed [] false (content.program target).instructions ∧
      AllRestore scope.outside (content.program target).steps
  /-- Markup is not written only because of a loop. -/
  markup : target = .server → ∀ e, (stream p scope).2 = some e →
    ∃ expression found, e = .notIterable expression found
  /-- A tree is not built only because of a loop. -/
  tree : target = .client → ∀ e, renderClient p scope = .error e →
    ∃ expression found, e = .notIterable expression found

/-- **Compiled programs run cleanly.** A valid template is compiled for each target, with any
options, and in every scope whose content was compiled, every length in the program stays inside of
its block, every block ends exactly the elements that it began, leaves no text pending and has the
bindings again that it was begun with; and a render fails only where a loop runs over something that
is no array. -/
theorem compile_runsCleanly {t : Template} (hv : t.validate = .ok ()) (target : Target)
    (o : CompileOptions) {scope : Scope} {contents : String → Option Template}
    (hs : scope.CompiledFrom contents) :
    ∃ p, compile t target o = .ok p ∧ p.RunsCleanly target scope := by
  obtain ⟨p, hp, -⟩ := compile_shows hv target o
  obtain ⟨htarget, hwell⟩ := compile_wellFormed hp
  have hblocks : AllRestore (scope.environment target) p.steps :=
    hwell.allRestore (hs.restores target) 0
  have hrun : p.run target scope = runSteps (scope.environment target) "" p.steps := if_pos htarget
  have hend : Machine.start.Restored ((p.run target scope).onto .start) := by
    have hrestored := hblocks.restores .start rfl
    rw [Machine.run_eq] at hrestored
    rwa [hrun]
  refine ⟨p, hp, htarget, hwell, hblocks, fun name content hslot => ?_, ?_, ?_⟩
  · obtain ⟨_, hcompiled⟩ := hs.of_slot hslot
    exact hcompiled.allRestore target scope
  · rintro rfl e he
    rw [stream_eq_some_iff, Run.openTags_eq_onto] at he
    generalize (p.run .server scope).onto .start = r at hend he
    cases hend with
    | same => cases he
    | notIterable expression found =>
        cases he
        exact ⟨expression, found, rfl⟩
  · rintro rfl e he
    rw [renderClient, Run.tree_eq_error_iff, Run.openTags_eq_onto] at he
    generalize (p.run .client scope).onto .start = r at hend he
    cases hend with
    | same =>
        rcases he with he | ⟨tag, tags, hopen, -⟩
        · cases he
        · cases hopen
    | notIterable expression found =>
        rcases he with he | ⟨tag, tags, hopen, -⟩
        · cases he
          exact ⟨expression, found, rfl⟩
        · cases hopen

/-- The list is compiled to a program that is well formed and runs cleanly. -/
theorem compile_runsCleanly_list :
    listTemplate.validate = .ok () ∧ listScope.CompiledFrom listContents ∧
      ∃ p, compile listTemplate .server .standard = .ok p ∧ p.RunsCleanly .server listScope :=
  ⟨validate_listTemplate, compiledFrom_listScope,
    compile_runsCleanly validate_listTemplate .server .standard compiledFrom_listScope⟩

end TwinRender
