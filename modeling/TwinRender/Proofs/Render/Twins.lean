import TwinRender.Proofs.Lowering.Targets
import TwinRender.Proofs.Render.Tags

/-!
# Programs that were not compiled

Any list of instructions can be run as a program for either target, also when its lengths do not
fit, its elements do not end, or its attributes stand outside of elements. Both runs are one run,
and both renderers refuse it for the same reason and at the same event; the writer just does not
mind elements that are still open at the end.

## Main results

* `renderClient_twin`: **both renderers accept the same programs**, up to elements left open.
-/

namespace TwinRender

/-- **Both renderers accept the same programs.** Whatever instructions are run for both targets, in
every scope whose content was compiled: where the writer of markup fails, the builder of the tree
fails for the same reason; and where only the builder fails, it is for the innermost element that
was left open, the last one whose content is balanced. -/
theorem renderClient_twin (code : List Instruction) (name name' : String)
    (imports imports' : List Helper) {scope : Scope} {contents : String → Option Template}
    (hs : scope.CompiledFrom contents) :
    (∀ e, (stream ⟨name, .server, code, imports⟩ scope).2 = some e →
      renderClient ⟨name', .client, code, imports'⟩ scope = .error e) ∧
    ∀ e, (stream ⟨name, .server, code, imports⟩ scope).2 = none →
      renderClient ⟨name', .client, code, imports'⟩ scope = .error e →
        ∃ before tag inside,
          (Program.run ⟨name', .client, code, imports'⟩ .client scope).events =
            before ++ .openElement tag :: inside ∧
          Event.Balanced inside ∧ e = .unbalancedClose tag := by
  have hrun : Program.run ⟨name, .server, code, imports⟩ .server scope =
      Program.run ⟨name', .client, code, imports'⟩ .client scope :=
    Program.run_twin (by rfl) (by rfl) (by rfl) hs
  simp only [stream_eq_some_iff, stream_eq_none_iff, hrun, renderClient, Run.tree_eq_error_iff]
  constructor
  · intro e h
    exact .inl h
  · rintro e ⟨tags, hok⟩ (herror | ⟨tag, outer, hopen, rfl⟩)
    · rw [hok] at herror
      cases herror
    · obtain ⟨before, inside, hevents, hinside, -⟩ :=
        Event.exists_innermost (Run.foldlM_of_openTags hopen)
      exact ⟨before, tag, inside, hevents, hinside, rfl⟩

/-- Two elements, of which the inner one has content from outside, and which do not end. -/
def openCode : List Instruction := [.openElement "p", .openElement "b", .projectSlot none 0]

/-- The server does not see that the elements do not end, and the client reports the inner one. -/
theorem renderClient_twin_open :
    listScope.CompiledFrom listContents ∧
      (stream ⟨"open", .server, openCode, []⟩ listScope).2 = none ∧
      renderClient ⟨"open", .client, openCode, []⟩ listScope = .error (.unbalancedClose "b") ∧
      ∃ before tag inside,
        (Program.run ⟨"open", .client, openCode, []⟩ .client listScope).events =
          before ++ .openElement tag :: inside ∧
        Event.Balanced inside ∧ RenderError.unbalancedClose "b" = .unbalancedClose tag := by
  have hmarkup : (stream ⟨"open", .server, openCode, []⟩ listScope).2 = none := by cbv
  have htree : renderClient ⟨"open", .client, openCode, []⟩ listScope =
      .error (.unbalancedClose "b") := by cbv
  exact ⟨compiledFrom_listScope, hmarkup, htree,
    (renderClient_twin openCode "open" "open" [] [] compiledFrom_listScope).2 _ hmarkup htree⟩

end TwinRender
