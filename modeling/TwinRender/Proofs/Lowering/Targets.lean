import TwinRender.Proofs.Lowering.Correctness
import TwinRender.Proofs.Lowering.Imports

/-!
# One code for both targets

What a program is for matters for the helpers that it imports, and for nothing else. So the two
programs of content from outside are one code, and its runs for the two targets are one run.

## Main results

* `compile_sameCode`: the two programs of a template are the same code.
* `Program.run_twin`: **two programs of the same code run alike**, each for its own target, in every
  scope whose content was compiled.
-/

namespace TwinRender

/-- Attributes are lowered to the same instructions in every context. -/
theorem instructions_lowerAttributes (c c' : Context) (attributes : List Template.Attribute) :
    (lowerAttributes c attributes).instructions = (lowerAttributes c' attributes).instructions := by
  induction attributes with
  | nil => rfl
  | cons a rest ih =>
      change (lowerAttribute c a).instructions ++ _ = (lowerAttribute c' a).instructions ++ _
      rw [instructions_lowerAttribute, instructions_lowerAttribute, ih]

/-- The two programs of a template are the same code. -/
theorem compile_sameCode {t : Template} {o : CompileOptions} {server client : Program}
    (hs : compile t .server o = .ok server) (hc : compile t .client o = .ok client) :
    server.instructions = client.instructions := by
  rw [compile_client, hs] at hc
  cases hc
  rfl

/-- The two programs of compiled content are the same code. -/
theorem SlotContent.CompiledFrom.sameCode {content : SlotContent} {t : Template}
    (h : content.CompiledFrom t) : content.server.instructions = content.client.instructions := by
  obtain ⟨o, h⟩ := h
  rw [SlotContent.compile] at h
  cases hserver : TwinRender.compile t .server o with
  | error f => rw [hserver] at h; cases h
  | ok server =>
      cases hclient : TwinRender.compile t .client o with
      | error f => rw [hserver, hclient] at h; cases h
      | ok client =>
          rw [hserver, hclient] at h
          cases h
          exact compile_sameCode hserver hclient

/-- **Two programs of the same code run alike**, each for its own target. -/
theorem Program.run_twin {server client : Program} (hserver : server.target = .server)
    (hclient : client.target = .client) (hcode : server.instructions = client.instructions)
    {scope : Scope} {contents : String → Option Template} (hs : scope.CompiledFrom contents) :
    server.run .server scope = client.run .client scope := by
  have hproject (name : Option String) :
      ((scope.slot? name).map fun content => content.server.runProjected scope.data) =
        (scope.slot? name).map fun content => content.client.runProjected scope.data := by
    cases hslot : scope.slot? name with
    | none => rfl
    | some content =>
        obtain ⟨t, hcompiled⟩ := hs.of_slot hslot
        rw [Option.map_some, Option.map_some, runProjected, runProjected, steps, steps,
          hcompiled.sameCode]
  rw [run, run, if_pos hserver, if_pos hclient, steps, steps, hcode]
  simp only [SlotContent.program, hproject]

end TwinRender
