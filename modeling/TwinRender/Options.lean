import TwinRender.Hydration.Policy
import TwinRender.Lowering
import TwinRender.Setting.Reader

/-!
# Reading options

Options are records of settings in which everything may be left out. Names that are not known are
overlooked; a setting of the wrong kind is refused.

## Main definitions

* `CompileOptions.ofSetting?`, `HydrationOptions.ofSetting?`, `PipelineConfig.ofSetting?` — options
  as they are set;
* `PipelineConfig` — the options of the compiler and of hydration together.
-/

namespace TwinRender

open Value (optional)

/-- The compiler options that are set. -/
def CompileOptions.ofSetting? (s : Setting) : Option CompileOptions := do
  let entries ← s.record? ["coalesce_text"]
  let coalesceText ← optional entries "coalesce_text" Setting.flag?
    CompileOptions.standard.coalesceText
  return ⟨coalesceText⟩

/-- The action that is set. -/
def RepairAction.ofSetting? (s : Setting) : Option RepairAction := s.text?.bind ofText?

/-- The single choices that are set, in order. -/
def HydrationOptions.overridesOfSetting? (s : Setting) : Option (OrderedMap RepairAction) := do
  let entries ← s.table?
  let actions ← entries.mapM fun e => (RepairAction.ofSetting? e.2).map fun a => (e.1, a)
  return .ofList actions

/-- The names that are set. -/
def HydrationOptions.namesOfSetting? (s : Setting) : Option (List String) := do
  (← s.list?).mapM Setting.text?

/-- The options of hydration that are set. -/
def HydrationOptions.ofSetting? (s : Setting) : Option HydrationOptions := do
  let entries ← s.record? ["style_action", "attribute_action", "text_action", "structural_repair",
    "attribute_overrides", "ignore_attributes"]
  let o := standard
  let styleAction ← optional entries "style_action" RepairAction.ofSetting? o.styleAction
  let attributeAction ← optional entries "attribute_action" RepairAction.ofSetting?
    o.attributeAction
  let textAction ← optional entries "text_action" RepairAction.ofSetting? o.textAction
  let structuralRepair ← optional entries "structural_repair" Setting.flag? o.structuralRepair
  let overrides ← optional entries "attribute_overrides" overridesOfSetting? o.attributeOverrides
  let ignored ← optional entries "ignore_attributes" namesOfSetting? o.ignoreAttributes
  return ⟨styleAction, attributeAction, textAction, structuralRepair, overrides, ignored⟩

/-- The options of the compiler and of hydration. -/
structure PipelineConfig where
  /-- The options of the compiler. -/
  compile : CompileOptions
  /-- The options of hydration. -/
  hydration : HydrationOptions
  deriving DecidableEq, Repr, Inhabited

namespace PipelineConfig

/-- The standard options of both. -/
def standard : PipelineConfig := ⟨.standard, .standard⟩

/-- The options that are set. -/
def ofSetting? (s : Setting) : Option PipelineConfig := do
  let entries ← s.record? ["compile", "hydration"]
  let compile ← optional entries "compile" CompileOptions.ofSetting? .standard
  let hydration ← optional entries "hydration" HydrationOptions.ofSetting? .standard
  return ⟨compile, hydration⟩

end PipelineConfig

/-- The reasons why options cannot be read. -/
inductive ConfigError where
  /-- The file cannot be read. -/
  | io
  /-- The settings are not written properly, or are of the wrong kind. -/
  | toml
  deriving DecidableEq, Repr, Inhabited

/-- Options read from the text of a configuration file. -/
def readOptions {α : Type} (ofSetting? : Setting → Option α) (source : String) :
    Except ConfigError α :=
  match (Setting.parse? source).bind ofSetting? with
  | some options => .ok options
  | none => .error .toml

end TwinRender
