import TwinRender.Document.Parsed
import TwinRender.Hydration.Pass
import TwinRender.Options
import TwinRender.Render.Stream

/-!
# The way of a page

A template is compiled twice. The server writes markup, a browser makes a document of it, and the
client hydrates the document with its own program.

## Main definitions

* `Pipeline` — a template compiled for both targets;
* `Pipeline.renderServer`, `Pipeline.hydrate`, `Pipeline.roundTrip` — the stages;
* `PipelineError` — what can go wrong on the way.
-/

namespace TwinRender

/-- What can go wrong on the way of a page. -/
inductive PipelineError where
  /-- The template has a fault. -/
  | compile (fault : Template.Fault)
  /-- A program cannot be run. -/
  | render (reason : RenderError)
  /-- Hydration does not start. -/
  | hydration (reason : HydrationError)
  /-- The options cannot be read. -/
  | config (reason : ConfigError)
  deriving DecidableEq, Repr, Inhabited

/-- Content for slots, compiled for both targets. -/
def SlotContent.compile (t : Template) (options : CompileOptions) :
    Except Template.Fault SlotContent := do
  return ⟨← TwinRender.compile t .server options, ← TwinRender.compile t .client options⟩

/-- A template compiled for both targets, and the options of hydration. -/
structure Pipeline where
  /-- The program that writes markup. -/
  server : Program
  /-- The program that describes the tree. -/
  client : Program
  /-- The options of hydration. -/
  hydration : HydrationOptions
  deriving Repr, Inhabited

namespace Pipeline

/-- A template compiled for both targets. -/
def compile (t : Template) (config : PipelineConfig) : Except PipelineError Pipeline := do
  let content ← (SlotContent.compile t config.compile).mapError .compile
  return ⟨content.server, content.client, config.hydration⟩

/-- The markup that the server writes. -/
def renderServer (p : Pipeline) (scope : Scope) : Except PipelineError String :=
  (renderToString p.server scope).mapError .render

/-- The markup that the server writes, in chunks. -/
def renderServerChunks (p : Pipeline) (scope : Scope) : Except PipelineError (List String) :=
  (renderChunks p.server scope).mapError .render

/-- The nodes below a root hydrated. -/
def hydrate (p : Pipeline) (d : Document) (root : NodeId) (scope : Scope) :
    Except PipelineError (Document × Report) :=
  (TwinRender.hydrate p.hydration d root p.client scope).mapError .hydration

/-- Markup made a document and hydrated. -/
def hydrateMarkup (p : Pipeline) (markup : String) (scope : Scope) :
    Except PipelineError (Document × Report) :=
  p.hydrate (.parse markup) Document.root scope

/-- Rendered with one scope and hydrated with another. -/
def roundTrip (p : Pipeline) (server client : Scope) :
    Except PipelineError (Document × Report) := do
  p.hydrateMarkup (← p.renderServer server) client

end Pipeline

end TwinRender
