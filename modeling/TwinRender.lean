import TwinRender.Document.Construction
import TwinRender.Document.Edit
import TwinRender.Document.Mount
import TwinRender.Document.Snapshot
import TwinRender.Document.Traversal
import TwinRender.Hydration.Log
import TwinRender.Pipeline
import TwinRender.Proofs.Canonical.Attribute
import TwinRender.Proofs.Canonical.Grammar
import TwinRender.Proofs.Document.Atomic
import TwinRender.Proofs.Document.Cells
import TwinRender.Proofs.Document.Construction
import TwinRender.Proofs.Document.Held
import TwinRender.Proofs.Document.Loops
import TwinRender.Proofs.Document.Mounted
import TwinRender.Proofs.Document.Mounting
import TwinRender.Proofs.Document.Operations
import TwinRender.Proofs.Document.Parsed
import TwinRender.Proofs.Document.Reachable
import TwinRender.Proofs.Document.Sound
import TwinRender.Proofs.Document.Top
import TwinRender.Proofs.Document.Traversal
import TwinRender.Proofs.Document.Written
import TwinRender.Proofs.Hydration.Conformity
import TwinRender.Proofs.Hydration.Counters
import TwinRender.Proofs.Hydration.Did
import TwinRender.Proofs.Hydration.Fixpoint
import TwinRender.Proofs.Hydration.Identity
import TwinRender.Proofs.Hydration.Patches
import TwinRender.Proofs.Hydration.Plan
import TwinRender.Proofs.Hydration.Records
import TwinRender.Proofs.Hydration.Refusals
import TwinRender.Proofs.Hydration.Reports
import TwinRender.Proofs.Hydration.Survival
import TwinRender.Proofs.Hydration.Walk
import TwinRender.Proofs.Hydration.Whole
import TwinRender.Proofs.Lowering.Coalescing
import TwinRender.Proofs.Lowering.Computes
import TwinRender.Proofs.Lowering.Correctness
import TwinRender.Proofs.Lowering.Targets
import TwinRender.Proofs.Lowering.Uses
import TwinRender.Proofs.Lowering.WellFormed
import TwinRender.Proofs.Markup.Building
import TwinRender.Proofs.Markup.InPlace
import TwinRender.Proofs.Markup.Outer
import TwinRender.Proofs.Markup.Parsing
import TwinRender.Proofs.Markup.RawText
import TwinRender.Proofs.Markup.Reading
import TwinRender.Proofs.Markup.Scanning
import TwinRender.Proofs.Markup.Values
import TwinRender.Proofs.Names
import TwinRender.Proofs.OrderedMap
import TwinRender.Proofs.RawRoundTrip
import TwinRender.Proofs.Render.Agreement
import TwinRender.Proofs.Render.Blocks
import TwinRender.Proofs.Render.Events
import TwinRender.Proofs.Render.Folding
import TwinRender.Proofs.Render.Overruns
import TwinRender.Proofs.Render.Readable
import TwinRender.Proofs.Render.Scoping
import TwinRender.Proofs.Render.Splitting
import TwinRender.Proofs.Render.Streaming
import TwinRender.Proofs.Render.Twins
import TwinRender.Proofs.Render.Unforgeable
import TwinRender.Proofs.Render.Writer
import TwinRender.Proofs.RoundTrip
import TwinRender.Proofs.Template.Codec
import TwinRender.Proofs.Template.Elements
import TwinRender.Proofs.Template.Evaluation
import TwinRender.Proofs.Template.Likeness
import TwinRender.Proofs.Template.Plain
import TwinRender.Proofs.Template.Scoping
import TwinRender.Proofs.Template.Validation
import TwinRender.Proofs.Text.Escape
import TwinRender.Proofs.VNode
import TwinRender.Template.Codec
import TwinRender.Text.Rewriting
import TwinRender.Value.Reader
