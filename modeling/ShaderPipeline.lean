import ShaderPipeline.Text.Blank
import ShaderPipeline.Text.Lines
import ShaderPipeline.Gpu.Tracker
import ShaderPipeline.Gpu.OpenGl
import ShaderPipeline.Gpu.Recording
import ShaderPipeline.Pool
import ShaderPipeline.Main
import ShaderPipeline.Proofs.Language.Grammar
import ShaderPipeline.Proofs.Language.Reads
import ShaderPipeline.Proofs.Language.DeclarationReads
import ShaderPipeline.Proofs.Language.BodyReads
import ShaderPipeline.Proofs.Language.Described
import ShaderPipeline.Proofs.Language.ItemReads
import ShaderPipeline.Proofs.Language.Acceptance
import ShaderPipeline.Proofs.Language.Trimming
import ShaderPipeline.Proofs.Language.BodyPrint
import ShaderPipeline.Proofs.Language.Printing
import ShaderPipeline.Proofs.Language.RoundTrip
import ShaderPipeline.Proofs.Gpu.Bindings
import ShaderPipeline.Proofs.Gpu.TrackerTruth
import ShaderPipeline.Proofs.Gpu.AssemblyTraces
import ShaderPipeline.Proofs.Gpu.Numbering
import ShaderPipeline.Proofs.Gpu.Cleanup
import ShaderPipeline.Proofs.Decimal.Rounding
import ShaderPipeline.Proofs.Language.Checked
import ShaderPipeline.Proofs.Glsl.Outcome
import ShaderPipeline.Proofs.Glsl.Resolved
import ShaderPipeline.Proofs.Glsl.Failures
import ShaderPipeline.Proofs.Language.Expansion
import ShaderPipeline.Proofs.Glsl.Verbatim
import ShaderPipeline.Proofs.Glsl.Interface
import ShaderPipeline.Proofs.Gpu.SlotCalls
import ShaderPipeline.Proofs.SlotFile.LastEntry
import ShaderPipeline.Proofs.SlotFile.Offences
import ShaderPipeline.Proofs.SlotFile.Writing
import ShaderPipeline.Proofs.SlotFile.ReadBack
import ShaderPipeline.Proofs.Text.Lines
import ShaderPipeline.Proofs.CachedCompilation
import ShaderPipeline.Proofs.SlotNumbers
import ShaderPipeline.Proofs.FirstStored
import ShaderPipeline.Proofs.Preparation
import ShaderPipeline.Proofs.SharedCache
import ShaderPipeline.Proofs.FailedCreation
import ShaderPipeline.Proofs.Gpu.Backends
import ShaderPipeline.Proofs.Gpu.Diagnostics
import ShaderPipeline.Proofs.Gpu.Deactivation
import ShaderPipeline.Proofs.SlotFile.FirstOffence
import ShaderPipeline.Proofs.Language.Places
import ShaderPipeline.Proofs.Language.BlockReading
import ShaderPipeline.Proofs.Language.PlacedItems
import ShaderPipeline.Proofs.Language.SourcePositions
import ShaderPipeline.Proofs.Glsl.DeclaredOnly
import ShaderPipeline.Proofs.Glsl.TwoDialects
import ShaderPipeline.Proofs.AssetForms
import ShaderPipeline.Proofs.OfflineDump
import ShaderPipeline.Proofs.PropertyMaps
import ShaderPipeline.Proofs.Language.TokenRuns
import ShaderPipeline.Proofs.SlotFile.LineGroups
