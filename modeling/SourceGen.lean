import SourceGen.FileSystem.Changes
import SourceGen.Host.Recording
import SourceGen.Inspect
import SourceGen.Json.Reading
import SourceGen.Main
import SourceGen.Script.Generator
import SourceGen.Script.Plugin
import SourceGen.Proofs.Cascades
import SourceGen.Proofs.Project.Regeneration
import SourceGen.Proofs.Suppression
import SourceGen.Proofs.Batch.Asking
import SourceGen.Proofs.Batch.Scheduling
import SourceGen.Proofs.GeneratorEdits
import SourceGen.Proofs.WorkSets
import SourceGen.Proofs.Batch.Writing
import SourceGen.Proofs.Deferrals
import SourceGen.Proofs.Requests
import SourceGen.Proofs.OwnOutputs
import SourceGen.Proofs.Batch.Isolation
import SourceGen.Proofs.Failures
import SourceGen.Proofs.FileFrame
import SourceGen.Proofs.Idempotence
import SourceGen.Proofs.FanOut
import SourceGen.Proofs.Discoveries
import SourceGen.Proofs.Duplicates
import SourceGen.Proofs.ShortNames
import SourceGen.Proofs.Observers
import SourceGen.Proofs.OutputOwners
import SourceGen.Proofs.FileSystem.Protection
import SourceGen.Proofs.DuplicateLabels
import SourceGen.Proofs.FaultLabels
import SourceGen.Proofs.ForcedOutputs
import SourceGen.Proofs.ForcedRequests
import SourceGen.Proofs.Emissions
import SourceGen.Proofs.NormalForms
import SourceGen.Proofs.OutputPlacement
import SourceGen.Proofs.SourceFilters
import SourceGen.Proofs.AnnouncedOutputs
import SourceGen.Proofs.Lookups
import SourceGen.Proofs.Encodings
