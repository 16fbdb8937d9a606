import RecordStore.CommandLine
import RecordStore.Container.File
import RecordStore.Container.Memory
import RecordStore.Derive
import RecordStore.Main
import RecordStore.UserStore
import RecordStore.Proofs.Codec
import RecordStore.Proofs.Container.Copy
import RecordStore.Proofs.Container.Creation
import RecordStore.Proofs.Container.Frame
import RecordStore.Proofs.Container.Poisoning
import RecordStore.Proofs.Container.Refinement
import RecordStore.Proofs.Container.Siblings
import RecordStore.Proofs.Definition.KeyMarker
import RecordStore.Proofs.Definition.StringType
import RecordStore.Proofs.Derive.Span
import RecordStore.Proofs.Generator.Capture
import RecordStore.Proofs.Generator.Lookup
import RecordStore.Proofs.Generator.Output
import RecordStore.Proofs.Generator.Reference
import RecordStore.Proofs.Generator.Stages
import RecordStore.Proofs.Generator.Target
import RecordStore.Proofs.ModulePath.Layout
import RecordStore.Proofs.ModulePath.Segments
import RecordStore.Proofs.Source.Literal
import RecordStore.Proofs.Template.Faults
import RecordStore.Proofs.Template.NormalForm
import RecordStore.Proofs.Template.Trimming
import RecordStore.Proofs.Text.NormalSpacing
import RecordStore.Proofs.UserStore
