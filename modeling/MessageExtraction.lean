import MessageExtraction.Main
import MessageExtraction.Proofs.Extraction.Idempotence
import MessageExtraction.Proofs.Project.Catalogs
import MessageExtraction.Proofs.Message.Spelling
import MessageExtraction.Proofs.Extraction.Binding
import MessageExtraction.Proofs.Scope.Resolution
import MessageExtraction.Proofs.Descriptor.History
import MessageExtraction.Proofs.Extraction.Interface
import MessageExtraction.Proofs.Extraction.Unrelated
import MessageExtraction.Proofs.Message.Separable
import MessageExtraction.Proofs.Message.Positions
import MessageExtraction.Proofs.Descriptor.Order
import MessageExtraction.Proofs.Project.Effects
import MessageExtraction.Proofs.Project.Schedules
import MessageExtraction.Proofs.Scope.Stack
import MessageExtraction.Proofs.Extraction.FullForm
import MessageExtraction.Proofs.Extraction.Insertion
import MessageExtraction.Proofs.Extraction.ArrayForm
import MessageExtraction.Proofs.Extraction.Prologue
import MessageExtraction.Proofs.Extraction.Excluded
import MessageExtraction.Proofs.Static.Soundness
import MessageExtraction.Proofs.Report.Caret
import MessageExtraction.Proofs.Report.Order
import MessageExtraction.Proofs.Extraction.Locations
import MessageExtraction.Proofs.Extraction.Visiting
import MessageExtraction.Proofs.Catalog.Mirroring
import MessageExtraction.Proofs.Catalog.Reading
import MessageExtraction.Proofs.Scan.Overlapping
import MessageExtraction.Proofs.Import.ModulePath
import MessageExtraction.Proofs.Config.Reading
import MessageExtraction.Proofs.Scope.Hoisting
import MessageExtraction.Proofs.Config.Nearest
