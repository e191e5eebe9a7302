import ContractDocs.Build
import ContractDocs.CommandLine.Run
import ContractDocs.Config.Document
import ContractDocs.Files.Snapshot
import ContractDocs.Main
import ContractDocs.Proofs.Signature.Spelling
import ContractDocs.Proofs.Signature.Grouping
import ContractDocs.Proofs.Signature.Slot
import ContractDocs.Proofs.Signature.Canonical
import ContractDocs.Proofs.Registry.Refinement
import ContractDocs.Proofs.Source.Nesting
import ContractDocs.Proofs.Source.Outputs
import ContractDocs.Proofs.Docs.TypeList
import ContractDocs.Proofs.Text.Cuts
import ContractDocs.Proofs.Text.Lossy
import ContractDocs.Proofs.Docs.Target
import ContractDocs.Proofs.Registry.Duplicates
import ContractDocs.Proofs.Docs.Resolution
import ContractDocs.Proofs.Docs.Identifier
import ContractDocs.Proofs.Signature.WellFormed
import ContractDocs.Proofs.Signature.Grammar
import ContractDocs.Proofs.Files.Lookup
import ContractDocs.Proofs.Index.Isolation
import ContractDocs.Proofs.Index.Walk
import ContractDocs.Proofs.Index.Rebuild
import ContractDocs.Proofs.Index.Repeats
import ContractDocs.Proofs.Signature.Legible
import ContractDocs.Proofs.Source.Header
import ContractDocs.Proofs.Signature.Gaps
import ContractDocs.Proofs.Docs.Outline
import ContractDocs.Proofs.Signature.Division
import ContractDocs.Proofs.Docs.Tags
import ContractDocs.Proofs.Docs.Partition
import ContractDocs.Proofs.CommandLine.Signature
import ContractDocs.Proofs.Source.Names
import ContractDocs.Proofs.Source.Comments
import ContractDocs.Proofs.Source.Modifier
import ContractDocs.Proofs.Report.Groups
import ContractDocs.Proofs.Files.Path
import ContractDocs.Proofs.Text.ByteOrder
import ContractDocs.Proofs.Index.Discovery
import ContractDocs.Proofs.Docs.Overload
import ContractDocs.Proofs.Text.Offsets
import ContractDocs.Proofs.Signature.Matching
import ContractDocs.Proofs.Source.Calls
