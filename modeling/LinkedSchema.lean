import LinkedSchema.OrderedMap
import LinkedSchema.Number.Binary64
import LinkedSchema.Number.Shortest
import LinkedSchema.Number.Decimal
import LinkedSchema.Text.Quoted
import LinkedSchema.Text.Utf8
import LinkedSchema.Fingerprint
import LinkedSchema.Source.Location
import LinkedSchema.Definition.Path
import LinkedSchema.Definition.TypeExpr
import LinkedSchema.Value
import LinkedSchema.Document.Reader
import LinkedSchema.Document.SchemaDocument
import LinkedSchema.Document.Executable
import LinkedSchema.Json.Read
import LinkedSchema.Definition.Merge
import LinkedSchema.Definition.BuiltIn
import LinkedSchema.Schema.Link
import LinkedSchema.Cache.Calls
import LinkedSchema.Cache.Documents
import LinkedSchema.Cache.DocumentCalls
import LinkedSchema.Json.Options
import LinkedSchema.Main
import LinkedSchema.Proofs.Pairing
import LinkedSchema.Proofs.OrderedMap
import LinkedSchema.Proofs.Building.Steps
import LinkedSchema.Proofs.Building.Nodes
import LinkedSchema.Proofs.Building.References
import LinkedSchema.Proofs.Building.Descriptions
import LinkedSchema.Proofs.Loading.Visits
import LinkedSchema.Proofs.Loading.Reachable
import LinkedSchema.Proofs.Loading.Contents
import LinkedSchema.Proofs.Linking.Mentions
import LinkedSchema.Proofs.Linking.Phases
import LinkedSchema.Proofs.Linking.Resolution
import LinkedSchema.Proofs.Linking.Merging
import LinkedSchema.Proofs.Linking.Annotations
import LinkedSchema.Proofs.Linking.Roots
import LinkedSchema.Proofs.Acceptance.Conditions
import LinkedSchema.Proofs.Acceptance.Merged
import LinkedSchema.Proofs.Acceptance.Acceptance
import LinkedSchema.Proofs.Cache.Recency
import LinkedSchema.Proofs.Cache.Steps
import LinkedSchema.Proofs.Cache.Consistency
import LinkedSchema.Proofs.Cache.SingleFlight
import LinkedSchema.Proofs.Cache.Turns
import LinkedSchema.Proofs.Cache.Creators
import LinkedSchema.Proofs.Cache.Waiters
import LinkedSchema.Proofs.FirstOccurrences
import LinkedSchema.Proofs.Cache.Sessions
import LinkedSchema.Proofs.Loading.Histories
import LinkedSchema.Proofs.Building.Faults
import LinkedSchema.Proofs.Loading.Reports
import LinkedSchema.Proofs.Linking.Rejection
import LinkedSchema.Proofs.Linking.Assembly
import LinkedSchema.Proofs.Loading.Gathering
import LinkedSchema.Proofs.Acceptance.Assembled
import LinkedSchema.Proofs.Order.Coherence
import LinkedSchema.Proofs.Order.Unnumbered
import LinkedSchema.Proofs.Order.Agreement
import LinkedSchema.Proofs.Order.Independence
import LinkedSchema.Proofs.Loading.WellFormed
import LinkedSchema.Proofs.Linking.WellFormed
import LinkedSchema.Proofs.Linking.Ancestry
import LinkedSchema.Proofs.Loading.Sequences
import LinkedSchema.Proofs.Linking.Downgrading
import LinkedSchema.Proofs.Cache.Transparency
import LinkedSchema.Proofs.Linking.Associativity
import LinkedSchema.Proofs.Linking.Conflicts
import LinkedSchema.Proofs.Linking.Repetition
import LinkedSchema.Proofs.Linking.ForeignReferences
import LinkedSchema.Proofs.Building.Symbols
import LinkedSchema.Proofs.Building.Bindings
import LinkedSchema.Proofs.Building.Mirrors
import LinkedSchema.Proofs.Building.Deprecation
import LinkedSchema.Proofs.Linking.Occurrences
import LinkedSchema.Proofs.Linking.Verdicts
import LinkedSchema.Proofs.Linking.RootTypes
import LinkedSchema.Proofs.Linking.DefaultRoots
import LinkedSchema.Proofs.Linking.AppliedDirectives
import LinkedSchema.Proofs.Linking.UndefinedBases
import LinkedSchema.Proofs.Acceptance.BuiltIns
import LinkedSchema.Proofs.Text.Readable
import LinkedSchema.Proofs.Value.Parts
import LinkedSchema.Proofs.Value.Text
import LinkedSchema.Proofs.Document.Readers
import LinkedSchema.Proofs.Document.Literals
import LinkedSchema.Proofs.Json.Text
import LinkedSchema.Proofs.Json.Forms
import LinkedSchema.Proofs.Json.Literals
import LinkedSchema.Proofs.Json.Definitions
import LinkedSchema.Proofs.Cache.Progress
import LinkedSchema.Proofs.Cache.Retention
import LinkedSchema.Proofs.Parsing.Steps
import LinkedSchema.Proofs.Parsing.Records
import LinkedSchema.Proofs.Parsing.Completion
import LinkedSchema.Proofs.Parsing.InOrder
import LinkedSchema.Proofs.Parsing.Agreement
import LinkedSchema.Proofs.Parsing.Distinct
