import StructuralLint.Adapter.Basic
import StructuralLint.Adapter.ModelDocument
import StructuralLint.Breakdown
import StructuralLint.Cli.Arguments
import StructuralLint.Cli.Collect
import StructuralLint.Cli.Disk
import StructuralLint.Cli.Glob
import StructuralLint.Cli.Help
import StructuralLint.Cli.Ignore
import StructuralLint.Cli.Invocation
import StructuralLint.Cli.Listing
import StructuralLint.Cli.Run
import StructuralLint.Cli.UserIgnore
import StructuralLint.Decimal.Binary
import StructuralLint.Decimal.Plain
import StructuralLint.Decimal.Shortest
import StructuralLint.Digest.Xxh3
import StructuralLint.Duplication.Catalog
import StructuralLint.Duplication.Cluster
import StructuralLint.Duplication.Detect
import StructuralLint.Duplication.Fingerprint
import StructuralLint.Duplication.Forest
import StructuralLint.Engine
import StructuralLint.Finding
import StructuralLint.Json.Numeral
import StructuralLint.Json.Printer
import StructuralLint.Json.Reader
import StructuralLint.Json.Value
import StructuralLint.Lookup
import StructuralLint.Main
import StructuralLint.Metric
import StructuralLint.Model.Basic
import StructuralLint.Model.Builder
import StructuralLint.Model.Document
import StructuralLint.Model.Ingest
import StructuralLint.Model.Node
import StructuralLint.Order
import StructuralLint.Report
import StructuralLint.Rule.Arguments
import StructuralLint.Rule.Basic
import StructuralLint.Rule.Builtin
import StructuralLint.Rule.Comments
import StructuralLint.Rule.Info
import StructuralLint.Rule.MagicLiteral
import StructuralLint.Rule.Name
import StructuralLint.Rule.Naming
import StructuralLint.Rule.Navigation
import StructuralLint.Rule.NegatedCondition
import StructuralLint.Rule.Registry
import StructuralLint.Rule.Responsibility
import StructuralLint.Rule.SimilarNames
import StructuralLint.Rule.Size
import StructuralLint.Rule.TemporalCoupling
import StructuralLint.Rule.VerticalSeparation
import StructuralLint.Settings.Basic
import StructuralLint.Settings.Reader
import StructuralLint.Settings.Resolved
import StructuralLint.Source.Path
import StructuralLint.Source.Range
import StructuralLint.Source.Span
import StructuralLint.Suppression.Basic
import StructuralLint.Suppression.Marker
import StructuralLint.Symbols.Resolve
import StructuralLint.Symbols.Scoping
import StructuralLint.Symbols.Table
import StructuralLint.Text.Char
import StructuralLint.Text.CodeLike
import StructuralLint.Text.EditDistance
import StructuralLint.Text.Quoted
import StructuralLint.Text.Table.Alphabetic
import StructuralLint.Text.Table.CaseIgnorable
import StructuralLint.Text.Table.Cased
import StructuralLint.Text.Table.Escaped
import StructuralLint.Text.Table.Lowercase
import StructuralLint.Text.Table.Lowering
import StructuralLint.Text.Table.Numeric
import StructuralLint.Text.Table.Uppercase
import StructuralLint.Text.Table.Word
import StructuralLint.Text.Words
import StructuralLint.Threshold
import StructuralLint.Toml.Reader
import StructuralLint.Toml.Value
import StructuralLint.Proofs.Order
import StructuralLint.Proofs.Sorting
import StructuralLint.Proofs.Merging
import StructuralLint.Proofs.Tree
import StructuralLint.Proofs.Ingestion
import StructuralLint.Proofs.Anchors
import StructuralLint.Proofs.DuplicationOrder
import StructuralLint.Proofs.ArrivalOrder
import StructuralLint.Proofs.Cycles
import StructuralLint.Proofs.Cancellation
import StructuralLint.Proofs.DuplicationFindings
import StructuralLint.Proofs.FailedFiles
import StructuralLint.Proofs.RuleIds
import StructuralLint.Proofs.RuleSwitch
import StructuralLint.Proofs.ExactCopies
import StructuralLint.Proofs.RelatedFindings
import StructuralLint.Proofs.RepeatedConditionals
import StructuralLint.Proofs.Forests
import StructuralLint.Proofs.SimilarGroups
import StructuralLint.Proofs.SimilarClusters
import StructuralLint.Proofs.NestedFindings
import StructuralLint.Proofs.TokenText
import StructuralLint.Proofs.AlphaEquivalence
import StructuralLint.Proofs.PreOrder
import StructuralLint.Proofs.ScopeWalk
import StructuralLint.Proofs.Scopes
import StructuralLint.Proofs.Declarations
import StructuralLint.Proofs.ResolvedTable
import StructuralLint.Proofs.LexicalScoping
import StructuralLint.Proofs.References
import StructuralLint.Proofs.SymbolTable
import StructuralLint.Proofs.PredicateText
import StructuralLint.Proofs.ConditionalChains
import StructuralLint.Proofs.SettingsResolution
import StructuralLint.Proofs.UnknownNames
import StructuralLint.Proofs.JsonTokens
import StructuralLint.Proofs.JsonText
import StructuralLint.Proofs.ModelDocuments
import StructuralLint.Proofs.NodeCreation
import StructuralLint.Proofs.BuilderCalls
import StructuralLint.Proofs.BuilderTree
import StructuralLint.Proofs.BuilderEdits
import StructuralLint.Proofs.BuilderLayout
import StructuralLint.Proofs.WaitingComments
import StructuralLint.Proofs.BuilderOutput
import StructuralLint.Proofs.TreeOrder
import StructuralLint.Proofs.Dispatch
import StructuralLint.Proofs.Registration
import StructuralLint.Proofs.ExactDoubles
import StructuralLint.Proofs.SizeLimits
import StructuralLint.Proofs.SourceOrder
import StructuralLint.Proofs.AnchoredFindings
import StructuralLint.Proofs.RuleFailures
import StructuralLint.Proofs.SelfCopies
import StructuralLint.Proofs.IfChains
import StructuralLint.Proofs.OwnCode
import StructuralLint.Proofs.ControlNesting
import StructuralLint.Proofs.AbstractionDistance
import StructuralLint.Proofs.AccessChains
import StructuralLint.Proofs.LineCounts
import StructuralLint.Proofs.ParentLinks
import StructuralLint.Proofs.FieldWriters
import StructuralLint.Proofs.EditRows
import StructuralLint.Proofs.ScopeChains
import StructuralLint.Proofs.SimilarPairs
import StructuralLint.Proofs.EditScripts
import StructuralLint.Proofs.FileEndings
import StructuralLint.Proofs.AsciiText
import StructuralLint.Proofs.Spellings
import StructuralLint.Proofs.MarkerNames
import StructuralLint.Proofs.WordWalk
import StructuralLint.Proofs.Breakdowns
import StructuralLint.Proofs.EndlessWalks
import StructuralLint.Proofs.RunFindings
import StructuralLint.Proofs.Measures
