import ComponentFlow.Assembly.Assemble
import ComponentFlow.Assembly.BoundContent
import ComponentFlow.Assembly.Build
import ComponentFlow.Assembly.Condition
import ComponentFlow.Assembly.Layout
import ComponentFlow.Assembly.Markup
import ComponentFlow.Assembly.NameIndex
import ComponentFlow.Assembly.Reference
import ComponentFlow.Assembly.Routines
import ComponentFlow.Assoc
import ComponentFlow.AtomScan.Scan
import ComponentFlow.AtomScan.Syntax
import ComponentFlow.CommandLine.Arguments
import ComponentFlow.CommandLine.Help
import ComponentFlow.CommandLine.Run
import ComponentFlow.CommandLine.Switch
import ComponentFlow.Component.Basic
import ComponentFlow.Component.Document
import ComponentFlow.Component.Fault
import ComponentFlow.Component.File
import ComponentFlow.Component.Format
import ComponentFlow.Component.Reader
import ComponentFlow.Component.RenderTree
import ComponentFlow.Decimal.Format
import ComponentFlow.Decimal.Read
import ComponentFlow.Decimal.Shortest
import ComponentFlow.Diagram.Basic
import ComponentFlow.Diagram.Contribution
import ComponentFlow.Diagram.Merge
import ComponentFlow.Diagram.Metadata
import ComponentFlow.Diagram.Reading
import ComponentFlow.Diagram.Written
import ComponentFlow.File.Access
import ComponentFlow.File.Path
import ComponentFlow.File.Tree
import ComponentFlow.Hook.Builtin
import ComponentFlow.Hook.Classifier
import ComponentFlow.Hook.Invocation
import ComponentFlow.Hook.Naming
import ComponentFlow.Hook.Oracle
import ComponentFlow.Journal
import ComponentFlow.Logging
import ComponentFlow.Main
import ComponentFlow.Position
import ComponentFlow.Processor.Basic
import ComponentFlow.Processor.Custom
import ComponentFlow.Processor.Discovery
import ComponentFlow.Processor.Forms
import ComponentFlow.Processor.Jotai
import ComponentFlow.Processor.LibraryResults
import ComponentFlow.Processor.Navigation
import ComponentFlow.Processor.Nodes
import ComponentFlow.Processor.React
import ComponentFlow.Processor.Registry
import ComponentFlow.Processor.Remote
import ComponentFlow.Processor.ResultShape
import ComponentFlow.Processor.Stores
import ComponentFlow.Processor.Svelte
import ComponentFlow.Processor.Vue
import ComponentFlow.Rendering
import ComponentFlow.Run
import ComponentFlow.Service
import ComponentFlow.Session
import ComponentFlow.Settings
import ComponentFlow.Summary
import ComponentFlow.Text.Blank
import ComponentFlow.Text.Case
import ComponentFlow.Text.Cut
import ComponentFlow.Text.Digit
import ComponentFlow.Text.Glob
import ComponentFlow.Text.Names
import ComponentFlow.Text.Printable
import ComponentFlow.Text.Quoted
import ComponentFlow.Text.Span
import ComponentFlow.Text.Word
import ComponentFlow.Timestamp
import ComponentFlow.TypeText.Callable
import ComponentFlow.TypeText.Members
import ComponentFlow.TypeText.Scan
import ComponentFlow.TypeText.Split
import ComponentFlow.Value.Basic
import ComponentFlow.Value.Display
import ComponentFlow.Value.Json.Reader
import ComponentFlow.Value.Json.Writer
import ComponentFlow.Value.Yaml.Reader
import ComponentFlow.Value.Yaml.Scalar
import ComponentFlow.Value.Yaml.Token
import ComponentFlow.Value.Yaml.Tree
import ComponentFlow.Value.Yaml.Writer
import ComponentFlow.Proofs.Ids
import ComponentFlow.Proofs.Commit
import ComponentFlow.Proofs.Builds
import ComponentFlow.Proofs.Merging
import ComponentFlow.Proofs.MergedLabels
import ComponentFlow.Proofs.Names
import ComponentFlow.Proofs.Routines
import ComponentFlow.Proofs.Layouts
import ComponentFlow.Proofs.Pruning
import ComponentFlow.Proofs.Requests
import ComponentFlow.Proofs.Assembling
import ComponentFlow.Proofs.MergedValues
import ComponentFlow.Proofs.Records
import ComponentFlow.Proofs.Contributions
import ComponentFlow.Proofs.Builtins
import ComponentFlow.Proofs.Legibility
import ComponentFlow.Proofs.Discovery
import ComponentFlow.Proofs.Runs
import ComponentFlow.Proofs.Handlers
import ComponentFlow.Proofs.Census
import ComponentFlow.Proofs.Arrangement
import ComponentFlow.Proofs.Occupancy
import ComponentFlow.Proofs.Tracing
import ComponentFlow.Proofs.EdgeTypes
import ComponentFlow.Proofs.Updates
import ComponentFlow.Proofs.EventLabels
import ComponentFlow.Proofs.Traversal
import ComponentFlow.Proofs.Reading
import ComponentFlow.Proofs.JsonValues
import ComponentFlow.Proofs.Failures
import ComponentFlow.Proofs.Operations
import ComponentFlow.Proofs.Histories
import ComponentFlow.Proofs.Numbering
import ComponentFlow.Proofs.AgreeingBuilds
import ComponentFlow.Proofs.Outcomes
import ComponentFlow.Proofs.Noninterference
import ComponentFlow.Proofs.Catalogue
import ComponentFlow.Proofs.Sharing
import ComponentFlow.Proofs.MergedRecords
import ComponentFlow.Proofs.SharedVariables
import ComponentFlow.Proofs.SharedLinks
import ComponentFlow.Proofs.AssembledIdentities
import ComponentFlow.Proofs.SharedRuns
import ComponentFlow.Proofs.Roles
import ComponentFlow.Proofs.Sites
import ComponentFlow.Proofs.Visits
import ComponentFlow.Proofs.Rooms
import ComponentFlow.Proofs.Branches
import ComponentFlow.Proofs.Clusters
import ComponentFlow.Proofs.LoopItems
import ComponentFlow.Proofs.Trimming
import ComponentFlow.Proofs.Identifiers
import ComponentFlow.Proofs.Scans
import ComponentFlow.Proofs.CallableTypes
import ComponentFlow.Proofs.Splitting
import ComponentFlow.Proofs.Declarations
import ComponentFlow.Proofs.ReferredNames
import ComponentFlow.Proofs.Accesses
import ComponentFlow.Proofs.Untouched
import ComponentFlow.Proofs.Servers
import ComponentFlow.Proofs.AtomRecords
import ComponentFlow.Proofs.Choice
import ComponentFlow.Proofs.AtomDeclarations
import ComponentFlow.Proofs.Precedence
