import EtlSurvey.Config
import EtlSurvey.ConfigFile
import EtlSurvey.Container.Basic
import EtlSurvey.Container.Folder
import EtlSurvey.Dictionary
import EtlSurvey.Digest.Sha256
import EtlSurvey.Expression.Reference
import EtlSurvey.Expression.Template
import EtlSurvey.Finding.Cause
import EtlSurvey.Finding.Code
import EtlSurvey.Finding.Diagnostic
import EtlSurvey.Finding.Note
import EtlSurvey.Graph.ControlFlow
import EtlSurvey.Graph.Invocation
import EtlSurvey.Graph.Traversal
import EtlSurvey.Json.Printer
import EtlSurvey.Json.Reader
import EtlSurvey.Json.Record
import EtlSurvey.Json.Value
import EtlSurvey.Kind.Component
import EtlSurvey.Kind.Condition
import EtlSurvey.Kind.Connection
import EtlSurvey.Kind.Executable
import EtlSurvey.Kind.Protection
import EtlSurvey.Kind.Sql
import EtlSurvey.Markup.Document
import EtlSurvey.Markup.Element
import EtlSurvey.Markup.Event
import EtlSurvey.Markup.Reference
import EtlSurvey.Markup.Tag
import EtlSurvey.Markup.Token
import EtlSurvey.Record.Package
import EtlSurvey.Record.PackageFormat
import EtlSurvey.Record.Project
import EtlSurvey.Record.ProjectFormat
import EtlSurvey.Report.File
import EtlSurvey.Report.Format
import EtlSurvey.Report.Package
import EtlSurvey.Report.Project
import EtlSurvey.Secrecy.Policy
import EtlSurvey.Storage
import EtlSurvey.Survey.Connections
import EtlSurvey.Survey.Constraints
import EtlSurvey.Survey.Dependencies
import EtlSurvey.Survey.Executables
import EtlSurvey.Survey.Metadata
import EtlSurvey.Survey.Package
import EtlSurvey.Survey.PackageFile
import EtlSurvey.Survey.Pipeline
import EtlSurvey.Survey.Project
import EtlSurvey.Survey.ProjectFile
import EtlSurvey.Survey.Review
import EtlSurvey.Survey.Values
import EtlSurvey.Text.Basic
import EtlSurvey.Text.Case
import EtlSurvey.Text.FileName
import EtlSurvey.Text.Glob
import EtlSurvey.Text.Percent
import EtlSurvey.Text.Quoted
import EtlSurvey.Text.Utf8
import EtlSurvey.Text.Word
import EtlSurvey.Toml.Document
import EtlSurvey.Toml.Literal
import EtlSurvey.Toml.Printer
import EtlSurvey.Toml.Reader
import EtlSurvey.Toml.Value
import EtlSurvey.Zip.Archive
import EtlSurvey.Zip.Field
import EtlSurvey.Zip.Inflate
import EtlSurvey.Zip.Listing
import EtlSurvey.Zip.PrefixCode
import EtlSurvey.Zip.Record
import EtlSurvey.Proofs.Lists
import EtlSurvey.Proofs.Text.Utf8
import EtlSurvey.Proofs.Text.Percent
import EtlSurvey.Proofs.Dictionary
import EtlSurvey.Proofs.Json.RoundTrip
import EtlSurvey.Proofs.Json.Field
import EtlSurvey.Proofs.Record.Stored
import EtlSurvey.Proofs.Graph.Cycle
import EtlSurvey.Proofs.Graph.Peel
import EtlSurvey.Proofs.Graph.ControlFlow
import EtlSurvey.Proofs.Graph.SimplePaths
import EtlSurvey.Proofs.Graph.Breadth
import EtlSurvey.Proofs.Graph.Reach
import EtlSurvey.Proofs.Graph.Invocation
import EtlSurvey.Proofs.Secrecy.Redacted
import EtlSurvey.Proofs.Secrecy.Indistinguishable
import EtlSurvey.Proofs.Executables.Outline
import EtlSurvey.Proofs.Executables.Reading
import EtlSurvey.Proofs.Executables.Hierarchy
import EtlSurvey.Proofs.Executables.Tally
import EtlSurvey.Proofs.Executables.Retention
import EtlSurvey.Proofs.Executables.Coverage
import EtlSurvey.Proofs.Dependencies.Condition
import EtlSurvey.Proofs.Pipeline.Resolution
import EtlSurvey.Proofs.Pipeline.Wiring
import EtlSurvey.Proofs.Pipeline.Owners
import EtlSurvey.Proofs.Survey.EdgeReferences
import EtlSurvey.Proofs.Survey.Configuration
import EtlSurvey.Proofs.Survey.Failure
import EtlSurvey.Proofs.Executables.Visits
import EtlSurvey.Proofs.Survey.Scopes
import EtlSurvey.Proofs.Executables.Mentions
import EtlSurvey.Proofs.Project.Sources
import EtlSurvey.Proofs.Project.Overrides
import EtlSurvey.Proofs.Project.Isolation
import EtlSurvey.Proofs.Project.Lookup
import EtlSurvey.Proofs.Project.Invocations
import EtlSurvey.Proofs.Text.FileName
import EtlSurvey.Proofs.Project.Exclusion
import EtlSurvey.Proofs.Markup.Nodes
import EtlSurvey.Proofs.Markup.Skeleton
import EtlSurvey.Proofs.Markup.Scope
import EtlSurvey.Proofs.Markup.Truncation
import EtlSurvey.Proofs.Markup.Respelling
import EtlSurvey.Proofs.Survey.Masked
import EtlSurvey.Proofs.Survey.MaskedReaders
import EtlSurvey.Proofs.Survey.Prefixes
import EtlSurvey.Proofs.Project.Counters
import EtlSurvey.Proofs.Survey.Extraction
import EtlSurvey.Proofs.Secrecy.Log
import EtlSurvey.Proofs.Project.Problems
import EtlSurvey.Proofs.Secrecy.Marked
import EtlSurvey.Proofs.Secrecy.LooseKeys
import EtlSurvey.Proofs.Container.Tree
import EtlSurvey.Proofs.Container.Members
import EtlSurvey.Proofs.Project.Links
import EtlSurvey.Proofs.Markup.Arena
import EtlSurvey.Proofs.Markup.DocumentOrder
import EtlSurvey.Proofs.Text.Lower
import EtlSurvey.Proofs.Text.Glob
import EtlSurvey.Proofs.Pipeline.Register
import EtlSurvey.Proofs.Dependencies.Tasks
import EtlSurvey.Proofs.Expression.References
import EtlSurvey.Proofs.Expression.Rewriting
