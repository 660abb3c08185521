import EntityGraph.Command.Arguments
import EntityGraph.Command.LogFilter
import EntityGraph.Command.Run
import EntityGraph.Configuration
import EntityGraph.Error
import EntityGraph.Eventual
import EntityGraph.Execution.Execute
import EntityGraph.Execution.Executing
import EntityGraph.Execution.Introspection
import EntityGraph.Execution.Response
import EntityGraph.Http.Body
import EntityGraph.Http.MediaType
import EntityGraph.Http.Multipart
import EntityGraph.Http.Service
import EntityGraph.Inspect
import EntityGraph.Json.Basic
import EntityGraph.Json.Reader
import EntityGraph.Json.Text
import EntityGraph.Key
import EntityGraph.KeyProjection
import EntityGraph.Language.Declaration
import EntityGraph.Language.Diagnosis
import EntityGraph.Language.Grammar
import EntityGraph.Language.GrammarRule
import EntityGraph.Language.Lexical
import EntityGraph.Language.Position
import EntityGraph.Language.Query
import EntityGraph.Language.Token
import EntityGraph.Language.TypeRef
import EntityGraph.Language.Value
import EntityGraph.Main
import EntityGraph.Number.Double
import EntityGraph.Number.Floating
import EntityGraph.Number.Shortest
import EntityGraph.QueryByKey
import EntityGraph.Regex.Basic
import EntityGraph.Regex.CharSet
import EntityGraph.Regex.Fault
import EntityGraph.Regex.Reader
import EntityGraph.Request.InputCheck
import EntityGraph.Request.Rules
import EntityGraph.Request.Scope
import EntityGraph.Request.Suggestion
import EntityGraph.Request.Violation
import EntityGraph.Request.Visit
import EntityGraph.Resolver
import EntityGraph.Schema.Assembly
import EntityGraph.Schema.Basic
import EntityGraph.Schema.Registry
import EntityGraph.Schema.Text
import EntityGraph.Schema.Violation
import EntityGraph.Selection
import EntityGraph.Settings.Basic
import EntityGraph.Settings.Layers
import EntityGraph.Settings.Value
import EntityGraph.Store.Fetcher
import EntityGraph.Store.Files
import EntityGraph.Store.Lookup
import EntityGraph.Store.Path
import EntityGraph.Store.Storage
import EntityGraph.Text.Decimal
import EntityGraph.Text.LetterCase
import EntityGraph.Text.LetterTable
import EntityGraph.Text.Quoted
import EntityGraph.Text.Shown
import EntityGraph.Text.WhiteSpace
import EntityGraph.Toml.Basic
import EntityGraph.Toml.Reader
import EntityGraph.Toml.Scalar
import EntityGraph.Trace
import EntityGraph.TypeMap
import EntityGraph.TypeSystem
import EntityGraph.Proofs.Number.Shortest
import EntityGraph.Proofs.Number.Numeral
import EntityGraph.Proofs.Json.Order
import EntityGraph.Proofs.Json.Numbers
import EntityGraph.Proofs.Json.Reread
import EntityGraph.Proofs.Json.Read
import EntityGraph.Proofs.Key
import EntityGraph.Proofs.KeyProjection.Project
import EntityGraph.Proofs.KeyProjection.Select
import EntityGraph.Proofs.Generating
import EntityGraph.Proofs.GlobalId
import EntityGraph.Proofs.Resolver.Answers
import EntityGraph.Proofs.Resolver.ByKey
import EntityGraph.Proofs.Schema.Keys
import EntityGraph.Proofs.Schema.NamesOnce
import EntityGraph.Proofs.Schema.Rearranged
import EntityGraph.Proofs.Selection.Spelled
import EntityGraph.Proofs.TypeSystem.Extending
import EntityGraph.Proofs.TypeSystem.Loaded
import EntityGraph.Proofs.Schema.References
import EntityGraph.Proofs.Schema.Registered
import EntityGraph.Proofs.Resolver.Confined
import EntityGraph.Proofs.Resolver.Spelling
import EntityGraph.Proofs.Resolver.Growing
import EntityGraph.Proofs.Schema.Nodes
import EntityGraph.Proofs.KeyProjection.Resolved
import EntityGraph.Proofs.Resolver.Shaped
import EntityGraph.Proofs.Resolver.Origin
import EntityGraph.Proofs.Resolver.Asked
import EntityGraph.Proofs.Schema.Described
import EntityGraph.Proofs.QueryByKey.Mirrored
import EntityGraph.Proofs.QueryByKey.FieldNames
import EntityGraph.Proofs.QueryByKey.Counted
import EntityGraph.Proofs.Resolver.Conforming
import EntityGraph.Proofs.Store.Below
import EntityGraph.Proofs.Settings.Overriding
import EntityGraph.Proofs.TypeMap.Kinds
import EntityGraph.Proofs.Resolver.Failing
