import WideColumn.Application
import WideColumn.Builder
import WideColumn.Builder.Body
import WideColumn.Builder.Entry
import WideColumn.Builder.Functions
import WideColumn.Builder.Method
import WideColumn.Builder.Plan
import WideColumn.Builder.Reading
import WideColumn.Builder.Record
import WideColumn.Builder.Writing
import WideColumn.Calendar.Date
import WideColumn.Calendar.Time
import WideColumn.Calendar.Timestamp
import WideColumn.Codec
import WideColumn.Data
import WideColumn.Data.Spoken
import WideColumn.Data.Type
import WideColumn.Declaration
import WideColumn.Declaration.Form
import WideColumn.Document
import WideColumn.Document.Json
import WideColumn.Document.Moment
import WideColumn.Document.Record
import WideColumn.Document.Toml
import WideColumn.Error
import WideColumn.Key.Component
import WideColumn.Key.Predicate
import WideColumn.Key.Range
import WideColumn.Key.Shape
import WideColumn.Mapping
import WideColumn.Network.Address
import WideColumn.Number.Binary
import WideColumn.Number.Layout
import WideColumn.Number.Shortest
import WideColumn.Profile
import WideColumn.Proofs.Builder.Chain
import WideColumn.Proofs.Builder.Columns
import WideColumn.Proofs.Builder.Entries
import WideColumn.Proofs.Builder.Failures
import WideColumn.Proofs.Builder.Families
import WideColumn.Proofs.Builder.FieldNames
import WideColumn.Proofs.Builder.FunctionNames
import WideColumn.Proofs.Builder.Identifiers
import WideColumn.Proofs.Builder.IndexQueries
import WideColumn.Proofs.Builder.ItemNames
import WideColumn.Proofs.Builder.KeyStates
import WideColumn.Proofs.Builder.LaterProfile
import WideColumn.Proofs.Builder.Legal
import WideColumn.Proofs.Builder.Meaning
import WideColumn.Proofs.Builder.MethodNames
import WideColumn.Proofs.Builder.OrderedTypes
import WideColumn.Proofs.Builder.Overloads
import WideColumn.Proofs.Builder.Plan
import WideColumn.Proofs.Builder.Selection
import WideColumn.Proofs.Builder.Sends
import WideColumn.Proofs.Builder.Slice
import WideColumn.Proofs.Builder.StateNames
import WideColumn.Proofs.Builder.TwoSided
import WideColumn.Proofs.Builder.Written
import WideColumn.Proofs.Codec
import WideColumn.Proofs.Data.Bounds
import WideColumn.Proofs.Data.Encoding
import WideColumn.Proofs.Data.Gathered
import WideColumn.Proofs.Data.Normal
import WideColumn.Proofs.Data.Order
import WideColumn.Proofs.Data.RoundTrip
import WideColumn.Proofs.Data.TotalOrder
import WideColumn.Proofs.Except
import WideColumn.Proofs.Key.Acceptance
import WideColumn.Proofs.Key.Interval
import WideColumn.Proofs.Key.Range
import WideColumn.Proofs.Key.Shape
import WideColumn.Proofs.Key.Simulation
import WideColumn.Proofs.Mapping.Failure
import WideColumn.Proofs.Mapping.RoundTrip
import WideColumn.Proofs.Pager.Order
import WideColumn.Proofs.Pager.Run
import WideColumn.Proofs.Pager.Script
import WideColumn.Proofs.Pager.Stop
import WideColumn.Proofs.Query.Call
import WideColumn.Proofs.Query.Layout
import WideColumn.Proofs.Query.Placeholders
import WideColumn.Proofs.Query.Terminal
import WideColumn.Proofs.Row
import WideColumn.Proofs.Schema.BaseMissing
import WideColumn.Proofs.Schema.Capabilities
import WideColumn.Proofs.Schema.ColumnName
import WideColumn.Proofs.Schema.Cycles
import WideColumn.Proofs.Schema.Dependencies
import WideColumn.Proofs.Schema.ErrorTree
import WideColumn.Proofs.Schema.FloatFree
import WideColumn.Proofs.Schema.KeyOrder
import WideColumn.Proofs.Schema.Locality
import WideColumn.Proofs.Schema.LookUp
import WideColumn.Proofs.Schema.Merge
import WideColumn.Proofs.Schema.Nesting
import WideColumn.Proofs.Schema.ObjectNames
import WideColumn.Proofs.Schema.Orderable
import WideColumn.Proofs.Schema.OwnColumns
import WideColumn.Proofs.Schema.Pieces
import WideColumn.Proofs.Schema.QuotedFields
import WideColumn.Proofs.Schema.Reached
import WideColumn.Proofs.Schema.Resolved
import WideColumn.Proofs.Schema.StatementNames
import WideColumn.Proofs.Schema.Stored
import WideColumn.Proofs.Schema.TypeReference
import WideColumn.Proofs.Schema.UsedTypes
import WideColumn.Proofs.Schema.View
import WideColumn.Proofs.Schema.ViewKey
import WideColumn.Proofs.Source.Laid
import WideColumn.Proofs.Source.Name
import WideColumn.Proofs.Type.Denotation
import WideColumn.Proofs.Type.Node
import WideColumn.Proofs.Type.Position
import WideColumn.Proofs.Value.StrictOrder
import WideColumn.Proofs.Value.TextOrder
import WideColumn.Query
import WideColumn.Query.FunctionCall
import WideColumn.Query.Run
import WideColumn.Row
import WideColumn.Sample
import WideColumn.Schema
import WideColumn.Schema.Capabilities
import WideColumn.Schema.Ddl
import WideColumn.Schema.ErrorTree
import WideColumn.Schema.FromDeclaration
import WideColumn.Schema.Model
import WideColumn.Schema.Naming
import WideColumn.Schema.Resolution
import WideColumn.Schema.Rules
import WideColumn.Schema.Rules.Entity
import WideColumn.Schema.Rules.Indexed
import WideColumn.Schema.Rules.Key
import WideColumn.Schema.Rules.Names
import WideColumn.Schema.Rules.Nesting
import WideColumn.Schema.Rules.View
import WideColumn.Schema.Violation
import WideColumn.Session
import WideColumn.Settings
import WideColumn.Slice
import WideColumn.Source.Definition
import WideColumn.Source.Expression
import WideColumn.Source.Generic
import WideColumn.Source.Grammar
import WideColumn.Source.Item
import WideColumn.Source.Layout
import WideColumn.Source.Literal
import WideColumn.Source.Member
import WideColumn.Source.Operator
import WideColumn.Source.Path
import WideColumn.Source.Pattern
import WideColumn.Source.Reader
import WideColumn.Source.Statement
import WideColumn.Source.Tree
import WideColumn.Source.Type
import WideColumn.Source.Whole
import WideColumn.Source.Word
import WideColumn.Statement
import WideColumn.Text.CodeSet
import WideColumn.Text.LetterCase
import WideColumn.Text.Quoted
import WideColumn.Text.Scan
import WideColumn.Text.Words
import WideColumn.Type.Expression
import WideColumn.Type.Parser
import WideColumn.Type.Scalar
import WideColumn.Type.Shape
import WideColumn.Type.Unwrap
import WideColumn.Uuid
import WideColumn.Value
import WideColumn.Value.Order
import WideColumn.Value.Spoken
import WideColumn.Value.Tagged
