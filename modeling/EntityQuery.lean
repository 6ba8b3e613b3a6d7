import EntityQuery.Id
import EntityQuery.Table
import EntityQuery.Schema
import EntityQuery.Value
import EntityQuery.Error
import EntityQuery.Decimal.Numeral
import EntityQuery.Decimal.Shortest
import EntityQuery.Decimal.Reading
import EntityQuery.Text.CaseTable
import EntityQuery.Text.Lowercase
import EntityQuery.Text.UnprintableTable
import EntityQuery.Text.Quoted
import EntityQuery.Text.Search
import EntityQuery.Text.Operand
import EntityQuery.Json.Syntax
import EntityQuery.Json.Text
import EntityQuery.Json.Lexer
import EntityQuery.Json.Parser
import EntityQuery.Json.Form
import EntityQuery.Encoding.Value
import EntityQuery.Encoding.Schema
import EntityQuery.Encoding.Condition
import EntityQuery.Record
import EntityQuery.TypedRead
import EntityQuery.Condition.Basic
import EntityQuery.Primitive
import EntityQuery.Condition.Display
import EntityQuery.Condition.View
import EntityQuery.Predicate.Basic
import EntityQuery.Predicate.Display
import EntityQuery.Predicate.Demand
import EntityQuery.Predicate.Resolve
import EntityQuery.Session
import EntityQuery.Action
import EntityQuery.Engine
import EntityQuery.Query
import EntityQuery.QueryBuilder
import EntityQuery.Memory
import EntityQuery.Spied
import EntityQuery.Script
import EntityQuery.Condition.Meaning
import EntityQuery.Proofs.FloatOrder
import EntityQuery.Proofs.Meaning
import EntityQuery.Proofs.Dispatch
import EntityQuery.Proofs.Session
import EntityQuery.Proofs.Registration
import EntityQuery.Proofs.Hosting
import EntityQuery.Proofs.Writes
import EntityQuery.Proofs.Calls
import EntityQuery.Proofs.Answers
import EntityQuery.Proofs.Conservation
import EntityQuery.Proofs.FirstFailure
import EntityQuery.Activity
import EntityQuery.Proofs.Balance
import EntityQuery.Proofs.NumberViews
import EntityQuery.Proofs.CaseFolding
import EntityQuery.Proofs.Lexing
import EntityQuery.Proofs.Parsing
import EntityQuery.Proofs.Forms
import EntityQuery.Proofs.Codec
import EntityQuery.Proofs.FloatText
import EntityQuery.Proofs.FloatRounding
import EntityQuery.Proofs.FloatReading
import EntityQuery.Proofs.ExactFloats
import EntityQuery.Proofs.StoredRecords
import EntityQuery.Proofs.StoredFloats
import EntityQuery.Proofs.Nesting
import EntityQuery.Proofs.ConditionText
import EntityQuery.Proofs.Exchanges
import EntityQuery.Proofs.FloatNumbers
import EntityQuery.Proofs.Decisions
import EntityQuery.Proofs.Partition
import EntityQuery.Proofs.TwinRuns
import EntityQuery.Proofs.TwinSessions
import EntityQuery.Proofs.TwinStores
import EntityQuery.Proofs.TwinQueries
import EntityQuery.Proofs.CarryOver
import EntityQuery.Proofs.Walk
import EntityQuery.Proofs.Acceptance
import EntityQuery.Proofs.Journals
import EntityQuery.Proofs.Interleaving
import EntityQuery.Proofs.Agreement
import EntityQuery.Proofs.FloatMagnitude
import EntityQuery.Proofs.TypedReads
import EntityQuery.Proofs.Admission
import EntityQuery.Proofs.Chaining
import EntityQuery.Proofs.Descriptions
import EntityQuery.Proofs.PostOrder
import EntityQuery.Proofs.Locality
