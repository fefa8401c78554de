import CrudGraph.Text.Case
import CrudGraph.Text.Quoted
import CrudGraph.Table
import CrudGraph.Decimal.Text
import CrudGraph.Json.Reader
import CrudGraph.Json.Writer
import CrudGraph.Reading.Layout
import CrudGraph.Model.Response
import CrudGraph.Omission
import CrudGraph.Document.Operation
import CrudGraph.Configuration.Written
import CrudGraph.Strategy
import CrudGraph.Resource
import CrudGraph.Request.Answer
import CrudGraph.Request.Filter
import CrudGraph.Request.Selected
import CrudGraph.Request.Params
import CrudGraph.Request.SortKey
import CrudGraph.Request.Builder
import CrudGraph.Yaml.Document
import CrudGraph.Sdl.Schema
import CrudGraph.Configuration.Loaded
import CrudGraph.Configuration.JsonSchema
import CrudGraph.Proofs.FreshName
import CrudGraph.Proofs.Reference
import CrudGraph.Proofs.Selection.Origin
import CrudGraph.Proofs.Selection.Walk
import CrudGraph.Proofs.Selection.Validity
import CrudGraph.Proofs.Selection.Termination
import CrudGraph.Proofs.Selection.Account
import CrudGraph.Proofs.Draft
import CrudGraph.Proofs.Batch.Calls
import CrudGraph.Proofs.Context
import CrudGraph.Proofs.Batch.Request
import CrudGraph.Proofs.Build
import CrudGraph.Proofs.Identifier
import CrudGraph.Proofs.Batch.RoundTrip
import CrudGraph.Proofs.Listing
import CrudGraph.Proofs.Consistency
import CrudGraph.Proofs.History
import CrudGraph.Proofs.Selection.Identity
import CrudGraph.Proofs.Single
import CrudGraph.Proofs.Conformance
import CrudGraph.Proofs.Batch.OneByOne
import CrudGraph.Proofs.Written
import CrudGraph.Proofs.Intake
import CrudGraph.Proofs.Page
import CrudGraph.Proofs.Clauses
import CrudGraph.Proofs.Conjunction
import CrudGraph.Proofs.Selection.Leaves
import CrudGraph.Proofs.Relation
import CrudGraph.Proofs.Capability
import CrudGraph.Proofs.Quiet
import CrudGraph.Proofs.Absence
import CrudGraph.Proofs.WriteBack
import CrudGraph.Proofs.Pagination
import CrudGraph.Proofs.Key
import CrudGraph.Proofs.Ordering
import CrudGraph.Proofs.Matching
import CrudGraph.Proofs.Encoding
import CrudGraph.Proofs.Input
import CrudGraph.Proofs.Operator
import CrudGraph.Proofs.Wrapping
import CrudGraph.Proofs.Transcript
import CrudGraph.Proofs.Supply
import CrudGraph.Proofs.Record
import CrudGraph.Proofs.Loosening
import CrudGraph.Proofs.Parameters
