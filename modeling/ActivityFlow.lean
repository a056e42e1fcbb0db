import ActivityFlow.Json.Basic
import ActivityFlow.Text.Blank
import ActivityFlow.Text.Category
import ActivityFlow.Text.LetterCase
import ActivityFlow.Text.Quoted
import ActivityFlow.Text.Utf8
import ActivityFlow.Decimal.Notation
import ActivityFlow.Json.Reader
import ActivityFlow.Json.Printer
import ActivityFlow.Decoding
import ActivityFlow.Failure.Codec
import ActivityFlow.Payload
import ActivityFlow.Workflow.Codec
import ActivityFlow.Retry.Codec
import ActivityFlow.Groups.Codec
import ActivityFlow.Records
import ActivityFlow.StoreError
import ActivityFlow.Retry.Listing
import ActivityFlow.Bindings
import ActivityFlow.StoreSettings
import ActivityFlow.Run
import ActivityFlow.Pattern.Reader
import ActivityFlow.Router
import ActivityFlow.Jobs.Basic
import ActivityFlow.Jobs.Webhooks
import ActivityFlow.Jobs.Embeddings
import ActivityFlow.Jobs.Extraction
import ActivityFlow.Sources
import ActivityFlow.Url.Reader
import ActivityFlow.StoreClient
import ActivityFlow.Yaml.Token.Gap
import ActivityFlow.Yaml.Token.Plain
import ActivityFlow.Yaml.Token.Quoted
import ActivityFlow.Yaml.Token.Block
import ActivityFlow.Yaml.Token.Tag
import ActivityFlow.Yaml.Token.Lexer
import ActivityFlow.Yaml.Serial.Reader
import ActivityFlow.Yaml.Node
import ActivityFlow.Payload.Reader
import ActivityFlow.Workflow.Document
import ActivityFlow.Groups.Document
import ActivityFlow.CommandLine
import ActivityFlow.Main
import ActivityFlow.Proofs.Engine.Attempts
import ActivityFlow.Proofs.Json.Fields
import ActivityFlow.Proofs.Workflow.Succession
import ActivityFlow.Proofs.FanOut.Order
import ActivityFlow.Proofs.FanOut.Policy
import ActivityFlow.Proofs.FanOut.FirstFailure
import ActivityFlow.Proofs.Json.WellFormed
import ActivityFlow.Proofs.Lists.First
import ActivityFlow.Proofs.Workflow.Admission
import ActivityFlow.Proofs.Bindings.Assignment
import ActivityFlow.Proofs.Routine.InStep
import ActivityFlow.Proofs.FanOut.InStep
import ActivityFlow.Proofs.FanOut.Results
import ActivityFlow.Proofs.Engine.Program
import ActivityFlow.Proofs.Engine.History
import ActivityFlow.Proofs.Pattern.Literal
import ActivityFlow.Proofs.Jobs.Extraction
import ActivityFlow.Proofs.Span.Format
import ActivityFlow.Proofs.Span.Grammar
import ActivityFlow.Proofs.Document.Faithful
import ActivityFlow.Proofs.Document.Failure
import ActivityFlow.Proofs.Document.Payload
import ActivityFlow.Proofs.Document.Workflow
import ActivityFlow.Proofs.Document.Retry
import ActivityFlow.Proofs.Document.Records
import ActivityFlow.Proofs.Document.RoundTrip
import ActivityFlow.Proofs.Document.Surplus
import ActivityFlow.Proofs.FanOut.Agreement
import ActivityFlow.Proofs.Workflow.Program
import ActivityFlow.Proofs.Workflow.Attempts
import ActivityFlow.Proofs.Workflow.Composition
import ActivityFlow.Proofs.Workflow.Credential
import ActivityFlow.Proofs.Workflow.Rehearsal
import ActivityFlow.Proofs.Sources.Fetch
import ActivityFlow.Proofs.Sources.Replies
import ActivityFlow.Proofs.Url.Endpoint
import ActivityFlow.Proofs.Yaml.Holding
import ActivityFlow.Proofs.Document.Configuration
import ActivityFlow.Proofs.Document.Bundles
import ActivityFlow.Proofs.Jobs.Calls
import ActivityFlow.Proofs.Yaml.Keys
import ActivityFlow.Proofs.Retry.Stages
import ActivityFlow.Proofs.Router.Selection
import ActivityFlow.Proofs.Jobs.Webhooks
import ActivityFlow.Proofs.Jobs.Embeddings
import ActivityFlow.Proofs.Router.Dispatch
import ActivityFlow.Proofs.Workflow.Parameters
import ActivityFlow.Proofs.Bindings.Faults
import ActivityFlow.Proofs.Sources.Noting
import ActivityFlow.Proofs.Sources.Runs
import ActivityFlow.Proofs.Bindings.Registration
import ActivityFlow.Proofs.Sources.Identifiers
import ActivityFlow.Proofs.Workflow.Validation
import ActivityFlow.Proofs.Routine.SameCourse
import ActivityFlow.Proofs.Engine.Kinds
import ActivityFlow.Proofs.Retry.Delays
