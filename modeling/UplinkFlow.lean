import UplinkFlow.Binary64.Basic
import UplinkFlow.Binary64.FreeForm
import UplinkFlow.Binary64.Shortest
import UplinkFlow.Calendar
import UplinkFlow.Command.Basic
import UplinkFlow.Command.Run
import UplinkFlow.Counter
import UplinkFlow.Engine.Basic
import UplinkFlow.Engine.Client
import UplinkFlow.Engine.Conversation
import UplinkFlow.Engine.Listing
import UplinkFlow.Flow.Basic
import UplinkFlow.Flow.Document
import UplinkFlow.Host.Files
import UplinkFlow.Host.Link
import UplinkFlow.Host.Server
import UplinkFlow.Http.MediaType
import UplinkFlow.Http.Message
import UplinkFlow.Http.Status
import UplinkFlow.Http.Writing
import UplinkFlow.Json.Basic
import UplinkFlow.Json.Lexeme
import UplinkFlow.Json.Literal
import UplinkFlow.Json.Outline
import UplinkFlow.Json.Printer
import UplinkFlow.Json.Reader
import UplinkFlow.Json.Token
import UplinkFlow.Layout.Basic
import UplinkFlow.Layout.Document
import UplinkFlow.Layout.Validation
import UplinkFlow.Main
import UplinkFlow.NodeId.Pattern
import UplinkFlow.NodeId.Shift
import UplinkFlow.Plan
import UplinkFlow.Preview
import UplinkFlow.Proofs.Binary64.Rounding
import UplinkFlow.Proofs.Counter.Run
import UplinkFlow.Proofs.Engine.Exchange
import UplinkFlow.Proofs.Engine.Listing
import UplinkFlow.Proofs.Engine.OneFlowPerLabel
import UplinkFlow.Proofs.Engine.Operation
import UplinkFlow.Proofs.Engine.Store
import UplinkFlow.Proofs.Except
import UplinkFlow.Proofs.Flow.Rewriting
import UplinkFlow.Proofs.Json.Equality
import UplinkFlow.Proofs.Json.Members
import UplinkFlow.Proofs.Json.Rewriting
import UplinkFlow.Proofs.NodeId.Clash
import UplinkFlow.Proofs.Record.LittleEndian
import UplinkFlow.Proofs.Script.Agreement
import UplinkFlow.Proofs.Script.Buffer
import UplinkFlow.Proofs.Storage.Frame
import UplinkFlow.Proofs.Template.Issue
import UplinkFlow.Proofs.Template.Rendering
import UplinkFlow.Proofs.Text.Decimal
import UplinkFlow.Proofs.Text.Hexadecimal
import UplinkFlow.Proofs.Text.Utf8
import UplinkFlow.Proofs.Url.Endpoint
import UplinkFlow.Record.Basic
import UplinkFlow.Record.Timestamp
import UplinkFlow.Record.Value
import UplinkFlow.Rollout
import UplinkFlow.Script.Basic
import UplinkFlow.Script.Printer
import UplinkFlow.Sensor
import UplinkFlow.Service.Address
import UplinkFlow.Service.Basic
import UplinkFlow.Settings.Basic
import UplinkFlow.Settings.EnvFile
import UplinkFlow.Storage.Basic
import UplinkFlow.Storage.Place
import UplinkFlow.Template
import UplinkFlow.Text.Alphanumeric
import UplinkFlow.Text.Blank
import UplinkFlow.Text.CodeTable
import UplinkFlow.Text.Decimal
import UplinkFlow.Text.Hex
import UplinkFlow.Text.Parts
import UplinkFlow.Text.Percent
import UplinkFlow.Text.Plain
import UplinkFlow.Text.Quoted
import UplinkFlow.Text.Utf8
import UplinkFlow.Url.Address
import UplinkFlow.Url.Basic
import UplinkFlow.Url.Characters
import UplinkFlow.Url.Domain.Basic
import UplinkFlow.Url.Domain.Composition
import UplinkFlow.Url.Domain.Direction
import UplinkFlow.Url.Domain.Joining
import UplinkFlow.Url.Domain.Mapping
import UplinkFlow.Url.Domain.Marks
import UplinkFlow.Url.Path
import UplinkFlow.Url.Punycode
import UplinkFlow.Proofs.Template.Collision
import UplinkFlow.Proofs.Json.Pointer
import UplinkFlow.Proofs.Flow.Reading
import UplinkFlow.Proofs.Template.Reference
import UplinkFlow.Proofs.Engine.Log
import UplinkFlow.Proofs.Engine.Course
import UplinkFlow.Proofs.Engine.Protocol
import UplinkFlow.Proofs.Layout.Decoding
import UplinkFlow.Proofs.Flow.Shape
import UplinkFlow.Proofs.Template.Acceptance
import UplinkFlow.Proofs.Engine.Requests
import UplinkFlow.Proofs.Rollout.Run
import UplinkFlow.Proofs.Binary64.Exact
import UplinkFlow.Proofs.Binary64.ReadBack
import UplinkFlow.Proofs.Json.Literal
import UplinkFlow.Proofs.Json.Bytes
import UplinkFlow.Proofs.Json.Compact
import UplinkFlow.Proofs.Script.Quoting
import UplinkFlow.Proofs.Service.Handling
import UplinkFlow.Proofs.Service.Run
import UplinkFlow.Proofs.Engine.Matching
import UplinkFlow.Proofs.Template.RenderedNode
import UplinkFlow.Proofs.Template.Deploying
import UplinkFlow.Proofs.Flow.Arrangement
import UplinkFlow.Proofs.Json.Unique
import UplinkFlow.Proofs.Json.Records
import UplinkFlow.Proofs.Json.Numeral
import UplinkFlow.Proofs.Json.Printed
import UplinkFlow.Proofs.Json.Nesting
import UplinkFlow.Proofs.Json.ReadBack
import UplinkFlow.Proofs.Sensor.RoundTrip
import UplinkFlow.Proofs.Layout.RoundTrip
import UplinkFlow.Proofs.Flow.RoundTrip
import UplinkFlow.Proofs.Template.RoundTrip
import UplinkFlow.Proofs.Text.Percent
import UplinkFlow.Proofs.Url.Segment
import UplinkFlow.Proofs.Engine.Addressing
import UplinkFlow.Proofs.Binary64.Whole
import UplinkFlow.Proofs.Binary64.Integer
import UplinkFlow.Proofs.Record.Timestamp
import UplinkFlow.Proofs.Record.DeviceTime
import UplinkFlow.Proofs.Binary64.Widening
import UplinkFlow.Proofs.Record.Encoding
import UplinkFlow.Proofs.Json.Update
import UplinkFlow.Proofs.Record.Outcome
import UplinkFlow.Proofs.Record.Dependence
import UplinkFlow.Proofs.Json.Replacement
import UplinkFlow.Proofs.Template.Splicing
import UplinkFlow.Proofs.NodeId.Shape
import UplinkFlow.Proofs.Text.Padding
import UplinkFlow.Proofs.NodeId.Exact
import UplinkFlow.Proofs.Json.Strings
import UplinkFlow.Proofs.NodeId.Composition
import UplinkFlow.Proofs.Engine.Submission
import UplinkFlow.Proofs.Engine.Deletion
import UplinkFlow.Proofs.Layout.Refusal
import UplinkFlow.Proofs.Text.WholeNumber
import UplinkFlow.Proofs.Settings.Numbers
import UplinkFlow.Proofs.Engine.Attempts
import UplinkFlow.Proofs.Engine.Indifference
import UplinkFlow.Proofs.Engine.ListingForms
import UplinkFlow.Proofs.Json.Positions
import UplinkFlow.Proofs.NodeId.Coverage
import UplinkFlow.Proofs.Counter.Format
import UplinkFlow.Proofs.Command.Inputs
import UplinkFlow.Proofs.Command.Run
import UplinkFlow.Proofs.Command.Preview
