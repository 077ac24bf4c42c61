import MediaGateway.Api.Conversion
import MediaGateway.Api.Description
import MediaGateway.Api.Messages
import MediaGateway.Api.Rpc
import MediaGateway.Bytes
import MediaGateway.Bytes.Base64
import MediaGateway.Chain
import MediaGateway.Chain.CallInfo
import MediaGateway.Decimal.Binary64
import MediaGateway.Decimal.Shortest
import MediaGateway.Digest.Hmac
import MediaGateway.Digest.Sha1
import MediaGateway.Duration
import MediaGateway.Event
import MediaGateway.Fault
import MediaGateway.Files
import MediaGateway.Grpc.Frame
import MediaGateway.Grpc.Reflection
import MediaGateway.Grpc.Reflection.Description
import MediaGateway.Grpc.Reply
import MediaGateway.Grpc.Status
import MediaGateway.Http
import MediaGateway.Http.Exchange
import MediaGateway.Http.Reason
import MediaGateway.Json
import MediaGateway.Json.Kept
import MediaGateway.Json.Written
import MediaGateway.Log
import MediaGateway.Log.Filter
import MediaGateway.Log.Filter.Pattern
import MediaGateway.Log.Filter.Rule
import MediaGateway.Main
import MediaGateway.Metrics
import MediaGateway.Net.Address
import MediaGateway.Protobuf.Descriptor
import MediaGateway.Protobuf.Message
import MediaGateway.Protobuf.Shape
import MediaGateway.Protobuf.Value
import MediaGateway.Protobuf.Wire
import MediaGateway.Server
import MediaGateway.Server.Router
import MediaGateway.Service
import MediaGateway.Service.Members
import MediaGateway.Service.Plan
import MediaGateway.Settings
import MediaGateway.Settings.Key
import MediaGateway.Startup
import MediaGateway.Startup.Variables
import MediaGateway.Storage
import MediaGateway.Storage.Answers
import MediaGateway.Storage.Inquiry
import MediaGateway.Storage.Remote
import MediaGateway.Text.Alphanumeric
import MediaGateway.Text.AsciiCase
import MediaGateway.Text.Blank
import MediaGateway.Text.Composed
import MediaGateway.Text.Decomposition
import MediaGateway.Text.Hidden
import MediaGateway.Text.Lowercase
import MediaGateway.Text.Mark
import MediaGateway.Text.Numeral
import MediaGateway.Text.Quoted
import MediaGateway.Text.Table
import MediaGateway.TextMap
import MediaGateway.Url
import MediaGateway.Url.Domain
import MediaGateway.Url.Domain.Direction
import MediaGateway.Url.Domain.Joining
import MediaGateway.Url.Domain.Mapping
import MediaGateway.Url.Form
import MediaGateway.Url.Host
import MediaGateway.Url.Kind
import MediaGateway.Url.Path
import MediaGateway.Url.Percent
import MediaGateway.Url.Punycode
import MediaGateway.Url.Reader
import MediaGateway.Uuid
import MediaGateway.Proofs.Protobuf.Wire
import MediaGateway.Proofs.Text.Utf8
import MediaGateway.Proofs.Protobuf.Shape
import MediaGateway.Proofs.Protobuf.Message
import MediaGateway.Proofs.Api.Messages
import MediaGateway.Proofs.Service.Envelope
import MediaGateway.Proofs.Url.Path
import MediaGateway.Proofs.Url.Base
import MediaGateway.Proofs.Http.Exchange
import MediaGateway.Proofs.Storage.Inquiry
import MediaGateway.Proofs.Storage.FileAddress
import MediaGateway.Proofs.Json.Quoted
import MediaGateway.Proofs.Json.Compact
import MediaGateway.Proofs.Storage.Batch
import MediaGateway.Proofs.Metrics
import MediaGateway.Proofs.Service.Batch
import MediaGateway.Proofs.Protobuf.Size
import MediaGateway.Proofs.TextMap
import MediaGateway.Proofs.Api.RoundTrip
import MediaGateway.Proofs.Service.Plan
import MediaGateway.Proofs.Protobuf.Measure
import MediaGateway.Proofs.Url.Percent
import MediaGateway.Proofs.Storage.Operation
import MediaGateway.Proofs.Storage.Outcome
import MediaGateway.Proofs.Storage.OperationLog
import MediaGateway.Proofs.Service.CallEvents
import MediaGateway.Proofs.Protobuf.Grammar
import MediaGateway.Proofs.Protobuf.Merging
import MediaGateway.Proofs.Protobuf.Effect
import MediaGateway.Proofs.Api.Merging
import MediaGateway.Proofs.Protobuf.Generic
import MediaGateway.Proofs.Protobuf.Record
import MediaGateway.Proofs.Protobuf.Kind
import MediaGateway.Proofs.Protobuf.Described
import MediaGateway.Proofs.Api.Published
import MediaGateway.Proofs.Server.Published
import MediaGateway.Proofs.Decimal.Rounding
import MediaGateway.Proofs.Chain.BuiltIn
import MediaGateway.Proofs.Chain.Unwinding
import MediaGateway.Proofs.Chain.Stepping
import MediaGateway.Proofs.Chain.Visits
import MediaGateway.Proofs.Chain.Interleaving
import MediaGateway.Proofs.Service.History
import MediaGateway.Proofs.Service.Sending
import MediaGateway.Proofs.Storage.Place
import MediaGateway.Proofs.Grpc.Frame
import MediaGateway.Proofs.Server.Upload
import MediaGateway.Proofs.Server.Oversized
import MediaGateway.Proofs.Chain.Brackets
import MediaGateway.Proofs.Chain.CallLog
import MediaGateway.Proofs.Settings.Value
import MediaGateway.Proofs.Settings.Variables
import MediaGateway.Proofs.Settings.Draft
import MediaGateway.Proofs.Bytes.Base64
import MediaGateway.Proofs.Grpc.Reply
import MediaGateway.Proofs.Server.Dispatch
import MediaGateway.Proofs.Http.Masked
import MediaGateway.Proofs.Storage.Secrecy
import MediaGateway.Proofs.Chain.Masked
import MediaGateway.Proofs.Service.Secrecy
import MediaGateway.Proofs.Lists
import MediaGateway.Proofs.Json.Numeral
import MediaGateway.Proofs.Json.Grammar
import MediaGateway.Proofs.Json.Digits
import MediaGateway.Proofs.Json.Meaning
import MediaGateway.Proofs.Json.Range
import MediaGateway.Proofs.Storage.Field
import MediaGateway.Proofs.Storage.Described
import MediaGateway.Proofs.Storage.Answered
import MediaGateway.Proofs.Storage.Placed
import MediaGateway.Proofs.Service.Response
import MediaGateway.Proofs.Service.Description
import MediaGateway.Proofs.Service.Misshapen
import MediaGateway.Proofs.Text.Lenient
import MediaGateway.Proofs.Url.Form
import MediaGateway.Proofs.Text.Numeral
import MediaGateway.Proofs.Storage.Total
import MediaGateway.Proofs.Storage.Pairs
import MediaGateway.Proofs.Service.Listing
import MediaGateway.Proofs.Decimal.Order
import MediaGateway.Proofs.Storage.Ceiling
import MediaGateway.Proofs.Bytes.Hex
import MediaGateway.Proofs.Uuid
import MediaGateway.Proofs.Digest.Hmac
import MediaGateway.Proofs.Service.Credential
import MediaGateway.Proofs.Service.UploadForm
import MediaGateway.Proofs.Storage.UpdateBody
import MediaGateway.Proofs.Service.Update
import MediaGateway.Proofs.Net.Dotted
import MediaGateway.Proofs.Net.Groups
import MediaGateway.Proofs.Net.Address
import MediaGateway.Proofs.Server.Listening
import MediaGateway.Proofs.Storage.Folder
