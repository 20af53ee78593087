import Courier.Base64
import Courier.Binary64
import Courier.Binary64.Shortest
import Courier.Bytes
import Courier.Client
import Courier.Client.Eager
import Courier.Client.Run
import Courier.Config
import Courier.Config.Fault
import Courier.Config.Load
import Courier.Decimal
import Courier.Dispatcher
import Courier.Envelope
import Courier.Envelope.ErrorReply
import Courier.Envelope.Registration
import Courier.Envelope.Request
import Courier.Failure
import Courier.Frame
import Courier.Handler
import Courier.Inbound
import Courier.Json.Fault
import Courier.Json.Layout
import Courier.Json.Number
import Courier.Json.Record
import Courier.Json.Text
import Courier.Json.Value
import Courier.Main
import Courier.Metrics
import Courier.Mismatch
import Courier.Outbound
import Courier.Phase
import Courier.Session
import Courier.Text.Blank
import Courier.Text.Quoted
import Courier.Text.Unprintable
import Courier.Text.Utf8
import Courier.TextMap
import Courier.Yaml.Cursor
import Courier.Yaml.Document
import Courier.Yaml.Fault
import Courier.Yaml.Gap
import Courier.Yaml.Node
import Courier.Yaml.Property
import Courier.Yaml.Readable
import Courier.Yaml.Reading
import Courier.Yaml.Scalar.Block
import Courier.Yaml.Scalar.Meaning
import Courier.Yaml.Scalar.Plain
import Courier.Yaml.Scalar.Quoted
import Courier.Yaml.Tag
import Courier.Yaml.Token
import Courier.Yaml.Tokens
import Courier.Proofs.Base64.Canonical
import Courier.Proofs.Base64.Grammar
import Courier.Proofs.Text.Order
import Courier.Proofs.Json.Number
import Courier.Proofs.Json.Layout
import Courier.Proofs.Json.Record
import Courier.Proofs.Json.Source
import Courier.Proofs.Json.Spelling
import Courier.Proofs.Json.Literal
import Courier.Proofs.Json.Skipping
import Courier.Proofs.Json.Reading
import Courier.Proofs.Json.Assembly
import Courier.Proofs.Json.Shape
import Courier.Proofs.Json.Fields
import Courier.Proofs.Envelope.RoundTrip
import Courier.Proofs.Envelope.Format
import Courier.Proofs.Frame.Parse
import Courier.Proofs.Frame.Reassembly
import Courier.Proofs.Frame.Space
import Courier.Proofs.Envelope.Nested
import Courier.Proofs.Dispatcher.Replies
import Courier.Proofs.Handler.Echo
import Courier.Proofs.Inbound.Delivery
import Courier.Proofs.Steps
import Courier.Proofs.Inbound.Account
import Courier.Proofs.Inbound.Intake
import Courier.Proofs.Frame.Verdict
import Courier.Proofs.Inbound.Interference
import Courier.Proofs.Inbound.Space
import Courier.Proofs.Inbound.ItemsAccounted
import Courier.Proofs.Outbound.History
import Courier.Proofs.Outbound.Integrity
import Courier.Proofs.Outbound.Abandoned
import Courier.Proofs.Outbound.Turns
import Courier.Proofs.Transit
import Courier.Proofs.Outbound.Single
import Courier.Proofs.Client.Script
import Courier.Proofs.Session.Quiet
import Courier.Proofs.Session.Step
import Courier.Proofs.Session.ReceivingStep
import Courier.Proofs.Session.Account
import Courier.Proofs.Session.Calls
import Courier.Proofs.Session.Registering
import Courier.Proofs.Session.Order
import Courier.Proofs.Session.Receiving
import Courier.Proofs.Outbound.Ending
import Courier.Proofs.Session.Sink
import Courier.Proofs.Session.EndState
import Courier.Proofs.Session.Verdict
import Courier.Proofs.Session.Ending
import Courier.Proofs.Session.Closing
import Courier.Proofs.Client.Step
import Courier.Proofs.Client.Resting
import Courier.Proofs.Client.Pumping
import Courier.Proofs.Client.Replying
import Courier.Proofs.Client.Opening
import Courier.Proofs.Client.Schedule
import Courier.Proofs.Client.SameForRunner
import Courier.Proofs.Client.Outcome
import Courier.Proofs.Client.Drain
import Courier.Proofs.Client.SessionAtStage
import Courier.Proofs.Client.Ending
import Courier.Proofs.Client.Announcing
import Courier.Proofs.Client.Verdict
import Courier.Proofs.Config.Accepted
import Courier.Proofs.Config.Violations
import Courier.Proofs.Yaml.Alike
import Courier.Proofs.Yaml.Section
import Courier.Proofs.Config.Standard
import Courier.Proofs.Config.Naming
import Courier.Proofs.Config.Sections
import Courier.Proofs.Client.Capacity
import Courier.Proofs.Client.Serving
import Courier.Proofs.Client.Counted
import Courier.Proofs.Client.History
import Courier.Proofs.Client.Accounted
import Courier.Proofs.Client.Conservation
import Courier.Proofs.Metrics.Account
import Courier.Proofs.Metrics.Exposition
