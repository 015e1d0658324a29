import ShellBridge.Access
import ShellBridge.Exchange
import ShellBridge.Main
import ShellBridge.Proofs.Json.Numerals
import ShellBridge.Proofs.Json.Steps
import ShellBridge.Proofs.Json.Strings
import ShellBridge.Proofs.Observer.Run
import ShellBridge.Proofs.Topic.Parsing
import ShellBridge.Proofs.Json.Layout
import ShellBridge.Proofs.Json.Skipping
import ShellBridge.Proofs.Json.Formats
import ShellBridge.Proofs.Json.Records
import ShellBridge.Proofs.Json.Canonical
import ShellBridge.Proofs.Json.Writing
import ShellBridge.Proofs.Frame.RoundTrip
import ShellBridge.Proofs.Json.Members
import ShellBridge.Proofs.Event.Documents
import ShellBridge.Proofs.Event.Elements
import ShellBridge.Proofs.Event.Redaction
import ShellBridge.Proofs.Session.Run
import ShellBridge.Proofs.Session.Guard
import ShellBridge.Proofs.Session.Exclusive
import ShellBridge.Proofs.Session.Interruption
import ShellBridge.Proofs.Text.Lines
import ShellBridge.Proofs.Text.Segment
import ShellBridge.Proofs.Bridge.Run
import ShellBridge.Proofs.Bridge.Service
import ShellBridge.Proofs.Session.Exchange
import ShellBridge.Proofs.Session.Transport
import ShellBridge.Proofs.Session.Delivery
import ShellBridge.Proofs.Session.Subscription
import ShellBridge.Proofs.Element.RoundTrip
import ShellBridge.Proofs.Message.RoundTrip
import ShellBridge.Proofs.Message.Gates
import ShellBridge.Proofs.Databus.Delivery
import ShellBridge.Proofs.Topic.Grammar
import ShellBridge.Proofs.Topic.Classification
import ShellBridge.Proofs.Topic.Injectivity
import ShellBridge.Proofs.Topic.Wildcard
import ShellBridge.Proofs.Event.Reading
import ShellBridge.Proofs.Event.RoundTrip
import ShellBridge.Proofs.Number.Rounding
import ShellBridge.Proofs.Number.Shortest
import ShellBridge.Proofs.Json.Scaling
import ShellBridge.Proofs.Json.Floats
import ShellBridge.Proofs.Json.Rereading
import ShellBridge.Proofs.Event.Attributes
import ShellBridge.Proofs.Filter.History
import ShellBridge.Proofs.Event.Identification
import ShellBridge.Proofs.Observer.Isolation
import ShellBridge.Proofs.Observer.Lifecycle
import ShellBridge.Proofs.Observer.Independence
import ShellBridge.Proofs.Bridge.Unreadable
import ShellBridge.Proofs.Frame.Acceptance
import ShellBridge.Proofs.Json.Rearranging
import ShellBridge.Proofs.Message.Rearranging
import ShellBridge.Proofs.Frame.Conversation
import ShellBridge.Proofs.Frame.Reference
import ShellBridge.Proofs.Address.Canonical
import ShellBridge.Proofs.Path.Normal
import ShellBridge.Proofs.Access.Consultation
import ShellBridge.Proofs.Json.Indented
import ShellBridge.Proofs.CommandLine.Formatting
import ShellBridge.Proofs.Bridge.Whitelist
