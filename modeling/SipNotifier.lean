import SipNotifier.Bus
import SipNotifier.Bus.Pump
import SipNotifier.CommandLine
import SipNotifier.Dialog.Basic
import SipNotifier.Dialog.Document
import SipNotifier.Event.Basic
import SipNotifier.Event.Decode
import SipNotifier.Event.Encode
import SipNotifier.Event.Fields
import SipNotifier.Json.Reader
import SipNotifier.Json.Token
import SipNotifier.Json.Value
import SipNotifier.Json.Writer
import SipNotifier.Log.Directive
import SipNotifier.Log.FieldValue
import SipNotifier.Log.Filter
import SipNotifier.Log.Level
import SipNotifier.Log.Record
import SipNotifier.Mailbox
import SipNotifier.Main
import SipNotifier.Package
import SipNotifier.Pattern.Atom
import SipNotifier.Pattern.Brackets
import SipNotifier.Pattern.Mode
import SipNotifier.Pattern.Reader
import SipNotifier.Policy
import SipNotifier.Proofs.Bus.Framing
import SipNotifier.Proofs.Bus.Ledger
import SipNotifier.Proofs.Bus.Lines
import SipNotifier.Proofs.Bus.Moves
import SipNotifier.Proofs.Bus.Pump
import SipNotifier.Proofs.Bus.Sequence
import SipNotifier.Proofs.Dialog.Markup
import SipNotifier.Proofs.Dialog.ReadBack
import SipNotifier.Proofs.Dialog.WellFormed
import SipNotifier.Proofs.Event.Inbound
import SipNotifier.Proofs.Event.Outbound
import SipNotifier.Proofs.Json.Layout
import SipNotifier.Proofs.Json.Lexing
import SipNotifier.Proofs.Json.Numbers
import SipNotifier.Proofs.Json.RoundTrip
import SipNotifier.Proofs.Json.Strings
import SipNotifier.Proofs.Registry.Calls
import SipNotifier.Proofs.Registry.Entries
import SipNotifier.Proofs.Registry.History
import SipNotifier.Proofs.Registry.Listing
import SipNotifier.Proofs.Registry.OrderedMap
import SipNotifier.Proofs.Registry.Sweep
import SipNotifier.Proofs.ResourceKey
import SipNotifier.Proofs.Router.Coalescing
import SipNotifier.Proofs.Router.Contact
import SipNotifier.Proofs.Router.Delivery
import SipNotifier.Proofs.Router.Documents
import SipNotifier.Proofs.Router.Enrolment
import SipNotifier.Proofs.Router.Headroom
import SipNotifier.Proofs.Router.Isolation
import SipNotifier.Proofs.Router.LocalTag
import SipNotifier.Proofs.Router.Origin
import SipNotifier.Proofs.Router.Replacement
import SipNotifier.Proofs.Router.Reports
import SipNotifier.Proofs.Router.Schedule
import SipNotifier.Proofs.Router.Serve
import SipNotifier.Proofs.Router.Silence
import SipNotifier.Proofs.Router.Slot
import SipNotifier.Proofs.Router.Soundness
import SipNotifier.Proofs.Router.Steps
import SipNotifier.Proofs.Router.Sweep
import SipNotifier.Proofs.Router.Throttle
import SipNotifier.Proofs.Router.Totality
import SipNotifier.Proofs.Router.Versions
import SipNotifier.Proofs.Spool.Isolation
import SipNotifier.Proofs.Subscription.Delivery
import SipNotifier.Proofs.Subscription.Stored
import SipNotifier.Proofs.Uri.AtSign
import SipNotifier.Proofs.Uri.Canonical
import SipNotifier.Proofs.Uri.Grammar
import SipNotifier.Proofs.Uri.Wrapped
import SipNotifier.Proofs.Xml.Reader
import SipNotifier.Registry
import SipNotifier.Router.Basic
import SipNotifier.Router.Records
import SipNotifier.Router.Task
import SipNotifier.Seconds
import SipNotifier.Service
import SipNotifier.Settings
import SipNotifier.Spool
import SipNotifier.Subscription
import SipNotifier.Text.Alphanumeric
import SipNotifier.Text.Blank
import SipNotifier.Text.Cut
import SipNotifier.Text.Decimal
import SipNotifier.Text.DoubleRange
import SipNotifier.Text.Hex
import SipNotifier.Text.Occurs
import SipNotifier.Text.Split
import SipNotifier.Text.Terminal
import SipNotifier.Toml.Document
import SipNotifier.Toml.Scalars
import SipNotifier.Toml.Strings
import SipNotifier.Toml.Value
import SipNotifier.Uri.Basic
import SipNotifier.Uri.Parser
