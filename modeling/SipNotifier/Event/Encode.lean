import SipNotifier.Event.Fields
import SipNotifier.Json.Writer

/-! Writing events as JSON: one object, the kind first, then the fields in order of declaration. -/
namespace SipNotifier
open Json
set_option autoImplicit false

namespace Inbound

/-- The event as an object in which every field is present. -/
def toValue (e : Inbound) : Value :=
  .object (("type", .string e.kind.name) ::
    ((e.kind.fields ++ e.kind.statusFields).map Field.name).zip (e.contents.map Content.toValue))

end Inbound

namespace Notify

def toMembers (n : Notify) : List (String × Value) :=
  [("method", .string n.method), ("uri", .string n.uri), ("host", .string n.host),
    ("port", .number (.ofInt n.port.toNat)), ("call_id", .string n.callId),
    ("from", .string n.fromHeader), ("to", .string n.toHeader), ("contact", .string n.contact),
    ("event", .string n.event), ("subscription_state", .string n.subscriptionState),
    ("content_type", .string n.contentType), ("body", .string n.body)]

end Notify

namespace Outbound

def toValue : Outbound → Value
  | notify n => .object (("type", .string "notify") :: n.toMembers)
  | diagnostics text => .object [("type", .string "diagnostics"), ("text", .string text)]

/-- The line that the event is written as, without its end. -/
def encode (e : Outbound) : String := e.toValue.write

def line (e : Outbound) : String := e.encode ++ "\n"

end Outbound
end SipNotifier
