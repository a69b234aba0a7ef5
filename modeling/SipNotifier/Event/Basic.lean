import SipNotifier.Dialog.Basic
import SipNotifier.Seconds

/-! Events: what the service is told, and what it writes in return. -/
namespace SipNotifier
set_option autoImplicit false

/-- A request to be notified of a resource, as the SIP side hands it over. -/
structure SubscribeRequest where
  event : String
  accept : String
  uri : String
  fromHeader : String
  toHeader : String
  callId : String
  contact : String
  /-- The wanted lifetime; zero ends the subscription. -/
  expires : Option Int
  /-- The address that the request came from. -/
  host : String
  port : UInt16
  /-- The local tag that the SIP side gave the dialog. -/
  dialogTag : Option String
  deriving DecidableEq, Repr

inductive Inbound where
  | subscribe (request : SubscribeRequest)
  | mailboxUpdate (user : String)
  /-- A report on a watched call; the channel becomes the dialog's identifier. -/
  | callUpdate (external : String) (channel : Option String) (call : CallStatus)
  /-- A report on a channel, which carries no identifier to publish. -/
  | channelUpdate (id : String) (call : CallStatus)
  | timerTick (time : Int)
  | diagnosticQuery
  deriving DecidableEq, Repr

/-- A NOTIFY that the SIP side is asked to send. -/
structure Notify where
  method : String
  uri : String
  host : String
  port : UInt16
  callId : String
  fromHeader : String
  toHeader : String
  contact : String
  event : String
  subscriptionState : String
  contentType : String
  body : String
  deriving DecidableEq, Repr

inductive Outbound where
  | notify (n : Notify)
  | diagnostics (text : String)
  deriving DecidableEq, Repr

/-- The kinds of inbound events. -/
inductive Inbound.Kind where
  | subscribe
  | mailboxUpdate
  | callUpdate
  | channelUpdate
  | timerTick
  | diagnosticQuery
  deriving DecidableEq, Repr

namespace Inbound

def Kind.all : List Kind :=
  [.subscribe, .mailboxUpdate, .callUpdate, .channelUpdate, .timerTick, .diagnosticQuery]

def Kind.name : Kind → String
  | .subscribe => "subscribe"
  | .mailboxUpdate => "mailbox_update"
  | .callUpdate => "call_update"
  | .channelUpdate => "channel_update"
  | .timerTick => "timer_tick"
  | .diagnosticQuery => "diagnostic_query"

def Kind.ofName? (name : String) : Option Kind := all.find? fun k => k.name == name

def kind : Inbound → Kind
  | subscribe _ => .subscribe
  | mailboxUpdate _ => .mailboxUpdate
  | callUpdate _ _ _ => .callUpdate
  | channelUpdate _ _ => .channelUpdate
  | timerTick _ => .timerTick
  | diagnosticQuery => .diagnosticQuery

theorem Kind.ofName?_name (k : Kind) : Kind.ofName? k.name = some k := by
  cases k <;> decide

end Inbound
end SipNotifier
