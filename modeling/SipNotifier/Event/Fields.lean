import SipNotifier.Event.Basic
import SipNotifier.Json.Value

/-! The fields of the inbound records: their names in order of declaration, what each may hold, and
how a record is made of what they hold. -/
namespace SipNotifier.Inbound
open Json
set_option autoImplicit false

/-! ## Fields -/

inductive Shape where
  | text
  | optionalText
  | time
  | optionalTime
  | port
  deriving DecidableEq, Repr

def Shape.isRequired : Shape → Bool
  | .optionalText | .optionalTime => false
  | _ => true

/-- What a field holds once it has been read. -/
inductive Content where
  | text (s : String)
  | time (t : Int)
  | port (p : UInt16)
  | absent
  deriving DecidableEq, Repr

structure Field where
  name : String
  shape : Shape
  deriving DecidableEq, Repr

/-- The content that a value has under a shape; null stands for an absent optional field. -/
def Shape.read (shape : Shape) (v : Value) : Option Content :=
  match shape, v with
  | .text, .string s => some (.text s)
  | .optionalText, .string s => some (.text s)
  | .optionalText, .null => some .absent
  | .time, .number n => n.toInt?.bind fun t => if Seconds.Fits t then some (.time t) else none
  | .optionalTime, .number n =>
    n.toInt?.bind fun t => if Seconds.Fits t then some (.time t) else none
  | .optionalTime, .null => some .absent
  | .port, .number n =>
    n.toInt?.bind fun p => if 0 ≤ p ∧ p < 65536 then some (.port (UInt16.ofNat p.toNat)) else none
  | _, _ => none

/-- The value that stands for a content. -/
def Content.toValue : Content → Value
  | .text s => .string s
  | .time t => .number (.ofInt t)
  | .port p => .number (.ofInt p.toNat)
  | .absent => .null

/-! ## Records -/

/-- The fields that a record of a kind has of its own. -/
def Kind.fields : Kind → List Field
  | .subscribe =>
    [⟨"event", .text⟩, ⟨"accept", .text⟩, ⟨"uri", .text⟩, ⟨"from", .text⟩, ⟨"to", .text⟩,
      ⟨"call_id", .text⟩, ⟨"contact", .text⟩, ⟨"expires", .optionalTime⟩, ⟨"host", .text⟩,
      ⟨"port", .port⟩, ⟨"dialog_tag", .optionalText⟩]
  | .mailboxUpdate => [⟨"user", .text⟩]
  | .callUpdate => [⟨"external", .text⟩, ⟨"chan", .optionalText⟩]
  | .channelUpdate => [⟨"id", .text⟩]
  | .timerTick => [⟨"time", .time⟩]
  | .diagnosticQuery => []

def callStatusFields : List Field :=
  [⟨"operation", .optionalText⟩, ⟨"status", .optionalText⟩, ⟨"direction", .optionalText⟩]

/-- The fields of a call status that stand among a record's own. -/
def Kind.statusFields : Kind → List Field
  | .callUpdate | .channelUpdate => callStatusFields
  | _ => []

def Content.text? : Content → Option String
  | .text s => some s
  | _ => none

def Content.time? : Content → Option Int
  | .time t => some t
  | _ => none

/-- Makes the event of what its fields hold, in order of declaration. -/
def Kind.build (k : Kind) (contents : List Content) : Option Inbound :=
  match k, contents with
  | .subscribe, [.text event, .text accept, .text uri, .text sender, .text receiver, .text callId,
      .text contact, expires, .text host, .port port, tag] =>
    some (.subscribe
      { event := event, accept := accept, uri := uri, fromHeader := sender, toHeader := receiver
        callId := callId, contact := contact, expires := expires.time?, host := host, port := port
        dialogTag := tag.text? })
  | .mailboxUpdate, [.text user] => some (.mailboxUpdate user)
  | .callUpdate, [.text external, channel, operation, status, direction] =>
    some (.callUpdate external channel.text? ⟨operation.text?, status.text?, direction.text?⟩)
  | .channelUpdate, [.text id, operation, status, direction] =>
    some (.channelUpdate id ⟨operation.text?, status.text?, direction.text?⟩)
  | .timerTick, [.time time] => some (.timerTick time)
  | .diagnosticQuery, [] => some .diagnosticQuery
  | _, _ => none

def Content.ofText : Option String → Content
  | some s => .text s
  | none => .absent

def Content.ofTime : Option Int → Content
  | some t => .time t
  | none => .absent

/-- What the fields of an event hold, in order of declaration. -/
def contents : Inbound → List Content
  | subscribe r =>
    [.text r.event, .text r.accept, .text r.uri, .text r.fromHeader, .text r.toHeader,
      .text r.callId, .text r.contact, .ofTime r.expires, .text r.host, .port r.port,
      .ofText r.dialogTag]
  | mailboxUpdate user => [.text user]
  | callUpdate external channel call =>
    [.text external, .ofText channel, .ofText call.operation, .ofText call.status,
      .ofText call.direction]
  | channelUpdate id call =>
    [.text id, .ofText call.operation, .ofText call.status, .ofText call.direction]
  | timerTick time => [.time time]
  | diagnosticQuery => []

theorem Content.text?_ofText (s : Option String) : (Content.ofText s).text? = s := by
  cases s <;> rfl

theorem Content.time?_ofTime (t : Option Int) : (Content.ofTime t).time? = t := by
  cases t <;> rfl

/-- An event is made again of what its fields hold. -/
theorem build_contents (e : Inbound) : e.kind.build e.contents = some e := by
  cases e <;>
    simp [kind, contents, Kind.build, Content.text?_ofText, Content.time?_ofTime]

end SipNotifier.Inbound
