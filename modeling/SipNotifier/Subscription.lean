import SipNotifier.Dialog.Document
import SipNotifier.Event.Basic
import SipNotifier.Mailbox
import SipNotifier.Package
import SipNotifier.Policy
import SipNotifier.Text.Occurs
import SipNotifier.Uri.Parser

/-! Subscriptions: one subscriber's interest in one resource. A subscription holds the last body
rendered for it and whether that body still waits to be sent. Operations answer the subscription
after them and the NOTIFY they send, if any. -/
namespace SipNotifier
set_option autoImplicit false

namespace Subscription

/-- The value of the Subscription-State header. -/
inductive State where
  | active
  | terminated (reason : Option String)
  deriving DecidableEq, Repr

def State.timedOut : State := .terminated (some "timeout")

def State.isTerminated : State → Bool
  | .active => false
  | .terminated _ => true

def State.header : State → String
  | .active => "active"
  | .terminated none => "terminated"
  | .terminated (some reason) => "terminated;reason=" ++ reason

/-- What a package keeps for itself: dialogs the version of the document to come. -/
inductive Kind where
  | mailbox
  | dialog (version : Nat)
  deriving DecidableEq, Repr

def Kind.start : Package → Kind
  | .messageSummary => .mailbox
  | .dialog => .dialog 0

def Kind.package : Kind → Package
  | .mailbox => .messageSummary
  | .dialog _ => .dialog

def Kind.version? : Kind → Option Nat
  | .mailbox => none
  | .dialog version => some version

/-- What a subscription is rendered for. -/
inductive Change where
  | subscribed
  | mailbox
  | call (status : CallStatus) (correlation : Option String)
  deriving DecidableEq, Repr

end Subscription

structure Subscription where
  kind : Subscription.Kind
  resourceKey : String
  host : String
  port : UInt16
  requestUri : String
  fromHeader : String
  toHeader : String
  callId : String
  contact : String
  state : Subscription.State
  /-- The end of the lifetime; zero once the subscription is over. -/
  expiresAt : Int
  body : String
  /-- Something changed since the last NOTIFY. -/
  pending : Bool
  deriving DecidableEq, Repr

namespace Subscription

def package (s : Subscription) : Package := s.kind.package

/-- The key of a subscriber's entry for a resource. -/
def keyOf (package : Package) (resourceKey host : String) (port : UInt16) : String :=
  package.name ++ ":" ++ resourceKey ++ ":" ++ host ++ ":" ++ Nat.repr port.toNat

def indexKey (s : Subscription) : String := keyOf s.package s.resourceKey s.host s.port

/-! ## Creation -/

/-- Why a request makes no subscription. -/
inductive CreateError where
  | noResource (uri : String)
  | overflow (cause : Seconds.Overflow)
  deriving DecidableEq, Repr

def CreateError.message : CreateError → String
  | .noResource uri => "No resource key in request URI: " ++ uri
  | .overflow cause => cause.message

/-- The key of the resource that a request URI names. -/
def resourceOf? (uri : String) : Option String :=
  match Uri.parse uri with
  | .ok u => u.resourceKey?
  | .error _ => none

/-- The To header with the local tag, which is added where the text has no tag. -/
def localHeader (r : SubscribeRequest) : String :=
  match r.dialogTag with
  | none => r.toHeader
  | some tag =>
    if tag.isEmpty || Text.occurs "tag=".toList r.toHeader.toList then r.toHeader
    else r.toHeader ++ ";tag=" ++ tag

/-- The state and end of a subscription that is granted a lifetime now. -/
def lease (lifetime : Option Int) (now : Int) : Except Seconds.Overflow (State × Int) :=
  match lifetime with
  | none => .ok (.terminated none, 0)
  | some t => (Seconds.add now t).map fun last => (.active, last)

def ofRequest (r : SubscribeRequest) (package : Package) (policy : Policy) (now : Int) :
    Except CreateError Subscription :=
  match resourceOf? r.uri with
  | none => .error (.noResource r.uri)
  | some key =>
    match lease (policy.granted r.expires) now with
    | .error cause => .error (.overflow cause)
    | .ok (state, last) => .ok
      { kind := .start package, resourceKey := key, host := r.host, port := r.port
        requestUri := r.uri, fromHeader := r.fromHeader, toHeader := localHeader r
        callId := r.callId, contact := r.contact, state := state, expiresAt := last
        body := "", pending := true }

/-! ## Sending -/

/-- The NOTIFY for the present fields. The notifier answers the request, so the two address headers
change places. -/
def record (s : Subscription) : Notify where
  method := "NOTIFY"
  uri := s.contact
  host := s.host
  port := s.port
  callId := s.callId
  fromHeader := s.toHeader
  toHeader := s.fromHeader
  contact := "<" ++ s.requestUri ++ ">"
  event := s.package.name
  subscriptionState := s.state.header
  contentType := s.package.mediaType
  body := s.body

/-- Sends the body, if there is one. -/
def send (s : Subscription) : Subscription × Option Notify :=
  if s.body.isEmpty then (s, none)
  else
    let sent := { s with pending := false }
    (sent, some sent.record)

/-- Sends the body, in a new state if one is forced. The new state waits for the next NOTIFY where
there is no body. -/
def notify (s : Subscription) (forced : Option State) : Subscription × Option Notify :=
  match forced with
  | none => s.send
  | some state => { s with state := state, pending := true }.send

/-- Sends the body if it waits. -/
def flush (s : Subscription) : Subscription × Option Notify :=
  if s.pending then s.notify none else (s, none)

/-! ## Rendering -/

/-- The dialog that a change makes known: it needs a state and an identifier. -/
def element? (s : Subscription) (change : Change) : Option Dialog.Element :=
  match change with
  | .call status (some id) =>
    if id.isEmpty then none
    else (Dialog.State.ofCall? status).map fun state =>
      ⟨id, s.resourceKey, status.direction.bind Dialog.Direction.ofLeg?, state⟩
  | _ => none

/-- Makes the body anew. A document with a dialog in it is sent at once, all else waits. -/
def render (s : Subscription) (change : Change) (mail : String → Mailbox.Counts) :
    Subscription × Option Notify :=
  match s.kind with
  | .mailbox => ({ s with body := (mail s.resourceKey).summary, pending := true }, none)
  | .dialog version =>
    let element := s.element? change
    let rendered := { s with
      kind := .dialog (version + 1)
      body := Dialog.document version s.requestUri element
      pending := true }
    if element.isSome then rendered.flush else (rendered, none)

/-! ## Expiry -/

/-- The lifetime has run out. A subscription that is over does not expire again. -/
def isExpired (s : Subscription) (now : Int) : Bool :=
  decide (s.expiresAt ≠ 0) && decide (s.expiresAt ≤ now)

/-- Ends the subscription and sends the last NOTIFY. -/
def expire (s : Subscription) : Subscription × Option Notify :=
  { s with expiresAt := 0 }.notify (some .timedOut)

/-- The time left, which is zero once the subscription is over. -/
def remaining (s : Subscription) (now : Int) : Except Seconds.Overflow Int :=
  if 0 < s.expiresAt then Seconds.subtract s.expiresAt now else .ok 0

/-! ## What operations keep -/

theorem send_indexKey (s : Subscription) : s.send.1.indexKey = s.indexKey := by
  simp only [send]
  split <;> rfl

theorem notify_indexKey (s : Subscription) (forced : Option State) :
    (s.notify forced).1.indexKey = s.indexKey := by
  cases forced with
  | none => exact send_indexKey s
  | some state => exact send_indexKey _

theorem flush_indexKey (s : Subscription) : s.flush.1.indexKey = s.indexKey := by
  simp only [flush]
  split
  · exact notify_indexKey s none
  · rfl

theorem render_indexKey (s : Subscription) (change : Change) (mail : String → Mailbox.Counts) :
    (s.render change mail).1.indexKey = s.indexKey := by
  simp only [render]
  split
  · rfl
  · next version h =>
    have hp : s.package = Package.dialog := by simp [package, h, Kind.package]
    split
    · rw [flush_indexKey]
      simp [indexKey, package, Kind.package, h]
    · simp [indexKey, package, Kind.package, h]

end Subscription
end SipNotifier
