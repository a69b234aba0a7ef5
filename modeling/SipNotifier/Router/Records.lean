import SipNotifier.Log.Record
import SipNotifier.Router.Basic

/-! What the log says about an event and what became of it. What it says about a look-up in the
spool is handed in. -/
namespace SipNotifier.Router
set_option autoImplicit false

/-- The mailbox whose counts an event may ask for. -/
def mailbox? : Inbound → Option String
  | .subscribe request => Subscription.resourceOf? request.uri
  | .mailboxUpdate user => some user
  | _ => none

/-- The mailboxes whose counts were asked for: one for each subscription that was rendered. -/
def lookUps (event : Inbound) (outcome : Outcome) : List String :=
  match event, outcome with
  | .subscribe request, .accepted _ _ =>
    if request.event = Package.messageSummary.name then
      (Subscription.resourceOf? request.uri).toList
    else []
  | .mailboxUpdate user, .updated count => List.replicate count user
  | _, _ => []

/-- The resource whose watchers an event lets render. -/
def watched? : Inbound → Option String
  | .mailboxUpdate user => some user
  | .callUpdate external _ _ => some external
  | .channelUpdate id _ => some id
  | _ => none

/-- The keys of both registries. -/
def keys (r : Router) : List String := r.mailboxes.keys ++ r.dialogs.keys

/-- What the log says about a subscription that is stored. -/
def storedRecords (r : Router) (key : String) (state : Subscription.State) : List Log.Record :=
  let change := if state.isTerminated then "Unsubscribed " else "New subscription "
  [⟨.subscription, .debug, "Rendered the new subscription " ++ key⟩,
    ⟨.router, .info, change ++ key⟩] ++
    if r.keys.contains key then [⟨.registry, .debug, "Replaced subscription " ++ key⟩] else []

/-- What the log says about watchers that are rendered. The empty key names no resource. -/
def updateRecords (key : String) (count : Nat) : List Log.Record :=
  let rendered : Log.Record := ⟨.subscription, .debug, "Rendered a subscription for " ++ key⟩
  List.replicate count rendered ++
    if key.isEmpty then []
    else [⟨.registry, .debug, "Updated " ++ Nat.repr count ++ " subscriptions for '" ++ key ++ "'"⟩]

/-- What the log says about a sweep: something, where an entry expired or a NOTIFY went out. -/
def sweepRecords (r : Router) (reaction : Reaction) : List Log.Record :=
  let expired := r.keys.filter fun key => !reaction.router.keys.contains key
  (expired.map fun key => ⟨.registry, .info, "Subscription " ++ key ++ " expired"⟩) ++
    if expired.isEmpty && reaction.sent.isEmpty then []
    else [⟨.router, .debug, "Swept " ++ Nat.repr expired.length ++ " subscriptions"⟩]

def outcomeRecords (r : Router) (event : Inbound) (reaction : Reaction) : List Log.Record :=
  match reaction.outcome with
  | .accepted key state => r.storedRecords key state
  | .discarded => [⟨.router, .debug, "Discarding a SUBSCRIBE that names no resource"⟩]
  | .rejected cause => [⟨.router, .warn, "Rejected SUBSCRIBE: " ++ cause.message⟩]
  | .updated count => updateRecords ((watched? event).getD "") count
  | .ticked true => r.sweepRecords reaction
  | .ticked false => []
  | .listed text => [⟨.router, .info, text⟩]

def records (r : Router) (lookUp : String → List Log.Record) (event : Inbound)
    (reaction : Reaction) : List Log.Record :=
  [⟨.router, .debug, "Handling " ++ event.kind.name ++ " event"⟩] ++
    (lookUps event reaction.outcome).flatMap lookUp ++
    (reaction.sent.map fun n => ⟨.subscription, .debug, "Notifying event " ++ n.event⟩) ++
    r.outcomeRecords event reaction

end SipNotifier.Router
