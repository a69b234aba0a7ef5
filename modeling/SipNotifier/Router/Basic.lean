import SipNotifier.Registry

/-! The router: both registries, the policy, and the time of the next sweep. It handles one event at
a time, with the clock reading and the mailbox counts of that moment. -/
namespace SipNotifier
set_option autoImplicit false

/-- What an event finds around it: the time, and how full each mailbox is. -/
structure Surroundings where
  now : Int
  mail : String → Mailbox.Counts

structure Router where
  policy : Policy
  mailboxes : Registry := ⟨.messageSummary, []⟩
  dialogs : Registry := ⟨.dialog, []⟩
  nextSweep : Int := 0
  deriving DecidableEq, Repr

namespace Router

/-- What became of an event. -/
inductive Outcome where
  /-- The subscription is stored under the key and its first NOTIFY is out. -/
  | accepted (indexKey : String) (state : Subscription.State)
  /-- The request names no resource. -/
  | discarded
  | rejected (cause : Package.Unsupported)
  /-- The number of subscriptions that were rendered. -/
  | updated (count : Nat)
  /-- Whether the tick was due. -/
  | ticked (swept : Bool)
  | listed (text : String)
  deriving DecidableEq, Repr

structure Reaction where
  router : Router
  outcome : Outcome
  sent : List Notify
  deriving DecidableEq, Repr

def registry (r : Router) : Package → Registry
  | .messageSummary => r.mailboxes
  | .dialog => r.dialogs

def setRegistry (r : Router) (package : Package) (entries : Registry) : Router :=
  match package with
  | .messageSummary => { r with mailboxes := entries }
  | .dialog => { r with dialogs := entries }

/-! ## Events -/

/-- Renders a new subscription, sends its first NOTIFY and stores it. -/
def enroll (r : Router) (w : Surroundings) (package : Package) (s : Subscription) : Reaction :=
  let (rendered, early) := s.render .subscribed w.mail
  let (flushed, late) := rendered.flush
  ⟨r.setRegistry package ((r.registry package).upsert flushed),
    .accepted flushed.indexKey flushed.state, early.toList ++ late.toList⟩

/-- Accepts, refreshes or ends a subscription. A request that is turned down changes nothing. -/
def subscribe (r : Router) (w : Surroundings) (request : SubscribeRequest) :
    Except Seconds.Overflow Reaction :=
  match Package.negotiate request.event request.accept with
  | .error cause => .ok ⟨r, .rejected cause, []⟩
  | .ok package =>
    match Subscription.ofRequest request package r.policy w.now with
    | .error (.noResource _) => .ok ⟨r, .discarded, []⟩
    | .error (.overflow cause) => .error cause
    | .ok s => .ok (r.enroll w package s)

/-- Renders the watchers of a resource in one registry. -/
def update (r : Router) (w : Surroundings) (package : Package) (key : String)
    (change : Subscription.Change) : Reaction :=
  let watched := r.registry package
  let (rendered, sent) := watched.update key change w.mail
  ⟨r.setRegistry package rendered, .updated (watched.watchers key), sent⟩

/-- Drops what has expired and sends what waits, mailboxes before dialogs each time. -/
def sweep (r : Router) (time : Int) : Router × List Notify :=
  let (keptMailboxes, endedMailboxes) := r.mailboxes.sweep time
  let (keptDialogs, endedDialogs) := r.dialogs.sweep time
  let (mailboxes, newMailboxes) := keptMailboxes.flush
  let (dialogs, newDialogs) := keptDialogs.flush
  ({ r with mailboxes := mailboxes, dialogs := dialogs },
    endedMailboxes ++ endedDialogs ++ newMailboxes ++ newDialogs)

/-- Sweeps when the next sweep is due; an earlier tick is ignored. -/
def tick (r : Router) (time : Int) : Reaction :=
  if time < r.nextSweep then ⟨r, .ticked false, []⟩
  else
    let next := Seconds.addClamped time r.policy.sweepInterval
    let (swept, sent) := { r with nextSweep := next }.sweep time
    ⟨swept, .ticked true, sent⟩

/-- Every subscription with the time it has left. -/
def listing (r : Router) (now : Int) : Except Seconds.Overflow String := do
  let mailboxes ← r.mailboxes.listing now
  let dialogs ← r.dialogs.listing now
  return "Subscriptions:\r\n" ++ mailboxes ++ dialogs

def handle (r : Router) (w : Surroundings) (event : Inbound) : Except Seconds.Overflow Reaction :=
  match event with
  | .subscribe request => r.subscribe w request
  | .mailboxUpdate user => .ok (r.update w .messageSummary user .mailbox)
  | .callUpdate external channel call => .ok (r.update w .dialog external (.call call channel))
  | .channelUpdate id call => .ok (r.update w .dialog id (.call call none))
  | .timerTick time => .ok (r.tick time)
  | .diagnosticQuery => (r.listing w.now).map fun text => ⟨r, .listed text, []⟩

/-! ## Runs -/

/-- The router after a run of events, and everything that was sent. -/
def run (r : Router) :
    List (Surroundings × Inbound) → Except Seconds.Overflow (Router × List Notify)
  | [] => .ok (r, [])
  | (w, event) :: rest => do
    let reaction ← r.handle w event
    let (last, sent) ← reaction.router.run rest
    return (last, reaction.sent ++ sent)

/-! ## Description -/

/-- The policy, the sizes of the registries and the next sweep, on one line. -/
def describe (r : Router) : String :=
  "EventRouter \x7b config: SubscriptionConfig \x7b min_expires: " ++
    Int.repr r.policy.minExpires ++ ", max_expires: " ++ Int.repr r.policy.maxExpires ++
    ", default_expires: " ++ Int.repr r.policy.defaultExpires ++
    ", sweep_interval: " ++ Int.repr r.policy.sweepInterval ++
    " \x7d, mailboxes: " ++ Nat.repr r.mailboxes.entries.length ++
    ", dialogs: " ++ Nat.repr r.dialogs.entries.length ++
    ", next_sweep: " ++ Int.repr r.nextSweep ++ " \x7d"

end Router
end SipNotifier
