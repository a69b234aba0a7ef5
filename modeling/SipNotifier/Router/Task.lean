import SipNotifier.Router.Basic

/-! A router that runs as a task behind a bounded queue. Senders put commands in at the back while
there is room; the task takes them from the front, one at a time. Any order of the two kinds of
steps is a schedule: `enqueue?` is a step of a sender and `turn` one of the task. -/
namespace SipNotifier.Router
set_option autoImplicit false

inductive Command where
  | event (e : Inbound)
  /-- Asks for the listing, which is answered under the ticket. -/
  | listing (ticket : Nat)
  | shutdown
  deriving DecidableEq, Repr

inductive Status where
  | running
  | stopped
  | failed (cause : Seconds.Overflow)
  deriving DecidableEq, Repr

structure Task where
  capacity : Nat
  router : Router
  status : Status := .running
  /-- The commands that wait, the next one first. -/
  queue : List Command := []
  sent : List Notify := []
  /-- The listings that were answered, by ticket. -/
  replies : List (Nat × String) := []
  nextTicket : Nat := 0
  deriving DecidableEq, Repr

/-- Why a command did not get through to the router. -/
inductive Closed where
  | eventLost
  | listingLost
  | noReply
  | alreadyStopped
  deriving DecidableEq, Repr

def Closed.message (c : Closed) : String :=
  "Router unavailable: " ++ match c with
    | .eventLost => "event not delivered"
    | .listingLost => "diagnostics not delivered"
    | .noReply => "no diagnostics reply"
    | .alreadyStopped => "already stopped"

namespace Task

/-- A task with an empty queue; there is always room for one command. -/
def spawn (router : Router) (capacity : Nat) : Task :=
  { capacity := max capacity 1, router := router }

/-! ## Steps -/

/-- Puts a command at the back of the queue, if the task still runs and there is room. -/
def enqueue? (t : Task) (c : Command) : Option Task :=
  if t.status = .running ∧ t.queue.length < t.capacity then
    some { t with queue := t.queue ++ [c] }
  else none

/-- The task ends; the commands that still wait are dropped. -/
def finish (t : Task) (status : Status) : Task := { t with status := status, queue := [] }

/-- The task carries out one command. -/
def carryOut (w : Surroundings) (t : Task) : Command → Task
  | .event e =>
    match t.router.handle w e with
    | .ok reaction => { t with router := reaction.router, sent := t.sent ++ reaction.sent }
    | .error cause => t.finish (.failed cause)
  | .listing ticket =>
    match t.router.listing w.now with
    | .ok text => { t with replies := t.replies ++ [(ticket, text)] }
    | .error cause => t.finish (.failed cause)
  | .shutdown => t.finish .stopped

/-- The task takes the command at the front of the queue, if there is one. -/
def turn (w : Surroundings) (t : Task) : Task :=
  match t.status, t.queue with
  | .running, c :: rest => { t with queue := rest }.carryOut w c
  | _, _ => t

def turns (w : Surroundings) : Nat → Task → Task
  | 0, t => t
  | n + 1, t => turns w n (t.turn w)

/-- The task runs until nothing waits. -/
def drain (w : Surroundings) (t : Task) : Task := turns w t.queue.length t

/-! ## Senders that take turns with the task

A sender that finds the queue full lets the task run until nothing waits, and then finds room unless
the task has ended. -/

def submit (w : Surroundings) (t : Task) (c : Command) : Task × Bool :=
  match t.enqueue? c with
  | some t' => (t', true)
  | none =>
    let drained := t.drain w
    match drained.enqueue? c with
    | some t' => (t', true)
    | none => (drained, false)

def dispatch (w : Surroundings) (t : Task) (e : Inbound) : Task × Except Closed Unit :=
  match t.submit w (.event e) with
  | (t', true) => (t', .ok ())
  | (t', false) => (t', .error .eventLost)

def shutdown (w : Surroundings) (t : Task) : Task × Except Closed Unit :=
  match t.submit w .shutdown with
  | (t', true) => (t', .ok ())
  | (t', false) => (t', .error .alreadyStopped)

/-- Asks for the listing and waits for the answer. -/
def diagnostics (w : Surroundings) (t : Task) : Task × Except Closed String :=
  let ticket := t.nextTicket
  match { t with nextTicket := ticket + 1 }.submit w (.listing ticket) with
  | (t', false) => (t', .error .listingLost)
  | (t', true) =>
    let answered := t'.drain w
    match answered.replies.lookup ticket with
    | some text => (answered, .ok text)
    | none => (answered, .error .noReply)

end Task
end SipNotifier.Router
