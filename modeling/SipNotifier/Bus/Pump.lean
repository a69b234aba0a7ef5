import SipNotifier.Bus
import SipNotifier.Router.Task

/-! The bus at work: three parties that move in any order. A loop takes the inputs one at a time and
puts each into the queue of the router's task; the task carries the commands out and hands over its
NOTIFYs one by one to the outbound channel; a writer takes what is in the channel and writes it. The
loop waits for the listings it asks for and puts them into the same channel. It stops the task at the
end of the inputs, or between two of them when it is asked to shut down. -/
namespace SipNotifier.Bus
set_option autoImplicit false

/-- Where the loop stands. -/
inductive Place where
  | reading
  /-- With a command that needs room in the queue. -/
  | sending (c : Router.Command)
  /-- Before the listing that was asked for under the ticket. -/
  | awaiting (ticket : Nat)
  /-- Before the end of the task, which was told to stop. -/
  | joining
  | closed
  /-- The task was gone when it was needed. -/
  | lost (cause : Router.Closed)
  /-- The task failed before it was told to stop. -/
  | broken (cause : Seconds.Overflow)
  deriving DecidableEq, Repr

/-- Where the loop stands once a command is in the queue. -/
def Place.behind : Router.Command → Place
  | .event _ => .reading
  | .listing ticket => .awaiting ticket
  | .shutdown => .joining

/-- What the loop ends with when a command does not get through. -/
def lostWith : Router.Command → Router.Closed
  | .event _ => .eventLost
  | .listing _ => .listingLost
  | .shutdown => .alreadyStopped

/-- How many commands the program lets wait for the router. -/
def queueCapacity : Nat := 1024

structure Pump where
  task : Router.Task
  /-- The lines and ticks that the loop has still to take. -/
  inputs : List Input
  place : Place := .reading
  /-- The NOTIFYs of the last command that are not in the channel yet. -/
  outbox : List Notify := []
  channel : List Outbound := []
  output : List UInt8 := []
  deriving DecidableEq, Repr

namespace Pump

def start (router : Router) (capacity : Nat) (inputs : List Input) : Pump :=
  { task := .spawn router capacity, inputs := inputs }

/-! ## The loop -/

/-- Takes the next input; a query draws a ticket. At the end of the inputs the task is to stop. -/
def take (p : Pump) : Pump :=
  match p.inputs with
  | [] => { p with place := .sending .shutdown }
  | input :: rest =>
    match input.event? with
    | none => { p with inputs := rest }
    | some .diagnosticQuery =>
      { p with
        inputs := rest, place := .sending (.listing p.task.nextTicket)
        task := { p.task with nextTicket := p.task.nextTicket + 1 } }
    | some event => { p with inputs := rest, place := .sending (.event event) }

def send? (p : Pump) (c : Router.Command) : Option Pump :=
  match p.task.enqueue? c with
  | some t => some { p with task := t, place := .behind c }
  | none =>
    if p.task.status = .running then none else some { p with place := .lost (lostWith c) }

def receive? (p : Pump) (ticket : Nat) : Option Pump :=
  match p.task.replies.lookup ticket with
  | some text =>
    some { p with place := .reading, channel := p.channel ++ [.diagnostics text] }
  | none => if p.task.status = .running then none else some { p with place := .lost .noReply }

def join? (p : Pump) : Option Pump :=
  match p.task.status with
  | .running => none
  | .stopped => some { p with place := .closed }
  | .failed cause => some { p with place := .broken cause }

def loop? (p : Pump) : Option Pump :=
  match p.place with
  | .reading => some p.take
  | .sending c => p.send? c
  | .awaiting ticket => p.receive? ticket
  | .joining => p.join?
  | _ => none

/-- A request to shut down is heard where the loop waits for an input. The inputs that are left stay
unread. -/
def interrupt? (p : Pump) : Option Pump :=
  if p.place = .reading then some { p with place := .sending .shutdown } else none

/-! ## The task and the writer -/

/-- The task carries out the next command once the last one's NOTIFYs are in the channel. -/
def turn? (p : Pump) (w : Surroundings) : Option Pump :=
  if p.task.status = .running ∧ p.task.queue ≠ [] ∧ p.outbox = [] then
    let task := p.task.turn w
    some { p with task := task, outbox := task.sent.drop p.task.sent.length }
  else none

def push? (p : Pump) : Option Pump :=
  match p.outbox with
  | [] => none
  | n :: rest => some { p with outbox := rest, channel := p.channel ++ [.notify n] }

def write? (p : Pump) : Option Pump :=
  match p.channel with
  | [] => none
  | e :: rest => some { p with channel := rest, output := p.output ++ Bus.output [e] }

/-! ## Schedules -/

inductive Move where
  | loop
  /-- The loop is asked to shut down. -/
  | interrupt
  /-- A turn of the task, with what it finds around it. -/
  | turn (w : Surroundings)
  | push
  | write

/-- The pump after a move, if the party can move. -/
def step? (p : Pump) : Move → Option Pump
  | .loop => p.loop?
  | .interrupt => p.interrupt?
  | .turn w => p.turn? w
  | .push => p.push?
  | .write => p.write?

def run? (p : Pump) : List Move → Option Pump
  | [] => some p
  | m :: ms => (p.step? m).bind fun q => q.run? ms

end Pump
end SipNotifier.Bus
