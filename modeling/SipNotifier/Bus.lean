import SipNotifier.Event.Decode
import SipNotifier.Event.Encode
import SipNotifier.Router.Records
import SipNotifier.Text.Blank

/-! The bus: one inbound event on each line that comes in, one outbound event on each line that goes
out. Blank lines and lines that do not decode change nothing. -/
namespace SipNotifier.Bus
set_option autoImplicit false

/-! ## Lines -/

/-- Cuts bytes at the ends of lines. A carriage return in front of an end belongs to it, and what
follows the last end is a line if it is not empty. -/
def splitLines (bytes : List UInt8) : List (List UInt8) :=
  let rec go (line : List UInt8) : List UInt8 → List (List UInt8)
    | [] => if line.isEmpty then [] else [line.reverse]
    | b :: rest =>
      if b = 10 then
        (match line with
          | 13 :: before => before.reverse
          | _ => line.reverse) :: go [] rest
      else go (b :: line) rest
  go [] bytes

def decodeUtf8? (bytes : List UInt8) : Option String := String.fromUTF8? ⟨bytes.toArray⟩

/-- The lines of an input, unless one of them is not text. -/
def lines? (bytes : List UInt8) : Option (List String) := (splitLines bytes).mapM decodeUtf8?

/-- The event that a line stands for, or none for a blank line. -/
def readLine (line : String) : Except Inbound.DecodeError (Option Inbound) :=
  let content := Text.trim line.toList
  if content.isEmpty then .ok none else (Inbound.decode (String.ofList content)).map some

/-! ## Events -/

/-- What the bus writes for a reaction: a listing on its own, or the NOTIFYs. -/
def written (reaction : Router.Reaction) : List Outbound :=
  match reaction.outcome with
  | .listed text => [.diagnostics text]
  | _ => reaction.sent.map .notify

/-- The bytes that events are written as. -/
def output (events : List Outbound) : List UInt8 :=
  events.flatMap fun e => e.line.toUTF8.data.toList

inductive Input where
  | line (text : String)
  | tick (time : Int)
  deriving DecidableEq, Repr

def Input.event? : Input → Option Inbound
  | .line text => (readLine text).toOption.join
  | .tick time => some (.timerTick time)

def step (r : Router) (w : Surroundings) (input : Input) :
    Except Seconds.Overflow (Router × List Outbound) :=
  match input.event? with
  | none => .ok (r, [])
  | some event => (r.handle w event).map fun reaction => (reaction.router, written reaction)

/-- The router after all inputs, and everything written, in order. -/
def run (r : Router) :
    List (Surroundings × Input) → Except Seconds.Overflow (Router × List Outbound)
  | [] => .ok (r, [])
  | (w, input) :: rest => do
    let (next, first) ← step r w input
    let (last, others) ← run next rest
    return (last, first ++ others)

/-! ## Log -/

/-- Why the bus takes no more inputs. -/
inductive Ending where
  | inputClosed
  | shutdownRequested
  deriving DecidableEq, Repr

def Ending.message : Ending → String
  | .inputClosed => "Input closed"
  | .shutdownRequested => "Shutdown requested"

/-- What the log says about an event on the bus. -/
def eventRecords (lookUp : String → List Log.Record) (r : Router) (w : Surroundings)
    (event : Inbound) : List Log.Record :=
  match event with
  | .diagnosticQuery => []
  | _ =>
    match r.handle w event with
    | .ok reaction => r.records lookUp event reaction
    | .error _ => []

/-- What the log says about an input. -/
def records (lookUp : String → List Log.Record) (r : Router) (w : Surroundings) (input : Input) :
    List Log.Record :=
  match input with
  | .tick time => eventRecords lookUp r w (.timerTick time)
  | .line text =>
    match readLine text with
    | .error cause => [⟨.bus, .warn, "Ignoring bus line: " ++ cause.message?.getD "not an event"⟩]
    | .ok none => []
    | .ok (some event) =>
      ⟨.bus, .debug, "Received " ++ event.kind.name ++ " event"⟩ :: eventRecords lookUp r w event

/-- What the log says about all inputs. -/
def log (lookUp : String → List Log.Record) (r : Router) :
    List (Surroundings × Input) → List Log.Record
  | [] => []
  | (w, input) :: rest =>
    records lookUp r w input ++
      match step r w input with
      | .ok (next, _) => log lookUp next rest
      | .error _ => []

end SipNotifier.Bus
