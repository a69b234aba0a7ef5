import SipNotifier.Service
import SipNotifier.Spool
import Std.Time.DateTime.Timestamp

/-! The program: it reads its options, its settings file and the spool, takes lines from standard
input and ticks from the clock, and writes what the bus answers. -/
namespace SipNotifier.Program
set_option autoImplicit false

/-! ## The world outside -/

/-- The time in seconds since the epoch. -/
def clock : IO Int := do
  return (← Std.Time.Timestamp.now).toSecondsSinceUnixEpoch.val

/-- The variables that matter, with their values. -/
def environment : IO (List (String × String)) := do
  let options := CommandLine.Name.all.filterMap CommandLine.Name.environment?
  let names := [Service.filterVariable, CommandLine.plainVariable, CommandLine.styledVariable] ++
    options
  let found ← names.mapM fun name => do
    return (← IO.getEnv name).map fun value => (name, value)
  return found.filterMap id

def contents (path : String) : IO (Option ByteArray) := do
  try return some (← IO.FS.readBinFile path)
  catch _ => return none

/-- The listing of a mailbox's directory. Names that lead elsewhere are not looked up. -/
def listing (root mailbox : String) : IO Spool.Listing := do
  if !Spool.accepts mailbox then return .missing
  if root.toList.contains '\x00' || mailbox.toList.contains '\x00' then return .unreadable
  let place : IO.FS.DirEntry := { root := root, fileName := mailbox }
  try
    let found ← place.path.readDir
    return .entries (found.toList.map fun entry => entry.fileName)
  catch
    | .noFileOrDirectory .. => return .missing
    | _ => return .unreadable

/-! ## The run -/

structure Run where
  ready : Service.Ready
  filter : Log.Filter
  router : Router

/-- Writes those of the records that the filter shows. -/
def Run.log (r : Run) (records : List Log.Record) : IO Unit := do
  for record in records.filter r.filter.shows do
    IO.eprintln (Service.logLine r.ready.settings.logging.json record)

/-- The clock reading and the one mailbox that an input may ask for. -/
def Run.listings (r : Run) (input : Bus.Input) : IO (String → Spool.Listing) := do
  match input.event?.bind Router.mailbox? with
  | none => return fun _ => .missing
  | some mailbox =>
    let found ← listing r.ready.settings.voicemailRoot mailbox
    return fun name => if name = mailbox then found else .missing

/-- Gives one input to the bus and writes what comes back. -/
def Run.feed (r : Run) (input : Bus.Input) : IO (Except Seconds.Overflow Run) := do
  let list ← r.listings input
  let w : Surroundings := ⟨← clock, Spool.stat list⟩
  r.log (Bus.records (Spool.records list) r.router w input)
  match Bus.step r.router w input with
  | .error cause => return .error cause
  | .ok (router, out) =>
    let stdout ← IO.getStdout
    for event in out do
      stdout.putStr event.line
      stdout.flush
    return .ok { r with router := router }

/-- Waits for the next line or the next tick, whichever comes first. -/
partial def Run.loop (r : Run) (stdin : IO.FS.Stream) (line : Task (Except IO.Error String))
    (due : Nat) : IO UInt32 := do
  let continueWith (r' : Except Seconds.Overflow Run) (next : Task (Except IO.Error String))
      (due' : Nat) : IO UInt32 := do
    match r' with
    | .ok r' => r'.loop stdin next due'
    | .error cause =>
      IO.eprintln ("Error: " ++ cause.message)
      return 1
  if due ≤ (← IO.monoMsNow) then
    continueWith (← r.feed (.tick (← clock))) line (due + r.ready.tickInterval * 1000)
  else if ← IO.hasFinished line then
    match line.get with
    | .error e =>
      IO.eprintln ("Error: " ++ toString e)
      return 1
    | .ok "" =>
      r.log (Service.closingRecords .inputClosed r.router)
      return 0
    | .ok text =>
      let next ← r.feed (.line text)
      continueWith next (← IO.asTask stdin.getLine) due
  else
    IO.sleep 10
    r.loop stdin line due

def serve (ready : Service.Ready) (filter : Log.Filter) : IO UInt32 := do
  let r : Run := ⟨ready, filter, { policy := ready.settings.policy }⟩
  r.log (Service.openingRecords ready.settings)
  let stdin ← IO.getStdin
  r.loop stdin (← IO.asTask stdin.getLine) (← IO.monoMsNow)

end SipNotifier.Program

open SipNotifier in
def main (arguments : List String) : IO UInt32 := do
  let found ← Program.environment
  let env := fun name => found.lookup name
  match CommandLine.parse arguments env with
  | .error usage =>
    IO.eprintln (usage.message ++ "\n\nUsage: " ++ Service.name ++
      " [OPTIONS]\n\nFor more information, try '--help'.")
    return 2
  | .ok .help =>
    IO.println (CommandLine.help Service.name env)
    return 0
  | .ok .version =>
    IO.println Service.versionLine
    return 0
  | .ok (.run options) =>
    let file ← match options.config with
      | some path => Program.contents path
      | none => pure none
    match Service.start options (fun _ => file) with
    | .error e =>
      IO.eprintln e.report
      return 1
    | .ok ready => Program.serve ready (Service.filter (env Service.filterVariable) ready.level)
