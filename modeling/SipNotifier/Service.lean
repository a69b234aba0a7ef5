import SipNotifier.Bus
import SipNotifier.CommandLine
import SipNotifier.Log.Filter
import SipNotifier.Settings

/-! The service as a process: how it starts from its options and its settings file, what its log
says at the start and at the end, and what decides which of it is shown. -/
namespace SipNotifier.Service
set_option autoImplicit false

def name : String := "sippbx"
def version : String := "0.1.0"

/-- The answer to a request for the version. -/
def versionLine : String := name ++ " " ++ version

/-! ## Start -/

inductive StartError where
  /-- The settings file cannot be used. -/
  | settings (path : String) (cause : Settings.Error)
  | noInterval
  | logLevel (cause : Log.Level.Invalid)
  deriving DecidableEq, Repr

def StartError.message : StartError → String
  | .settings path _ => "loading " ++ path
  | .noInterval => "--tick-interval must be at least 1 second"
  | .logLevel cause => cause.message

/-- What lies behind the message, where that is a setting out of bounds. -/
def StartError.cause? : StartError → Option String
  | .settings _ (.invalid cause) => some cause.message
  | _ => none

/-- The text that a failed start ends with. -/
def StartError.report (e : StartError) : String :=
  "Error: " ++ e.message ++
    match e.cause? with
    | some cause => "\n\nCaused by:\n    " ++ cause
    | none => ""

/-- A service that is ready to run. -/
structure Ready where
  settings : Settings
  tickInterval : Nat
  level : Log.Level
  deriving DecidableEq, Repr

/-- The settings file, where one is named, or the defaults. -/
def load (file : String → Option ByteArray) (config : Option String) : Except StartError Settings :=
  match config with
  | none => .ok {}
  | some path =>
    match Settings.ofFile (file path) with
    | .ok settings => .ok settings
    | .error cause => .error (.settings path cause)

/-- The settings with the options put over them. -/
def override (settings : Settings) (o : CommandLine.Options) : Settings :=
  { settings with
    voicemailRoot := o.voicemailRoot.getD settings.voicemailRoot
    logging := { settings.logging with
      level := o.logLevel.getD settings.logging.level
      json := o.jsonLogs || settings.logging.json } }

def start (o : CommandLine.Options) (file : String → Option ByteArray) : Except StartError Ready :=
  match load file o.config with
  | .error e => .error e
  | .ok loaded =>
    let settings := override loaded o
    if o.tickInterval = 0 then .error .noInterval
    else match Log.Level.parse settings.logging.level with
      | .ok level => .ok ⟨settings, o.tickInterval, level⟩
      | .error cause => .error (.logLevel cause)

/-! ## Log -/

/-- The variable that can hold a log filter. -/
def filterVariable : String := "RUST_LOG"

/-- The filter that the variable holds, or else the one that shows the configured level. -/
def filter (wanted : Option String) (configured : Log.Level) : Log.Filter :=
  (wanted.bind Log.Filter.parse?).getD (.upTo configured)

def banner (settings : Settings) : String :=
  "Voicemail spool at " ++ settings.voicemailRoot ++ ", sweep every " ++
    Int.repr settings.policy.sweepInterval ++ "s"

def bannerRecord (settings : Settings) : Log.Record := ⟨.program, .info, banner settings⟩

/-- What the log says first. -/
def openingRecords (settings : Settings) : List Log.Record :=
  [⟨.opening, .info, "Starting " ++ name ++ " v" ++ version⟩, bannerRecord settings]

/-- What the log says once the bus takes no more inputs. -/
def closingRecords (ending : Bus.Ending) (r : Router) : List Log.Record :=
  [⟨.bus, .info, ending.message⟩,
    ⟨.router, .info, "Router shutting down"⟩,
    ⟨.bus, .info, "Router stopped with " ++ Nat.repr r.mailboxes.entries.length ++
      " mailbox and " ++ Nat.repr r.dialogs.entries.length ++ " dialog subscriptions"⟩,
    ⟨.program, .info, name ++ " stopped"⟩]

/-- The text of a record as its reader sees it. Plain logs spell control characters out. -/
def logText (json : Bool) (text : String) : String :=
  if json then text else String.ofList (Text.spellOut text.toList)

/-- One line of the log. -/
def logLine (json : Bool) (r : Log.Record) : String :=
  if json then
    (Json.Value.object [("level", .string r.level.name), ("target", .string r.source.target),
      (Log.Record.field, .string (logText json r.text))]).write
  else r.level.name ++ " " ++ r.source.target ++ ": " ++ logText json r.text

end SipNotifier.Service
