import SipNotifier.Text.Decimal
import SipNotifier.Text.Terminal

/-! The command line: options with a value, flags, and the environment variables that stand in for
options that are not given. The first fault or request for help or version decides. -/
namespace SipNotifier.CommandLine
set_option autoImplicit false

structure Options where
  config : Option String := none
  logLevel : Option String := none
  jsonLogs : Bool := false
  voicemailRoot : Option String := none
  /-- The seconds between two ticks. -/
  tickInterval : Nat := 1
  deriving DecidableEq, Repr

inductive Request where
  | help
  | version
  | run (options : Options)
  deriving DecidableEq, Repr

inductive Usage where
  | unexpected (argument : String)
  | repeated (name : String)
  | valueMissing (name : String)
  | valueUnexpected (name : String)
  | valueInvalid (name value : String)
  deriving DecidableEq, Repr

def Usage.message : Usage → String
  | .unexpected argument => "error: unexpected argument '" ++ argument ++ "' found"
  | .repeated name => "error: the argument '--" ++ name ++ "' cannot be used multiple times"
  | .valueMissing name => "error: a value is required for '--" ++ name ++ "' but none was supplied"
  | .valueUnexpected name =>
    "error: unexpected value for '--" ++ name ++ "' found; no more were expected"
  | .valueInvalid name value => "error: invalid value '" ++ value ++ "' for '--" ++ name ++ "'"

/-! ## Options -/

inductive Name where
  | config
  | logLevel
  | voicemailRoot
  | tickInterval
  deriving DecidableEq, Repr

def Name.all : List Name := [.config, .logLevel, .voicemailRoot, .tickInterval]

def Name.long : Name → String
  | .config => "config"
  | .logLevel => "log-level"
  | .voicemailRoot => "voicemail-root"
  | .tickInterval => "tick-interval"

/-- The variable that stands in for the option. -/
def Name.environment? : Name → Option String
  | .config => some "SIPPBX_CONFIG"
  | .logLevel => some "SIPPBX_LOG_LEVEL"
  | .voicemailRoot => some "SIPPBX_VOICEMAIL_ROOT"
  | .tickInterval => none

/-- The greatest interval: it fits a word of 64 bits. -/
def maxInterval : Nat := 18446744073709551615

/-- A path is not empty, an interval is a number, and a level is any text. -/
def Name.accepts (n : Name) (value : String) : Bool :=
  match n with
  | .config | .voicemailRoot => !value.isEmpty
  | .logLevel => true
  | .tickInterval => (Text.unsignedDecimal? maxInterval value.toList).isSome

/-- What has been given so far. -/
structure Given where
  values : List (Name × String) := []
  jsonLogs : Bool := false
  deriving DecidableEq, Repr

def Given.add (g : Given) (n : Name) (value : String) : Except Usage Given :=
  if !n.accepts value then .error (.valueInvalid n.long value)
  else if (g.values.lookup n).isSome then .error (.repeated n.long)
  else .ok { g with values := g.values ++ [(n, value)] }

/-! ## Arguments -/

/-- What one argument asks for. -/
inductive Word where
  | help
  | version
  | jsonLogs
  | option (n : Name) (value : Option String)
  /-- Everything behind this word is an operand. -/
  | dashes
  | faulty (cause : Usage)
  deriving DecidableEq, Repr

/-- Reads an argument behind its two dashes. -/
def readLong (body : List Char) : Word :=
  let name := String.ofList (body.takeWhile (· != '='))
  let value := match body.dropWhile (· != '=') with
    | _ :: rest => some (String.ofList rest)
    | [] => none
  let flag (word : Word) : Word := if value.isSome then .faulty (.valueUnexpected name) else word
  if name = "help" then flag .help
  else if name = "version" then flag .version
  else if name = "json-logs" then flag .jsonLogs
  else match Name.all.find? fun n => n.long == name with
    | some n => .option n value
    | none => .faulty (.unexpected ("--" ++ name))

/-- Reads an argument behind its one dash. An equals sign in front of the value is no part of it. -/
def readShort (body : List Char) : Word :=
  match body with
  | 'h' :: _ => .help
  | 'V' :: _ => .version
  | 'c' :: [] => .option .config none
  | 'c' :: '=' :: value => .option .config (some (String.ofList value))
  | 'c' :: value => .option .config (some (String.ofList value))
  | _ => .faulty (.unexpected ("-" ++ String.ofList body))

def readWord (argument : String) : Word :=
  match argument.toList with
  | ['-', '-'] => .dashes
  | '-' :: '-' :: body => readLong body
  | '-' :: c :: body => readShort (c :: body)
  | _ => .faulty (.unexpected argument)

/-- An argument that can be the value of the option in front of it. -/
def isValue (argument : String) : Bool :=
  match argument.toList with
  | '-' :: _ :: _ => false
  | _ => true

/-- Takes the arguments in turn. -/
def scan (g : Given) : List String → Except Usage (Given ⊕ Request)
  | [] => .ok (.inl g)
  | argument :: rest =>
    match readWord argument with
    | .help => .ok (.inr .help)
    | .version => .ok (.inr .version)
    | .jsonLogs =>
      if g.jsonLogs then .error (.repeated "json-logs") else scan { g with jsonLogs := true } rest
    | .option n (some value) =>
      match g.add n value with
      | .ok g' => scan g' rest
      | .error e => .error e
    | .option n none =>
      match rest with
      | [] => .error (.valueMissing n.long)
      | value :: rest' =>
        if isValue value then
          match g.add n value with
          | .ok g' => scan g' rest'
          | .error e => .error e
        else .error (.valueMissing n.long)
    | .dashes =>
      match rest with
      | [] => .ok (.inl g)
      | operand :: _ => .error (.unexpected operand)
    | .faulty cause => .error cause

/-- The value of an option: the one given, or that of its variable. -/
def value? (env : String → Option String) (g : Given) (n : Name) : Except Usage (Option String) :=
  match g.values.lookup n with
  | some value => .ok (some value)
  | none =>
    match n.environment?.bind env with
    | none => .ok none
    | some value =>
      if n.accepts value then .ok (some value) else .error (.valueInvalid n.long value)

def options (env : String → Option String) (g : Given) : Except Usage Options := do
  let config ← value? env g .config
  let logLevel ← value? env g .logLevel
  let voicemailRoot ← value? env g .voicemailRoot
  let interval ← value? env g .tickInterval
  let seconds := interval.bind fun s => Text.unsignedDecimal? maxInterval s.toList
  return { config := config, logLevel := logLevel, jsonLogs := g.jsonLogs
           voicemailRoot := voicemailRoot, tickInterval := seconds.getD 1 }

def parse (arguments : List String) (env : String → Option String) : Except Usage Request :=
  match scan {} arguments with
  | .error e => .error e
  | .ok (.inr request) => .ok request
  | .ok (.inl g) => (options env g).map .run

/-! ## Help -/

/-- The indentation of what an option is for. -/
def margin : String := "          "

/-- The place for a variable's name and value in the help text. A value of several lines keeps to
the margin. -/
def environmentNote (env : String → Option String) (n : Name) : String :=
  match n.environment? with
  | none => ""
  | some name =>
    let value := ((env name).getD "").toList.flatMap fun c =>
      if c = '\n' then '\n' :: margin.toList else [c]
    " [env: " ++ name ++ "=" ++ String.ofList value ++ "]"

/-- Text in bold letters. -/
def bold (text : String) : String := "\x1b[1m" ++ text ++ "\x1b[0m"

/-- A heading: underlined, in bold letters. -/
def heading (text : String) : String := "\x1b[1m\x1b[4m" ++ text ++ "\x1b[0m"

/-- The help text for a terminal. -/
def styledHelp (program : String) (env : String → Option String) : String :=
  String.intercalate "\n"
    ["SIP event subscription manager for message-summary and dialog packages", "",
      heading "Usage:" ++ " " ++ bold program ++ " [OPTIONS]", "", heading "Options:",
      "  " ++ bold "-c" ++ ", " ++ bold "--config" ++ " <CONFIG>",
      margin ++ "TOML configuration file" ++ environmentNote env .config,
      "      " ++ bold "--log-level" ++ " <LOG_LEVEL>",
      margin ++ "Log level (trace, debug, info, warn, error)" ++ environmentNote env .logLevel,
      "      " ++ bold "--json-logs",
      margin ++ "Emit logs as JSON",
      "      " ++ bold "--voicemail-root" ++ " <VOICEMAIL_ROOT>",
      margin ++ "Voicemail spool directory" ++ environmentNote env .voicemailRoot,
      "      " ++ bold "--tick-interval" ++ " <TICK_INTERVAL>",
      margin ++ "Seconds between timer ticks [default: 1]",
      "  " ++ bold "-h" ++ ", " ++ bold "--help",
      margin ++ "Print help",
      "  " ++ bold "-V" ++ ", " ++ bold "--version",
      margin ++ "Print version"]

/-- The variable that asks for plain text. -/
def plainVariable : String := "NO_COLOR"

/-- The variable that asks for styled text where the output is no terminal. -/
def styledVariable : String := "CLICOLOR_FORCE"

/-- Styled text is asked for, and plain text is not. An empty value asks for nothing. -/
def wantsStyle (env : String → Option String) : Bool :=
  let asks (name : String) : Bool := ((env name).getD "") != ""
  asks styledVariable && !asks plainVariable

/-- The help text, without its control sequences unless they are asked for. -/
def help (program : String) (env : String → Option String) : String :=
  let text := styledHelp program env
  if wantsStyle env then text else String.ofList (Text.visible text.toList)

end SipNotifier.CommandLine
