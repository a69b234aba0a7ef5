import SipNotifier.Policy
import SipNotifier.Toml.Document

/-! The settings of the service and how they are read from a TOML document. Every setting has a
default. A group of settings is a table, or an array that gives them in order of declaration. -/
namespace SipNotifier
open Toml
set_option autoImplicit false

structure LogSettings where
  level : String := "info"
  json : Bool := false
  fileInfo : Bool := false
  deriving DecidableEq, Repr

structure Settings where
  policy : Policy := {}
  voicemailRoot : String := "/var/spool/voicemail"
  logging : LogSettings := {}
  deriving DecidableEq, Repr

namespace Settings

/-- Why settings cannot be used. -/
inductive Error where
  /-- There is no such file, or it is not text. -/
  | unreadable
  /-- The text is not TOML, or a setting has the wrong type. -/
  | malformed
  | invalid (cause : Policy.Invalid)
  deriving DecidableEq, Repr

/-! ## Groups -/

/-- The values of named settings, absent where a group does not give them. Names that are not asked
for are ignored, and a date gives none. -/
def group? (names : List String) (v : Value) : Option (List (Option Value)) :=
  match v with
  | .table _ entries => some (names.map fun name => entries.lookup name)
  | .array items => some ((List.range names.length).map fun i => items[i]?)
  | .tables elements =>
    some ((List.range names.length).map fun i => elements[i]?.map (Value.table .defined))
  | .datetime => some (names.map fun _ => none)
  | _ => none

def integerOr (default : Int) : Option Value → Option Int
  | none => some default
  | some (.integer n) => some n
  | some _ => none

def stringOr (default : String) : Option Value → Option String
  | none => some default
  | some (.string s) => some s
  | some _ => none

def booleanOr (default : Bool) : Option Value → Option Bool
  | none => some default
  | some (.boolean b) => some b
  | some _ => none

def policyOf? (v : Value) : Option Policy := do
  let start : Policy := {}
  match ← group? ["min_expires", "max_expires", "default_expires", "sweep_interval"] v with
  | [min, max, default, sweep] =>
    return {
      minExpires := ← integerOr start.minExpires min
      maxExpires := ← integerOr start.maxExpires max
      defaultExpires := ← integerOr start.defaultExpires default
      sweepInterval := ← integerOr start.sweepInterval sweep }
  | _ => none

def rootOf? (default : String) (v : Value) : Option String := do
  match ← group? ["root"] v with
  | [root] => stringOr default root
  | _ => none

def loggingOf? (v : Value) : Option LogSettings := do
  let start : LogSettings := {}
  match ← group? ["level", "json", "file_info"] v with
  | [level, json, fileInfo] =>
    return {
      level := ← stringOr start.level level
      json := ← booleanOr start.json json
      fileInfo := ← booleanOr start.fileInfo fileInfo }
  | _ => none

/-! ## Documents -/

/-- Reads one group of a document, or takes its default. -/
def groupOr {α : Type} (read : Value → Option α) (default : α) : Option Value → Option α
  | none => some default
  | some v => read v

def ofEntries? (entries : Entries) : Option Settings := do
  let start : Settings := {}
  return {
    policy := ← groupOr policyOf? start.policy (entries.lookup "subscription")
    voicemailRoot := ← groupOr (rootOf? start.voicemailRoot) start.voicemailRoot
      (entries.lookup "voicemail")
    logging := ← groupOr loggingOf? start.logging (entries.lookup "logging") }

/-- Reads settings from a document; their policy has to be valid. -/
def ofToml (text : String) : Except Error Settings :=
  match (Toml.parse? text).bind ofEntries? with
  | none => .error .malformed
  | some settings =>
    match settings.policy.validate with
    | .ok () => .ok settings
    | .error cause => .error (.invalid cause)

/-- Reads settings from the bytes of a file, if there is one. -/
def ofFile (contents : Option ByteArray) : Except Error Settings :=
  match contents.bind String.fromUTF8? with
  | none => .error .unreadable
  | some text => ofToml text

end Settings
end SipNotifier
