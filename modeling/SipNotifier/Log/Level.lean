import SipNotifier.Text.Decimal

/-! Log levels: their names and numbers, which of them a level shows, and thresholds, which are a
level or nothing at all. -/
namespace SipNotifier.Log
set_option autoImplicit false

inductive Level where
  | error
  | warn
  | info
  | debug
  | trace
  deriving DecidableEq, Repr

namespace Level

/-- The text that is no level. -/
structure Invalid where
  text : String
  deriving DecidableEq, Repr

def Invalid.message (e : Invalid) : String := "Invalid log level: " ++ e.text

def all : List Level := [.error, .warn, .info, .debug, .trace]

def name : Level → String
  | .error => "ERROR"
  | .warn => "WARN"
  | .info => "INFO"
  | .debug => "DEBUG"
  | .trace => "TRACE"

/-- A level's number, from one for errors to five for traces. -/
def rank : Level → Nat
  | .error => 1
  | .warn => 2
  | .info => 3
  | .debug => 4
  | .trace => 5

/-- The greatest number that is read: it fits a word of 64 bits. -/
def maxNumber : Nat := 18446744073709551615

/-- Reads a name in any ASCII case, or a number. -/
def parse (text : String) : Except Invalid Level :=
  let found := match Text.unsignedDecimal? maxNumber text.toList with
    | some n => all.find? fun l => l.rank == n
    | none => all.find? fun l => l.name.toList == text.toList.map Char.toUpper
  match found with
  | some l => .ok l
  | none => .error ⟨text⟩

/-- A record of the second level is shown at the first. -/
def shows (l record : Level) : Bool := decide (record.rank ≤ l.rank)

end Level

/-! ## Thresholds -/

/-- How much is shown. -/
inductive Threshold where
  | off
  | upTo (level : Level)
  deriving DecidableEq, Repr

namespace Threshold

def shows (t : Threshold) (record : Level) : Bool :=
  match t with
  | .off => false
  | .upTo level => level.shows record

/-- Reads a level, or the name or number that stands for nothing. -/
def parse? (text : String) : Option Threshold :=
  if Text.unsignedDecimal? Level.maxNumber text.toList = some 0 ∨
      text.toList.map Char.toUpper = "OFF".toList then some .off
  else match Level.parse text with
    | .ok level => some (.upTo level)
    | .error _ => none

end Threshold
end SipNotifier.Log
