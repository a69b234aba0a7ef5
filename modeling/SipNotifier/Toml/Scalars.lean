import SipNotifier.Text.Decimal
import SipNotifier.Text.DoubleRange
import SipNotifier.Text.Hex
import SipNotifier.Toml.Value

/-! Reading the TOML values that are written without quotes: integers, floats, booleans and dates.
Each of them is a whole run of the characters that such values consist of. -/
namespace SipNotifier.Toml
open Text
set_option autoImplicit false

/-! ## Digits -/

/-- The digits of a run in which single underscores may stand between digits. -/
def ungroup? (isDigit : Char → Bool) : List Char → Option (List Char)
  | [] => none
  | [c] => if isDigit c then some [c] else none
  | c :: '_' :: rest => if isDigit c then (ungroup? isDigit rest).map (c :: ·) else none
  | c :: rest => if isDigit c then (ungroup? isDigit rest).map (c :: ·) else none

/-- Digits without idle zeros in front. -/
def wholeDigits? (cs : List Char) : Option (List Char) :=
  (ungroup? Char.isDigit cs).filter fun ds => ds == ['0'] || ds.head? != some '0'

/-- Whether a sign makes the number negative, and what follows the sign. -/
def splitSign : List Char → Bool × List Char
  | '-' :: rest => (true, rest)
  | '+' :: rest => (false, rest)
  | rest => (false, rest)

/-! ## Integers -/

/-- The integer fits a signed word of 64 bits. -/
def inWord (n : Int) : Bool :=
  decide (-9223372036854775808 ≤ n) && decide (n < 9223372036854775808)

def readInBase (base : Nat) (cs : List Char) : Option Int :=
  ((ungroup? (fun c => (valueInBase? base [c]).isSome) cs).bind (valueInBase? base)).map Int.ofNat

def readInteger (run : List Char) : Option Int :=
  Option.filter inWord <| match run with
    | '0' :: 'x' :: ds => readInBase 16 ds
    | '0' :: 'o' :: ds => readInBase 8 ds
    | '0' :: 'b' :: ds => readInBase 2 ds
    | _ =>
      let (negative, cs) := splitSign run
      (wholeDigits? cs).map fun ds =>
        if negative then -(decimalValue ds : Int) else (decimalValue ds : Int)

/-! ## Floats -/

/-- The power of ten behind its letter. -/
def readPower (cs : List Char) : Option Int :=
  let (negative, ds) := splitSign cs
  (ungroup? Char.isDigit ds).map fun ds =>
    if negative then -(decimalValue ds : Int) else (decimalValue ds : Int)

/-- Some digits, a point with digits behind it, and a power; one of the last two may be missing. A
positive number beyond the largest double is none. -/
def isFloat (run : List Char) : Bool :=
  let (negative, cs) := splitSign run
  if cs == "inf".toList || cs == "nan".toList then true
  else
    let mantissa := cs.takeWhile fun c => c != 'e' && c != 'E'
    let power := cs.dropWhile fun c => c != 'e' && c != 'E'
    let point := mantissa.dropWhile (· != '.')
    let whole? := wholeDigits? (mantissa.takeWhile (· != '.'))
    let fraction? := if point.isEmpty then some [] else ungroup? Char.isDigit point.tail
    let power? := if power.isEmpty then some 0 else readPower power.tail
    match whole?, fraction?, power? with
    | some whole, some fraction, some n =>
      !(point.isEmpty && power.isEmpty) &&
        (negative || !exceedsDouble (decimalValue (whole ++ fraction)) (n - fraction.length))
    | _, _, _ => false

/-! ## Dates and times -/

/-- Takes a number of exactly so many digits that lies between two bounds. -/
def takeNumber (width low high : Nat) (cs : List Char) : Option (Nat × List Char) :=
  let ds := cs.take width
  let n := decimalValue ds
  if ds.length = width ∧ ds.all Char.isDigit ∧ low ≤ n ∧ n ≤ high then some (n, cs.drop width)
  else none

def takeChar (c : Char) : List Char → Option (List Char)
  | d :: rest => if d = c then some rest else none
  | [] => none

def daysIn (year month : Nat) : Nat :=
  if month = 2 then
    if year % 4 = 0 ∧ (year % 100 ≠ 0 ∨ year % 400 = 0) then 29 else 28
  else if month ∈ [4, 6, 9, 11] then 30
  else 31

/-- Takes a date off the front. -/
def takeDate (cs : List Char) : Option (List Char) := do
  let (year, cs) ← takeNumber 4 0 9999 cs
  let cs ← takeChar '-' cs
  let (month, cs) ← takeNumber 2 1 12 cs
  let cs ← takeChar '-' cs
  let (_, cs) ← takeNumber 2 1 (daysIn year month) cs
  return cs

/-- Takes a time with its seconds, which may have a fraction, off the front. -/
def takeTime (cs : List Char) : Option (List Char) := do
  let (_, cs) ← takeNumber 2 0 23 cs
  let cs ← takeChar ':' cs
  let (_, cs) ← takeNumber 2 0 59 cs
  let cs ← takeChar ':' cs
  let (_, cs) ← takeNumber 2 0 60 cs
  match cs with
  | '.' :: rest =>
    if (rest.takeWhile Char.isDigit).isEmpty then none else some (rest.dropWhile Char.isDigit)
  | _ => some cs

/-- Nothing, or the distance from universal time. -/
def isOffset (cs : List Char) : Bool :=
  match cs with
  | [] => true
  | ['Z'] => true
  | ['z'] => true
  | sign :: rest =>
    (sign == '+' || sign == '-') && (do
      let (_, rest) ← takeNumber 2 0 23 rest
      let rest ← takeChar ':' rest
      let (_, rest) ← takeNumber 2 0 59 rest
      return rest) == some []

def isDate (run : List Char) : Bool := takeDate run == some []

/-- A time, or a date that a time may follow. -/
def isDatetime (run : List Char) : Bool :=
  match takeDate run with
  | none => takeTime run == some []
  | some [] => true
  | some (c :: rest) => (c == 'T' || c == 't') && ((takeTime rest).map isOffset).getD false

/-! ## Values -/

def isRunChar (c : Char) : Bool :=
  c.isAlphanum || c == '_' || c == '+' || c == '-' || c == '.' || c == ':'

def ofRun? (run : List Char) : Option Value :=
  if run = "true".toList then some (.boolean true)
  else if run = "false".toList then some (.boolean false)
  else if isDatetime run then some .datetime
  else if isFloat run then some .float
  else (readInteger run).map .integer

/-- Reads a value without quotes. One space may stand between a date and its time. -/
def readScalar (cs : List Char) : Option (Value × List Char) :=
  let run := cs.takeWhile isRunChar
  let rest := cs.dropWhile isRunChar
  match rest with
  | ' ' :: c :: behind =>
    if isDate run && c.isDigit then
      (ofRun? (run ++ 'T' :: (c :: behind).takeWhile isRunChar)).map fun v =>
        (v, (c :: behind).dropWhile isRunChar)
    else (ofRun? run).map fun v => (v, rest)
  | _ => (ofRun? run).map fun v => (v, rest)

end SipNotifier.Toml
