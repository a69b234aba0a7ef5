import SipNotifier.Text.Decimal
import SipNotifier.Text.DoubleRange

/-! JSON values. The members of an object keep their order and may repeat a name; a number keeps the
digits it was written with. -/
namespace SipNotifier.Json
set_option autoImplicit false

/-- A number as it is written: digits before the point, digits behind it, and a power of ten. -/
structure Number where
  negative : Bool
  whole : List Char
  /-- Empty when no point was written. -/
  fraction : List Char
  /-- Whether the power is negative, and its digits. -/
  exponent : Option (Bool × List Char)
  deriving DecidableEq, Repr

inductive Value where
  | null
  | boolean (b : Bool)
  | number (n : Number)
  | string (s : String)
  | array (items : List Value)
  | object (members : List (String × Value))
  deriving Repr

namespace Number

def ofInt (n : Int) : Number := ⟨decide (n < 0), (Nat.repr n.natAbs).toList, [], none⟩

/-- The integer that a number is. One with a point or a power is none, and neither is minus zero. -/
def toInt? (n : Number) : Option Int :=
  match n.fraction, n.exponent with
  | [], none =>
    let magnitude := Text.decimalValue n.whole
    if n.negative then if magnitude = 0 then none else some (-magnitude) else some magnitude
  | _, _ => none

/-! ## Range

A number is held in a word of 64 bits with a power of ten. Digits that no longer fit the word are
dropped; those before the point raise the power. -/

/-- The first number that does not fit the word. -/
def wordLimit : Nat := 18446744073709551616

/-- Takes digits into the word until one does not fit; answers the word and the digits left. -/
def fill (word : Nat) : List Char → Nat × List Char
  | [] => (word, [])
  | d :: ds =>
    let next := 10 * word + (d.toNat - '0'.toNat)
    if next < wordLimit then fill next ds else (word, d :: ds)

/-- The word and its power, before the written power counts. -/
def scaled (n : Number) : Nat × Int :=
  let (word, dropped) := fill 0 n.whole
  let (word', left) := fill word n.fraction
  (word', dropped.length - ((n.fraction.length - left.length : Nat) : Int))

/-- The product of the word and the power, each rounded to a double, is finite. -/
def isFinite (word : Nat) (power : Int) : Bool :=
  if word = 0 then true
  else match power with
    | .ofNat k =>
      decide (k ≤ 308) &&
        decide (Text.roundToDouble word * Text.roundToDouble (Nat.pow 10 k) < Text.doubleLimit)
    | .negSucc _ => true

/-- The number is within the range of a double. A power beyond 32 bits decides by its sign. -/
def inRange (n : Number) : Bool :=
  let (word, power) := n.scaled
  match n.exponent with
  | none => isFinite word power
  | some (below, digits) =>
    let size := Text.decimalValue digits
    if size < 2147483648 then isFinite word (if below then power - size else power + size)
    else below || word == 0

end Number

/-- The value of the first member of that name. -/
def Value.member? (name : String) : Value → Option Value
  | .object members => members.lookup name
  | _ => none

end SipNotifier.Json
