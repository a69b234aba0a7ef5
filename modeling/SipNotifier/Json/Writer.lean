import SipNotifier.Json.Value
import SipNotifier.Text.Hex

/-! Writing JSON values without spaces. In strings the quote, the backslash and the characters below
the space are escaped, and nothing else is. -/
namespace SipNotifier.Json
set_option autoImplicit false

/-! ## Strings -/

def escapeChar (c : Char) : List Char :=
  match c with
  | '"' => ['\\', '"']
  | '\\' => ['\\', '\\']
  | '\x08' => ['\\', 'b']
  | '\x0c' => ['\\', 'f']
  | '\n' => ['\\', 'n']
  | '\r' => ['\\', 'r']
  | '\t' => ['\\', 't']
  | c =>
    if c.toNat < 0x20 then
      ['\\', 'u', '0', '0', Text.hexDigit (c.toNat / 16), Text.hexDigit (c.toNat % 16)]
    else [c]

/-- The string in quotes. -/
def quote (s : String) : List Char := '"' :: s.toList.flatMap escapeChar ++ ['"']

/-! ## Values -/

def Number.toChars (n : Number) : List Char :=
  (if n.negative then ['-'] else []) ++ n.whole ++
    (if n.fraction.isEmpty then [] else '.' :: n.fraction) ++
    match n.exponent with
    | none => []
    | some (below, digits) => 'e' :: (if below then ['-'] else []) ++ digits

mutual

def Value.toChars : Value → List Char
  | .null => "null".toList
  | .boolean true => "true".toList
  | .boolean false => "false".toList
  | .number n => n.toChars
  | .string s => quote s
  | .array [] => ['[', ']']
  | .array (v :: vs) => '[' :: v.toChars ++ itemsToChars vs ++ [']']
  | .object [] => ['\x7b', '\x7d']
  | .object ((name, v) :: ms) =>
    '\x7b' :: quote name ++ ':' :: v.toChars ++ membersToChars ms ++ ['\x7d']

/-- Each item behind a comma. -/
def itemsToChars : List Value → List Char
  | [] => []
  | v :: vs => ',' :: v.toChars ++ itemsToChars vs

/-- Each member behind a comma. -/
def membersToChars : List (String × Value) → List Char
  | [] => []
  | (name, v) :: ms => ',' :: quote name ++ ':' :: v.toChars ++ membersToChars ms

end

def Value.write (v : Value) : String := String.ofList v.toChars

end SipNotifier.Json
