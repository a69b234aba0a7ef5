import SipNotifier.Text.Hex

/-! Reading TOML strings: in double quotes with escapes, in single quotes without, and both over
several lines between threefold quotes. A line end inside a string is read as a line feed. -/
namespace SipNotifier.Toml
open Text
set_option autoImplicit false

/-- A character that may stand in a string or a comment: a tab, or no control character. -/
def isPrintable (c : Char) : Bool := c == '\t' || (decide (0x20 ≤ c.toNat) && c != '\x7f')

def isSpace (c : Char) : Bool := c == ' ' || c == '\t'

/-! ## Escapes -/

def plainEscape? : Char → Option Char
  | 'b' => some '\x08'
  | 't' => some '\t'
  | 'n' => some '\n'
  | 'f' => some '\x0c'
  | 'r' => some '\r'
  | '"' => some '"'
  | '\\' => some '\\'
  | _ => none

/-- The character of a code point that is one. -/
def scalar? (n : Nat) : Option Char := if n.isValidChar then some (Char.ofNat n) else none

/-- Reads what follows a backslash. -/
def readEscape : List Char → Option (Char × List Char)
  | 'u' :: a :: b :: c :: d :: rest =>
    ((valueInBase? 16 [a, b, c, d]).bind scalar?).map fun x => (x, rest)
  | 'U' :: a :: b :: c :: d :: e :: f :: g :: h :: rest =>
    ((valueInBase? 16 [a, b, c, d, e, f, g, h]).bind scalar?).map fun x => (x, rest)
  | c :: rest => (plainEscape? c).map fun x => (x, rest)
  | [] => none

/-- Skips the line end behind a backslash and all blanks and line ends that follow. -/
def skipBlankLines : List Char → List Char
  | ' ' :: rest => skipBlankLines rest
  | '\t' :: rest => skipBlankLines rest
  | '\n' :: rest => skipBlankLines rest
  | '\r' :: '\n' :: rest => skipBlankLines rest
  | rest => rest

/-- What follows a backslash at the end of a line, if it stands at one. -/
def continued? (cs : List Char) : Option (List Char) :=
  match cs.dropWhile isSpace with
  | '\n' :: rest => some (skipBlankLines rest)
  | '\r' :: '\n' :: rest => some (skipBlankLines rest)
  | _ => none

/-! ## Strings on one line -/

/-- Reads a string behind its double quote. The fuel is a bound on the length of the text. -/
def readBasic : Nat → List Char → Option (List Char × List Char)
  | 0, _ => none
  | _, [] => none
  | _, '"' :: rest => some ([], rest)
  | fuel + 1, '\\' :: rest => do
    let (x, behind) ← readEscape rest
    let (s, left) ← readBasic fuel behind
    return (x :: s, left)
  | fuel + 1, c :: rest => do
    guard (isPrintable c)
    let (s, left) ← readBasic fuel rest
    return (c :: s, left)

/-- Reads a string behind its single quote. -/
def readLiteral : List Char → Option (List Char × List Char)
  | [] => none
  | '\'' :: rest => some ([], rest)
  | c :: rest => do
    guard (isPrintable c)
    let (s, left) ← readLiteral rest
    return (c :: s, left)

/-! ## Strings over several lines -/

/-- What the quotes behind a closing triple add to the string: one or two, but not three. -/
def closing (quote : Char) (cs : List Char) : Option (List Char × List Char) :=
  let extra := (cs.takeWhile (· == quote)).length
  if extra ≤ 2 then some (List.replicate extra quote, cs.drop extra) else none

/-- Reads a string behind three double quotes. -/
def readLongBasic : Nat → List Char → Option (List Char × List Char)
  | 0, _ => none
  | _, [] => none
  | _, '"' :: '"' :: '"' :: rest => closing '"' rest
  | fuel + 1, '\\' :: rest =>
    match continued? rest with
    | some behind => readLongBasic fuel behind
    | none => do
      let (x, behind) ← readEscape rest
      let (s, left) ← readLongBasic fuel behind
      return (x :: s, left)
  | fuel + 1, '\r' :: '\n' :: rest =>
    (readLongBasic fuel rest).map fun (s, left) => ('\n' :: s, left)
  | fuel + 1, c :: rest => do
    guard (isPrintable c || c == '\n')
    let (s, left) ← readLongBasic fuel rest
    return (c :: s, left)

/-- Reads a string behind three single quotes. -/
def readLongLiteral : List Char → Option (List Char × List Char)
  | [] => none
  | '\'' :: '\'' :: '\'' :: rest => closing '\'' rest
  | '\r' :: '\n' :: rest => (readLongLiteral rest).map fun (s, left) => ('\n' :: s, left)
  | c :: rest => do
    guard (isPrintable c || c == '\n')
    let (s, left) ← readLongLiteral rest
    return (c :: s, left)

/-- A line end right behind the opening quotes is no part of the string. -/
def dropFirstLineEnd : List Char → List Char
  | '\n' :: rest => rest
  | '\r' :: '\n' :: rest => rest
  | rest => rest

/-- Reads a string on one line with its quotes. -/
def readShortString : List Char → Option (String × List Char)
  | '"' :: rest => (readBasic (rest.length + 1) rest).map fun (s, left) => (String.ofList s, left)
  | '\'' :: rest => (readLiteral rest).map fun (s, left) => (String.ofList s, left)
  | _ => none

/-- Reads any string with its quotes. -/
def readString : List Char → Option (String × List Char)
  | '"' :: '"' :: '"' :: rest =>
    (readLongBasic (rest.length + 1) (dropFirstLineEnd rest)).map fun (s, left) =>
      (String.ofList s, left)
  | '\'' :: '\'' :: '\'' :: rest =>
    (readLongLiteral (dropFirstLineEnd rest)).map fun (s, left) => (String.ofList s, left)
  | cs => readShortString cs

end SipNotifier.Toml
