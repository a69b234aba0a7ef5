import SipNotifier.Text.Hex

/-! Terminal control characters: what a text shows without them and the sequences that they begin,
and how a text spells them out. -/
namespace SipNotifier.Text
set_option autoImplicit false

namespace Terminal

/-- Where a character stands. -/
inductive Place where
  | text
  /-- Behind an escape character. -/
  | escape
  /-- In a short sequence, in front of the character that ends it. -/
  | intermediate
  /-- In a sequence with parameters. -/
  | parameters
  /-- At the start of a device control string. -/
  | control
  | controlParameters
  | controlIntermediate
  /-- In an operating system command. -/
  | command
  /-- In what a device control string holds, or in one of the other strings. -/
  | string
  deriving DecidableEq, Repr

/-- The control characters that lay a text out. -/
def isLayout (c : Char) : Bool :=
  c == '\t' || c == '\n' || c == '\x0c' || c == '\r'

/-- A character that is shown in running text. -/
def isShown (c : Char) : Bool :=
  isLayout c || (decide (' ' ≤ c) && c != '\x7f')

/-- The character lies between two others, both counted in. -/
def within (low high c : Char) : Bool := decide (low ≤ c) && decide (c ≤ high)

/-- One of the bytes that encode the character ends a string. -/
def endsString (c : Char) : Bool := (String.utf8EncodeChar c).contains 0x9C

/-- The place behind a character that is not shown. -/
def Place.after (p : Place) (c : Char) : Place :=
  if c = '\x1b' then .escape
  else if c = '\x18' ∨ c = '\x1a' then .text
  else match p with
    | .text => .text
    | .escape =>
      if within ' ' '/' c then .intermediate
      else if c = '[' then .parameters
      else if c = ']' then .command
      else if c = 'P' then .control
      else if c = 'X' ∨ c = '^' ∨ c = '_' then .string
      else if within '0' '~' c then .text
      else .escape
    | .intermediate => if within '0' '~' c then .text else .intermediate
    | .parameters => if within '@' '~' c then .text else .parameters
    | .control =>
      if within ' ' '/' c then .controlIntermediate
      else if within '0' '?' c then .controlParameters
      else if within '@' '~' c then .string
      else .control
    | .controlParameters =>
      if within ' ' '/' c then .controlIntermediate
      else if within '<' '~' c then .string
      else .controlParameters
    | .controlIntermediate => if within '0' '~' c then .string else .controlIntermediate
    | .command => if c = '\x07' then .text else .command
    | .string => if endsString c then .text else .string

/-- The character is shown at the place. One that lays the text out is shown inside a sequence,
unless that holds a string. -/
def Place.shows (p : Place) (c : Char) : Bool :=
  match p with
  | .text => isShown c
  | .escape | .intermediate | .parameters => isLayout c
  | _ => false

/-- What is shown from a place on. A run of shown characters inside a sequence is shown to its end
as if it were text, and then the sequence goes on, unless the run held a character beyond ASCII. -/
def visibleFrom (p : Place) (running : Bool) : List Char → List Char
  | [] => []
  | c :: cs =>
    if (if running then isShown c else p.shows c) then
      c :: visibleFrom (if c ≤ '\x7f' then p else .text) true cs
    else visibleFrom (p.after c) false cs

end Terminal

/-- What a text shows: all but control characters and the sequences that they begin. -/
def visible (cs : List Char) : List Char := Terminal.visibleFrom .text false cs

/-! ## Spelling out -/

/-- The characters that could begin a sequence or move the cursor, those of eight bits among
them. -/
def isControl (c : Char) : Bool :=
  c == '\x07' || c == '\x08' || c == '\x0c' || c == '\x1b' || Terminal.within '\x7f' '\u009f' c

/-- Spells control characters out by their numbers. -/
def spellOut (cs : List Char) : List Char :=
  cs.flatMap fun c =>
    let digits := [hexDigit (c.toNat / 16), hexDigit (c.toNat % 16)]
    if !isControl c then [c]
    else if c ≤ '\x7f' then ['\\', 'x'] ++ digits
    else ['\\', 'u', '\x7b'] ++ digits ++ ['\x7d']

end SipNotifier.Text
