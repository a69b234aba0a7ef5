import SipNotifier.Text.Blank
import SipNotifier.Text.Decimal
import SipNotifier.Uri.Basic

/-! Reading SIP addresses. The text may be a bare URI or carry one in angle brackets; what follows
the port is not looked at. Each reader takes its part off the front of the text and returns the
rest. -/
namespace SipNotifier.Uri
open Text
set_option autoImplicit false

/-! ## Angle brackets -/

/-- What stands between the first opening bracket and the next closing one, unless an opening
bracket stands there too. -/
def bracketed? (cs : List Char) : Option (List Char) :=
  match cs.dropWhile (· != '<') with
  | [] => none
  | _ :: inner =>
    let candidate := inner.takeWhile (· != '>')
    if candidate.length < inner.length && !candidate.contains '<' then some candidate else none

def stripBrackets (cs : List Char) : List Char := (bracketed? cs).getD cs

/-! ## Parts -/

/-- Takes a lowercase word off the front, in any ASCII case. -/
def dropWord? : List Char → List Char → Option (List Char)
  | [], cs => some cs
  | _ :: _, [] => none
  | w :: ws, c :: cs => if c.toLower = w then dropWord? ws cs else none

def Scheme.read (cs : List Char) : Option (Scheme × List Char) :=
  match dropWord? "sips:".toList cs, dropWord? "sip:".toList cs with
  | some rest, _ => some (.sips, rest)
  | none, some rest => some (.sip, rest)
  | none, none => none

/-- A user, an optional password behind a colon, and the at sign. Neither may be empty. -/
def Userinfo.read (cs : List Char) : Option (Userinfo × List Char) :=
  let name := cs.takeWhile fun c => c != ':' && c != '@'
  if name.isEmpty then none
  else match cs.dropWhile fun c => c != ':' && c != '@' with
    | '@' :: rest => some (⟨String.ofList name, none⟩, rest)
    | ':' :: behind =>
      let word := behind.takeWhile (· != '@')
      match behind.dropWhile (· != '@') with
      | _ :: rest =>
        if word.isEmpty then none else some (⟨String.ofList name, some (String.ofList word)⟩, rest)
      | [] => none
    | _ => none

def isHostChar (c : Char) : Bool := c.isAlphanum || c == '.' || c == '-' || c == '_'

/-- A bracketed address with something inside, or a run of host characters. -/
def readHost (cs : List Char) : Option (List Char × List Char) :=
  match cs with
  | '[' :: inside =>
    let address := inside.takeWhile (· != ']')
    match inside.dropWhile (· != ']') with
    | _ :: rest => if address.isEmpty then none else some ('[' :: address ++ [']'], rest)
    | [] => none
  | _ =>
    let name := cs.takeWhile isHostChar
    if name.isEmpty then none else some (name, cs.dropWhile isHostChar)

/-- The number behind a colon, where it fits a port. -/
def readPort (cs : List Char) : Option UInt16 :=
  match cs with
  | ':' :: rest => (boundedDecimal? 65535 (rest.takeWhile Char.isDigit)).map UInt16.ofNat
  | _ => none

/-! ## Whole addresses -/

/-- Reads the address at the front of the text. Where no user can be read, the host starts right
behind the scheme. -/
def read? (cs : List Char) : Option Uri := do
  let (scheme, rest) ← Scheme.read cs
  let (userinfo, rest) := match Userinfo.read rest with
    | some (i, behind) => (some i, behind)
    | none => (none, rest)
  let (host, rest) ← readHost rest
  return ⟨scheme, userinfo, String.ofList host, readPort rest⟩

/-- The address a text stands for: without the blanks around it and without its brackets. -/
def address (text : String) : List Char := stripBrackets (trim text.toList)

def parse (text : String) : Except Invalid Uri :=
  match read? (address text) with
  | some u => .ok u
  | none => .error ⟨text⟩

end SipNotifier.Uri
