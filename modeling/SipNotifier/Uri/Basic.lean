/-! SIP addresses: the parts of a URI that name a resource and a place, their written form, and
the key under which a resource is watched. -/
namespace SipNotifier
set_option autoImplicit false

namespace Uri

inductive Scheme where
  | sip
  | sips
  deriving DecidableEq, Repr

def Scheme.name : Scheme → String
  | .sip => "sip"
  | .sips => "sips"

/-- The part in front of the at sign. -/
structure Userinfo where
  name : String
  password : Option String
  deriving DecidableEq, Repr

/-- The text that no URI could be read from. -/
structure Invalid where
  text : String
  deriving DecidableEq, Repr

def Invalid.message (e : Invalid) : String := "Invalid SIP URI: " ++ e.text

end Uri

structure Uri where
  scheme : Uri.Scheme
  userinfo : Option Uri.Userinfo
  host : String
  port : Option UInt16
  deriving DecidableEq, Repr

namespace Uri

def Userinfo.toString (u : Userinfo) : String :=
  match u.password with
  | none => u.name ++ "@"
  | some w => u.name ++ ":" ++ w ++ "@"

protected def toString (u : Uri) : String :=
  u.scheme.name ++ ":" ++ (u.userinfo.map Userinfo.toString).getD "" ++ u.host ++
    match u.port with
    | none => ""
    | some p => ":" ++ Nat.repr p.toNat

/-! ## The watched resource -/

def isTagChar (c : Char) : Bool := decide ('a' ≤ c) && decide (c ≤ 'z')

/-- Removes a tag of lowercase letters and the dash behind it, when something follows the dash. -/
def dropTag (user : List Char) : List Char :=
  match user.dropWhile (· != '-') with
  | _ :: c :: rest => if (user.takeWhile (· != '-')).all isTagChar then c :: rest else user
  | _ => user

/-- The key of the resource that the URI names: its user without a tag. -/
def resourceKey? (u : Uri) : Option String :=
  u.userinfo.map fun i => String.ofList (dropTag i.name.toList)

end Uri
end SipNotifier
