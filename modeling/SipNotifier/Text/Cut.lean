/-! Texts cut at byte positions, wherever no character is cut through. -/
namespace SipNotifier.Text
set_option autoImplicit false

/-- What stands in front of a byte position and behind it, unless it falls inside a character or
behind the end. -/
def cutAt? : Nat → List Char → Option (List Char × List Char)
  | 0, cs => some ([], cs)
  | _ + 1, [] => none
  | n + 1, c :: cs =>
    if c.utf8Size ≤ n + 1 then
      (cutAt? (n + 1 - c.utf8Size) cs).map fun (front, back) => (c :: front, back)
    else none

/-- What stands between two byte positions. -/
def piece? (start stop : Nat) (cs : List Char) : Option (List Char) :=
  (cutAt? stop cs).bind fun (front, _) => (cutAt? start front).map fun (_, piece) => piece

end SipNotifier.Text
