import SipNotifier.Pattern.Reader

/-! The values that a log filter may ask of a field: numbers and patterns. -/
namespace SipNotifier.Log
set_option autoImplicit false

/-- Digits around at most one point. -/
def isDecimal (cs : List Char) : Bool :=
  let whole := cs.takeWhile Char.isDigit
  match cs.drop whole.length with
  | [] => !whole.isEmpty
  | '.' :: fraction => fraction.all Char.isDigit && !(whole.isEmpty && fraction.isEmpty)
  | _ => false

def dropSign : List Char → List Char
  | '+' :: cs => cs
  | '-' :: cs => cs
  | cs => cs

/-- The text is a number, infinity, or the word for what is not a number, in any ASCII case. -/
def isNumber (text : List Char) : Bool :=
  let cs := dropSign text
  let mantissa := cs.takeWhile fun c => c != 'e' && c != 'E'
  match cs.drop mantissa.length with
  | [] => isDecimal cs || ["inf", "infinity", "nan"].contains (String.ofList (cs.map Char.toLower))
  | _ :: power =>
    let digits := dropSign power
    isDecimal mantissa && !digits.isEmpty && digits.all Char.isDigit

def isFieldValue (text : List Char) : Bool := isNumber text || Pattern.isPattern text

end SipNotifier.Log
