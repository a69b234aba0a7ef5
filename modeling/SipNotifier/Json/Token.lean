import SipNotifier.Json.Value
import SipNotifier.Text.Hex

/-! The tokens of a JSON text. A text that cannot be cut into tokens yields those before the fault
and then one that marks it, so that a reader meets faults in the order of the text. -/
namespace SipNotifier.Json
set_option autoImplicit false

inductive Token where
  | openObject
  | closeObject
  | openArray
  | closeArray
  | colon
  | comma
  | null
  | boolean (b : Bool)
  | number (n : Number)
  | string (s : String)
  | fault
  deriving DecidableEq, Repr

def isSpace (c : Char) : Bool := c == ' ' || c == '\n' || c == '\t' || c == '\r'

/-! ## Strings -/

/-- The code unit that four hexadecimal digits name. -/
def unit? (a b c d : Char) : Option Nat := Text.valueInBase? 16 [a, b, c, d]

/-- The character that one letter behind a backslash stands for. -/
def plainEscape? : Char → Option Char
  | '"' => some '"'
  | '\\' => some '\\'
  | '/' => some '/'
  | 'b' => some '\x08'
  | 'f' => some '\x0c'
  | 'n' => some '\n'
  | 'r' => some '\r'
  | 't' => some '\t'
  | _ => none

/-- Reads what follows a backslash. A high surrogate needs its low one, and neither stands alone. -/
def readEscape : List Char → Option (Char × List Char)
  | 'u' :: a :: b :: c :: d :: rest =>
    match unit? a b c d with
    | none => none
    | some unit =>
      if unit < 0xD800 ∨ 0xDFFF < unit then some (Char.ofNat unit, rest)
      else match rest with
        | '\\' :: 'u' :: e :: f :: g :: h :: rest' =>
          match unit? e f g h with
          | none => none
          | some low =>
            if unit < 0xDC00 ∧ 0xDC00 ≤ low ∧ low ≤ 0xDFFF then
              some (Char.ofNat (0x10000 + (unit - 0xD800) * 0x400 + (low - 0xDC00)), rest')
            else none
        | _ => none
  | c :: rest => (plainEscape? c).map fun x => (x, rest)
  | [] => none

theorem readEscape_length (cs rest : List Char) (x : Char) (h : readEscape cs = some (x, rest)) :
    rest.length < cs.length := by
  revert h
  fun_cases readEscape cs <;> simp <;> grind

/-- Reads a string behind its opening quote: its characters, and what follows its closing quote. -/
def readString (cs : List Char) : Option (List Char × List Char) :=
  match cs with
  | [] => none
  | '"' :: rest => some ([], rest)
  | '\\' :: rest =>
    match _h : readEscape rest with
    | none => none
    | some (x, behind) => (readString behind).map fun (s, left) => (x :: s, left)
  | c :: rest =>
    if c.toNat < 0x20 then none else (readString rest).map fun (s, left) => (c :: s, left)
termination_by cs.length
decreasing_by
  · have := readEscape_length _ _ _ _h
    simp only [List.length_cons]
    omega
  · simp

theorem readString_length (cs s rest : List Char) (h : readString cs = some (s, rest)) :
    rest.length < cs.length := by
  fun_induction readString cs generalizing s rest with
  | case1 => simp at h
  | case2 r => simp at h; simp [h]
  | case3 => simp at h
  | case4 r x behind he ih =>
    simp only [Option.map_eq_some_iff, Prod.exists, Prod.mk.injEq] at h
    obtain ⟨s', left, hs, -, rfl⟩ := h
    have := readEscape_length _ _ _ he
    have := ih s' left hs
    simp only [List.length_cons]
    omega
  | case5 => simp at h
  | case6 c r _ _ _ ih =>
    simp only [Option.map_eq_some_iff, Prod.exists, Prod.mk.injEq] at h
    obtain ⟨s', left, hs, -, rfl⟩ := h
    have := ih s' left hs
    simp only [List.length_cons]
    omega

/-! ## Numbers and words -/

def isNumberChar (c : Char) : Bool :=
  c.isDigit || c == '-' || c == '+' || c == '.' || c == 'e' || c == 'E'

/-- The digits behind the letter of a power, with its sign. -/
def readExponent : List Char → Option (Bool × List Char)
  | '-' :: ds => if ds.isEmpty || !ds.all Char.isDigit then none else some (true, ds)
  | '+' :: ds => if ds.isEmpty || !ds.all Char.isDigit then none else some (false, ds)
  | ds => if ds.isEmpty || !ds.all Char.isDigit then none else some (false, ds)

/-- The digits behind the point, if there is one. -/
def readPoint : List Char → Option (List Char)
  | [] => some []
  | '.' :: ds => if ds.isEmpty || !ds.all Char.isDigit then none else some ds
  | _ => none

/-- The power behind its letter, if there is one. -/
def readPower : List Char → Option (Option (Bool × List Char))
  | [] => some none
  | _ :: ds => (readExponent ds).map some

/-- Reads what follows the whole digits of a number. -/
def readTail (negative : Bool) (whole tail : List Char) : Option Number :=
  match readPoint (tail.takeWhile fun c => c != 'e' && c != 'E'),
    readPower (tail.dropWhile fun c => c != 'e' && c != 'E') with
  | some fraction, some exponent => some ⟨negative, whole, fraction, exponent⟩
  | _, _ => none

/-- Reads a whole run of number characters: a number in range, without idle zeros in front. -/
def readNumber (cs : List Char) : Option Number :=
  let (negative, magnitude) := match cs with
    | '-' :: ds => (true, ds)
    | ds => (false, ds)
  let whole := magnitude.takeWhile Char.isDigit
  if whole.isEmpty || (whole.head? == some '0' && decide (1 < whole.length)) then none
  else (readTail negative whole (magnitude.dropWhile Char.isDigit)).filter Number.inRange

def readWord (word : List Char) : Token :=
  if word = "null".toList then .null
  else if word = "true".toList then .boolean true
  else if word = "false".toList then .boolean false
  else .fault

/-! ## Tokens -/

def punctuation? : Char → Option Token
  | '\x7b' => some .openObject
  | '\x7d' => some .closeObject
  | '[' => some .openArray
  | ']' => some .closeArray
  | ':' => some .colon
  | ',' => some .comma
  | _ => none

/-- The token that starts with the character, and the text behind it. -/
def nextToken (c : Char) (cs : List Char) : Token × List Char :=
  match punctuation? c with
  | some t => (t, cs)
  | none =>
    if c = '"' then
      match readString cs with
      | some (s, rest) => (.string (String.ofList s), rest)
      | none => (.fault, [])
    else if isNumberChar c then
      match readNumber (c :: cs.takeWhile isNumberChar) with
      | some n => (.number n, cs.dropWhile isNumberChar)
      | none => (.fault, [])
    else (readWord (c :: cs.takeWhile Char.isAlpha), cs.dropWhile Char.isAlpha)

theorem nextToken_length (c : Char) (cs : List Char) : (nextToken c cs).2.length ≤ cs.length := by
  have hn := (List.dropWhile_suffix (l := cs) isNumberChar).length_le
  have ha := (List.dropWhile_suffix (l := cs) Char.isAlpha).length_le
  simp only [nextToken]
  split
  · exact Nat.le_refl _
  · split
    · split
      · next s rest h => exact Nat.le_of_lt (readString_length _ _ _ h)
      · exact Nat.zero_le _
    · split
      · split
        · exact hn
        · exact Nat.zero_le _
      · exact ha

/-- All tokens of a text. -/
def tokens (cs : List Char) : List Token :=
  match cs with
  | [] => []
  | c :: rest =>
    if isSpace c then tokens rest
    else (nextToken c rest).1 :: tokens (nextToken c rest).2
termination_by cs.length
decreasing_by
  · simp
  · have := nextToken_length c rest
    simp only [List.length_cons]
    omega

end SipNotifier.Json
