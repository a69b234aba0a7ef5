import SipNotifier.Pattern.Mode
import SipNotifier.Text.Hex

/-! The smallest parts of a pattern, with their escapes, and in which mode each of them may stand.
Patterns match text, so what matches single bytes beyond ASCII is no part of one. Nothing here knows
of letter cases or classes of characters beyond ASCII, so what needs them is none, either. -/
namespace SipNotifier.Pattern
set_option autoImplicit false

inductive Atom where
  /-- A character that stands for itself. It is numbered if two digits name it. -/
  | literal (c : Char) (numbered : Bool)
  /-- Digits, blanks or letters, or all but those. -/
  | shorthand (negated : Bool)
  /-- Any character. -/
  | any
  /-- The start or the end of a text or line. -/
  | edge
  /-- The start or the end of a word. -/
  | boundary
  deriving DecidableEq, Repr

namespace Atom

def isAscii (c : Char) : Bool := decide (c ≤ '\x7f')

/-- The atom may stand outside brackets. -/
def stands (m : Mode) : Atom → Bool
  | .literal c numbered => if m.wide then !m.ignoresCase else isAscii c || !numbered
  | .shorthand negated => !m.wide && !negated
  | .any => m.wide
  | .edge => true
  | .boundary => !m.wide

/-- The atom may stand in brackets. -/
def standsInBrackets (m : Mode) : Atom → Bool
  | .literal c _ => if m.wide then !m.ignoresCase else isAscii c
  | .shorthand negated => !m.wide && !negated
  | _ => false

/-- The first character of a range does not come behind the last one. -/
def standAsRange (m : Mode) : Atom → Atom → Bool
  | .literal c b, .literal d b' =>
    (literal c b).standsInBrackets m && (literal d b').standsInBrackets m && decide (c ≤ d)
  | _, _ => false

/-! ## Escapes -/

/-- The control character that a letter names. -/
def control? : Char → Option Char
  | 'a' => some '\x07'
  | 'f' => some '\x0c'
  | 't' => some '\t'
  | 'n' => some '\n'
  | 'r' => some '\r'
  | 'v' => some '\x0b'
  | _ => none

/-- Reads so many hexadecimal digits, and the space behind each of them. -/
def readDigits? (m : Mode) : Nat → List Char → Option (List Char × List Char)
  | 0, cs => some ([], cs)
  | _ + 1, [] => none
  | n + 1, c :: cs =>
    if (Text.hexDigit? c).isNone then none
    else (readDigits? m n (m.skip cs)).map fun (digits, rest) => (c :: digits, rest)

/-- Reads the character that so many digits name. -/
def readNumbered? (m : Mode) (digits : Nat) (cs : List Char) : Option (Atom × List Char) :=
  match readDigits? m digits (m.skip cs) with
  | none => none
  | some (named, rest) =>
    match Text.valueInBase? 16 named with
    | none => none
    | some n => if n.isValidChar then some (.literal (Char.ofNat n) (digits == 2), rest) else none

/-- Reads what follows a backslash. A sign stands for itself, except for angle brackets. -/
def readEscape? (m : Mode) : List Char → Option (Atom × List Char)
  | [] => none
  | 'x' :: cs => readNumbered? m 2 cs
  | 'u' :: cs => readNumbered? m 4 cs
  | 'U' :: cs => readNumbered? m 8 cs
  | c :: cs =>
    if c == 'd' || c == 's' || c == 'w' then some (.shorthand false, cs)
    else if c == 'D' || c == 'S' || c == 'W' then some (.shorthand true, cs)
    else if c == 'A' || c == 'z' then some (.edge, cs)
    else if c == 'b' || c == 'B' || c == '<' || c == '>' then some (.boundary, cs)
    else if isAscii c && !c.isAlphanum then some (.literal c false, cs)
    else (control? c).map fun x => (.literal x false, cs)

/-- Reads an atom outside brackets. -/
def read? (m : Mode) : List Char → Option (Atom × List Char)
  | [] => none
  | '\\' :: cs => readEscape? m cs
  | c :: cs =>
    some (if c == '.' then .any else if c == '^' || c == '$' then .edge else .literal c false, cs)

/-- Reads an atom in brackets. -/
def readInBrackets? (m : Mode) : List Char → Option (Atom × List Char)
  | [] => none
  | '\\' :: cs => readEscape? m cs
  | c :: cs => some (.literal c false, cs)

/-! ## What is left is shorter -/

theorem readDigits?_length (m : Mode) (n : Nat) (cs digits rest : List Char)
    (h : readDigits? m n cs = some (digits, rest)) : rest.length ≤ cs.length := by
  induction n generalizing cs digits with
  | zero => simp only [readDigits?, Option.some.injEq, Prod.mk.injEq] at h; simp [h.2]
  | succ n ih =>
    cases cs with
    | nil => simp [readDigits?] at h
    | cons c cs =>
      simp only [readDigits?] at h
      split at h
      · simp at h
      · simp only [Option.map_eq_some_iff, Prod.exists, Prod.mk.injEq] at h
        obtain ⟨digits', rest', hd, -, rfl⟩ := h
        exact Nat.le_succ_of_le (Nat.le_trans (ih _ _ hd) (m.skip_length cs))

theorem readNumbered?_length (m : Mode) (n : Nat) (cs rest : List Char) (a : Atom)
    (h : readNumbered? m n cs = some (a, rest)) : rest.length ≤ cs.length := by
  simp only [readNumbered?] at h
  split at h
  · simp at h
  · next named behind hd =>
    split at h
    · simp at h
    · split at h
      · simp only [Option.some.injEq, Prod.mk.injEq] at h
        exact h.2 ▸ Nat.le_trans (readDigits?_length m n _ _ _ hd) (m.skip_length cs)
      · simp at h

theorem readEscape?_length (m : Mode) (cs rest : List Char) (a : Atom)
    (h : readEscape? m cs = some (a, rest)) : rest.length < cs.length := by
  revert h
  fun_cases readEscape? m cs with
  | case1 => simp
  | case2 cs => exact fun h => Nat.lt_succ_of_le (readNumbered?_length m _ _ _ _ h)
  | case3 cs => exact fun h => Nat.lt_succ_of_le (readNumbered?_length m _ _ _ _ h)
  | case4 cs => exact fun h => Nat.lt_succ_of_le (readNumbered?_length m _ _ _ _ h)
  | case5 | case6 | case7 | case8 | case9 => simp; grind
  | case10 => simp; grind

theorem read?_length (m : Mode) (cs rest : List Char) (a : Atom)
    (h : read? m cs = some (a, rest)) : rest.length < cs.length := by
  revert h
  fun_cases read? m cs with
  | case1 => simp
  | case2 cs => exact fun h => Nat.lt_succ_of_lt (readEscape?_length m _ _ _ h)
  | case3 => simp; grind

theorem readInBrackets?_length (m : Mode) (cs rest : List Char) (a : Atom)
    (h : readInBrackets? m cs = some (a, rest)) : rest.length < cs.length := by
  revert h
  fun_cases readInBrackets? m cs with
  | case1 => simp
  | case2 cs => exact fun h => Nat.lt_succ_of_lt (readEscape?_length m _ _ _ h)
  | case3 => simp; grind

end Atom
end SipNotifier.Pattern
