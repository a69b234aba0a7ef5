import SipNotifier.Text.Blank

/-! The switches that a pattern can turn for a part of itself, and the blanks that one of them
allows between its signs. -/
namespace SipNotifier.Pattern
set_option autoImplicit false

structure Mode where
  /-- Blanks and comments between the signs do not count. -/
  spaced : Bool := false
  /-- A letter matches in either case. -/
  ignoresCase : Bool := false
  /-- Signs match characters, and not bytes. -/
  wide : Bool := true
  deriving DecidableEq, Repr

namespace Mode

/-- Turns the switch that a letter names. The other switches have no say in what is a pattern. -/
def turn (m : Mode) (on : Bool) : Char → Mode
  | 'x' => { m with spaced := on }
  | 'i' => { m with ignoresCase := on }
  | 'u' => { m with wide := on }
  | _ => m

/-! ## Blanks -/

/-- Drops blanks, and comments from a hash to the end of its line. -/
def dropSpace (inComment : Bool) : List Char → List Char
  | [] => []
  | c :: cs =>
    if inComment then dropSpace (c != '\n') cs
    else if c == '#' then dropSpace true cs
    else if Text.isBlank c then dropSpace false cs
    else c :: cs

/-- Goes on to the next sign. -/
def skip (m : Mode) (cs : List Char) : List Char :=
  if m.spaced then dropSpace false cs else cs

/-- The sign behind blanks. A hash is passed over like them, and so are the blanks behind it, but no
comment is. -/
def peek (m : Mode) (cs : List Char) : Option Char :=
  if !m.spaced then cs.head?
  else match cs.dropWhile Text.isBlank with
    | '#' :: rest => (rest.dropWhile Text.isBlank).head?
    | rest => rest.head?

theorem dropSpace_length (b : Bool) (cs : List Char) : (dropSpace b cs).length ≤ cs.length := by
  induction cs generalizing b with
  | nil => simp [dropSpace]
  | cons c cs ih =>
    simp only [dropSpace]
    split
    · exact Nat.le_succ_of_le (ih _)
    · split
      · exact Nat.le_succ_of_le (ih _)
      · split
        · exact Nat.le_succ_of_le (ih _)
        · exact Nat.le_refl _

theorem skip_length (m : Mode) (cs : List Char) : (m.skip cs).length ≤ cs.length := by
  simp only [skip]
  split
  · exact dropSpace_length _ _
  · exact Nat.le_refl _

theorem length_of_skip (m : Mode) (cs rest : List Char) (c : Char) (h : m.skip cs = c :: rest) :
    rest.length < cs.length := by
  have := m.skip_length cs
  rw [h, List.length_cons] at this
  omega

/-! ## Switches -/

/-- The letters of switches, and the dash behind which they are turned off. -/
def switches : List Char := "-imsUuRx".toList

/-- Reads switches up to the sign behind them. None stands twice, and a dash has one behind it.
Answers the letters, too, the last first. -/
def read? (m : Mode) (seen : List Char) : List Char → Option (Mode × List Char × List Char)
  | [] => none
  | c :: cs =>
    if c == ':' || c == ')' then
      if seen.head? == some '-' then none else some (m, seen, c :: cs)
    else if seen.contains c || !switches.contains c then none
    else read? (m.turn (!seen.contains '-') c) (c :: seen) cs

theorem read?_length (m m' : Mode) (seen seen' cs rest : List Char)
    (h : m.read? seen cs = some (m', seen', rest)) : rest.length ≤ cs.length := by
  induction cs generalizing m seen with
  | nil => simp [read?] at h
  | cons c cs ih =>
    simp only [read?] at h
    split at h
    · split at h
      · simp at h
      · simp only [Option.some.injEq, Prod.mk.injEq] at h
        simp [← h.2.2]
    · split at h
      · simp at h
      · exact Nat.le_succ_of_le (ih _ _ h)

end Mode
end SipNotifier.Pattern
