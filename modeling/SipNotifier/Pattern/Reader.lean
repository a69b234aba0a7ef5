import SipNotifier.Pattern.Brackets
import SipNotifier.Text.Alphanumeric

/-! Patterns: alternatives, repetitions and groups, which may have names and switch the mode. The
reader tells what is a pattern. Each of its steps leaves less to read (`Reading.step?_length`). -/
namespace SipNotifier.Pattern
set_option autoImplicit false

/-- How deep a pattern may nest. -/
def maxDepth : Nat := 250

/-- One part of an alternative. -/
structure Item where
  /-- How deep it nests. -/
  depth : Nat
  /-- It matches something. Only switches do not. -/
  repeatable : Bool
  deriving DecidableEq, Repr

/-- What has been read of a group. -/
structure Group where
  mode : Mode := {}
  /-- How deep the deepest of the alternatives in front nests. -/
  before : Option Nat := none
  /-- What has been read of an alternative, the last first. -/
  items : List Item := []
  deriving DecidableEq, Repr

namespace Group

def add (g : Group) (depth : Nat) : Group := { g with items := ⟨depth, true⟩ :: g.items }

/-- Repeats the last item. -/
def repeatLast? (g : Group) : Option Group :=
  match g.items with
  | ⟨depth, true⟩ :: items => some { g with items := ⟨depth + 1, true⟩ :: items }
  | _ => none

/-- How deep the alternative nests. -/
def row (g : Group) : Nat := rowDepth (g.items.map (·.depth))

def alternative (g : Group) : Group :=
  { g with before := some (max (g.before.getD 0) g.row), items := [] }

/-- The mode is another one from here on. -/
def switch (g : Group) (m : Mode) : Group := { g with mode := m, items := ⟨0, false⟩ :: g.items }

def depth (g : Group) : Nat :=
  match g.before with
  | none => g.row
  | some d => max d g.row + 1

end Group

/-! ## Openings of groups -/

inductive Opening where
  | group (m : Mode) (name : Option (List Char))
  /-- No group, but switches for the one around. -/
  | switches (m : Mode)
  deriving DecidableEq, Repr

/-- The first character of a name is a letter or an underscore. -/
def isName : List Char → Bool
  | [] => false
  | c :: cs =>
    (c == '_' || Text.isAlphabetic c) && cs.all fun d =>
      d == '_' || d == '.' || d == '[' || d == ']' || Text.isAlphanumeric d

/-- Reads a name up to its closing angle bracket. -/
def readName? (m : Mode) (cs : List Char) : Option (Opening × List Char) :=
  let name := cs.takeWhile (· != '>')
  match cs.drop name.length with
  | _ :: rest => if isName name then some (.group m (some name), rest) else none
  | [] => none

/-- Reads on behind a parenthesis. -/
def readOpening? (m : Mode) (cs : List Char) : Option (Opening × List Char) :=
  match m.skip cs with
  | '?' :: 'P' :: '<' :: rest => readName? m rest
  | '?' :: '<' :: rest => readName? m rest
  | '?' :: rest =>
    match m.read? [] rest with
    | some (m', seen, c :: behind) =>
      if c == ':' then some (.group m' none, behind)
      else if seen.isEmpty then none
      else some (.switches m', behind)
    | _ => none
  | rest => some (.group m none, rest)

theorem readName?_length (m : Mode) (cs rest : List Char) (o : Opening)
    (h : readName? m cs = some (o, rest)) : rest.length < cs.length := by
  simp only [readName?] at h
  split at h
  · next c behind hd =>
    split at h
    · have := congrArg List.length hd
      simp only [List.length_drop, List.length_cons] at this
      simp only [Option.some.injEq, Prod.mk.injEq] at h
      rw [← h.2]
      omega
    · simp at h
  · simp at h

theorem readOpening?_length (m : Mode) (cs rest : List Char) (o : Opening)
    (h : readOpening? m cs = some (o, rest)) : rest.length ≤ cs.length := by
  have hs := m.skip_length cs
  simp only [readOpening?] at h
  split at h
  · next r hr =>
    have := readName?_length _ _ _ _ h
    simp only [hr, List.length_cons] at hs
    omega
  · next r hr =>
    have := readName?_length _ _ _ _ h
    simp only [hr, List.length_cons] at hs
    omega
  · next r _ _ hr =>
    simp only [hr, List.length_cons] at hs
    split at h
    · next m' seen c behind hm =>
      have := Mode.read?_length _ _ _ _ _ _ hm
      simp only [List.length_cons] at this
      split at h
      · simp only [Option.some.injEq, Prod.mk.injEq] at h
        rw [← h.2]
        omega
      · split at h
        · simp at h
        · simp only [Option.some.injEq, Prod.mk.injEq] at h
          rw [← h.2]
          omega
    · simp at h
  · simp only [Option.some.injEq, Prod.mk.injEq] at h
    exact h.2 ▸ hs

/-! ## Patterns -/

structure Reading where
  here : Group := {}
  /-- The groups around, the innermost first. -/
  around : List Group := []
  /-- The names that are taken. -/
  names : List (List Char) := []
  deriving DecidableEq, Repr

namespace Reading

/-- Begins a group, or switches the mode of the one around. -/
def begin? (r : Reading) : Opening → Option Reading
  | .switches m => some { r with here := r.here.switch m }
  | .group m none => some { r with here := { mode := m }, around := r.here :: r.around }
  | .group m (some name) =>
    if r.names.contains name then none
    else some ⟨{ mode := m }, r.here :: r.around, name :: r.names⟩

/-- Ends the innermost group. The mode is that of the group around again. -/
def end? (r : Reading) : Option Reading :=
  match r.around with
  | [] => none
  | outer :: around => some { r with here := outer.add (r.here.depth + 1), around := around }

/-- Takes what begins with a sign. A brace begins nothing, as there are no counted repetitions. -/
def step? (r : Reading) (cs : List Char) : Option (Reading × List Char) :=
  match cs with
  | [] => none
  | '(' :: rest =>
    match readOpening? r.here.mode rest with
    | none => none
    | some (opening, behind) => (r.begin? opening).map fun r' => (r', behind)
  | ')' :: rest => r.end?.map fun r' => (r', rest)
  | '|' :: rest => some ({ r with here := r.here.alternative }, rest)
  | '[' :: rest =>
    match Brackets.readSet? r.here.mode rest with
    | none => none
    | some (depth, behind) => some ({ r with here := r.here.add depth }, behind)
  | '\x7b' :: _ => none
  | c :: rest =>
    if c == '?' || c == '*' || c == '+' then
      let behind := if rest.head? == some '?' then rest.tail else rest
      r.here.repeatLast?.map fun g => ({ r with here := g }, behind)
    else match Atom.read? r.here.mode cs with
      | none => none
      | some (a, behind) =>
        if a.stands r.here.mode then some ({ r with here := r.here.add 0 }, behind) else none

theorem step?_length (r r' : Reading) (cs rest : List Char) (h : r.step? cs = some (r', rest)) :
    rest.length < cs.length := by
  simp only [step?] at h
  split at h
  · simp at h
  · split at h
    · simp at h
    · next left opening behind ho =>
      simp only [Option.map_eq_some_iff, Prod.mk.injEq] at h
      obtain ⟨-, -, -, rfl⟩ := h
      exact Nat.lt_succ_of_le (readOpening?_length _ _ _ _ ho)
  · simp only [Option.map_eq_some_iff, Prod.mk.injEq] at h
    obtain ⟨-, -, -, rfl⟩ := h
    simp
  · simp only [Option.some.injEq, Prod.mk.injEq] at h
    simp [h.2]
  · split at h
    · simp at h
    · next left depth behind hb =>
      simp only [Option.some.injEq, Prod.mk.injEq] at h
      exact h.2 ▸ Nat.lt_succ_of_lt (Brackets.readSet?_length _ _ _ _ hb)
  · simp at h
  · next c left _ _ _ _ _ =>
    split at h
    · simp only [Option.map_eq_some_iff, Prod.mk.injEq] at h
      obtain ⟨-, -, -, rfl⟩ := h
      simp only [List.length_cons]
      split
      · simp only [List.length_tail]
        omega
      · omega
    · split at h
      · simp at h
      · next a behind ha =>
        have := Atom.read?_length _ _ _ _ ha
        split at h
        · simp only [Option.some.injEq, Prod.mk.injEq] at h
          exact h.2 ▸ this
        · simp at h

/-- Reads to the end. -/
def run? (r : Reading) (cs : List Char) : Option Reading :=
  if (r.here.mode.skip cs).isEmpty then some r
  else match _h : r.step? (r.here.mode.skip cs) with
    | none => none
    | some (r', rest) => r'.run? rest
termination_by cs.length
decreasing_by exact Nat.lt_of_lt_of_le (step?_length _ _ _ _ _h) (r.here.mode.skip_length cs)

end Reading

/-- The text is a pattern. -/
def isPattern (cs : List Char) : Bool :=
  match ({} : Reading).run? cs with
  | none => false
  | some r => r.around.isEmpty && decide (r.here.depth ≤ maxDepth)

end SipNotifier.Pattern
