import SipNotifier.Pattern.Atom

/-! Sets of characters in brackets: items, ranges and named classes, sets inside sets, and operators
between them. A reader of them answers how deep they nest. -/
namespace SipNotifier.Pattern
set_option autoImplicit false

/-- How deep a row nests: as deep as its one item, or one deeper than the deepest of several. -/
def rowDepth : List Nat → Nat
  | [] => 0
  | [depth] => depth
  | depths => depths.foldl max 0 + 1

/-- What has been read between two brackets. -/
structure Items where
  /-- How deep the part in front of the last operator nests. -/
  before : Option Nat := none
  /-- How deep the items behind it nest, the last first. -/
  depths : List Nat := []
  deriving DecidableEq, Repr

namespace Items

def add (i : Items) (depth : Nat) : Items := { i with depths := depth :: i.depths }

def depth (i : Items) : Nat :=
  match i.before with
  | none => rowDepth i.depths
  | some d => max d (rowDepth i.depths) + 1

/-- An operator takes all that is in front of it for its left side. -/
def operator (i : Items) : Items := ⟨some i.depth, []⟩

end Items

namespace Brackets

/-! ## Named classes -/

def classNames : List String :=
  ["alnum", "alpha", "ascii", "blank", "cntrl", "digit", "graph", "lower", "print", "punct",
    "space", "upper", "word", "xdigit"]

/-- Reads a named class behind its bracket: whether it is negated, and what follows. -/
def readClass? : List Char → Option (Bool × List Char)
  | ':' :: cs =>
    let negated := cs.head? == some '^'
    let word := if negated then cs.tail else cs
    let name := word.takeWhile (· != ':')
    match word.drop name.length with
    | ':' :: ']' :: rest =>
      if classNames.contains (String.ofList name) then some (negated, rest) else none
    | _ => none
  | _ => none

/-- A named class has letters of both cases or none, and negated it goes beyond ASCII. -/
def classStands (m : Mode) (negated : Bool) : Bool :=
  if m.wide then !m.ignoresCase else !negated

/-! ## Items and ranges -/

/-- Reads one atom or a range. A dash before a closing bracket or another dash makes no range. -/
def readItem? (m : Mode) (cs : List Char) : Option (List Char) :=
  match Atom.readInBrackets? m cs with
  | none => none
  | some (first, rest) =>
    match m.skip rest with
    | '-' :: behind =>
      if m.peek behind == some ']' || m.peek behind == some '-' then
        if first.standsInBrackets m then some ('-' :: behind) else none
      else match Atom.readInBrackets? m (m.skip behind) with
        | none => none
        | some (last, rest') => if first.standAsRange m last then some rest' else none
    | rest' => if first.standsInBrackets m then some rest' else none

/-! ## Openings -/

/-- Counts the dashes in front. -/
def readDashes (m : Mode) (count : Nat) (cs : List Char) : Nat × List Char :=
  match cs with
  | '-' :: rest => readDashes m (count + 1) (m.skip rest)
  | _ => (count, cs)
termination_by cs.length
decreasing_by
  have := m.skip_length rest
  simp only [List.length_cons]
  omega

/-- Reads on behind an opening bracket. A caret negates the set. Dashes that come first stand for
themselves, and so does a closing bracket in their place. -/
def readOpening? (m : Mode) (cs : List Char) : Option (Items × List Char) :=
  let start := m.skip cs
  let negated := start.head? == some '^'
  let inner := if negated then m.skip start.tail else start
  let dash := Atom.literal '-' false
  if negated && !m.wide then none
  else match readDashes m 0 inner with
    | (0, ']' :: rest) =>
      if dash.standsInBrackets m then some (({} : Items).add 0, rest) else none
    | (count, rest) =>
      if count == 0 || dash.standsInBrackets m then some (⟨none, List.replicate count 0⟩, rest)
      else none

/-! ## What is left is shorter -/

theorem readClass?_length (cs rest : List Char) (b : Bool) (h : readClass? cs = some (b, rest)) :
    rest.length < cs.length := by
  revert h
  fun_cases readClass? cs with
  | case1 cs negated word name r hr =>
    intro h
    simp only [Option.some.injEq, Prod.mk.injEq] at h
    have hw : word.length ≤ cs.length := by
      simp only [word]
      split <;> simp
    have hd := congrArg List.length hr
    simp only [List.length_drop, List.length_cons] at hd
    simp only [List.length_cons, ← h.2]
    omega
  | case2 => simp
  | case3 => simp
  | case4 => simp

theorem readItem?_length (m : Mode) (cs rest : List Char) (h : readItem? m cs = some rest) :
    rest.length < cs.length := by
  simp only [readItem?] at h
  split at h
  · simp at h
  · next first behind hf =>
    have hb := Atom.readInBrackets?_length m _ _ _ hf
    have hs := m.skip_length behind
    split at h
    · next left hl =>
      rw [hl, List.length_cons] at hs
      split at h
      · split at h
        · simp only [Option.some.injEq] at h
          simp only [← h, List.length_cons]
          omega
        · simp at h
      · split at h
        · simp at h
        · next last rest' hr =>
          have hr' := Atom.readInBrackets?_length m _ _ _ hr
          have hk := m.skip_length left
          split at h
          · simp only [Option.some.injEq] at h
            subst h
            omega
          · simp at h
    · split at h
      · simp only [Option.some.injEq] at h
        subst h
        omega
      · simp at h

theorem readDashes_length (m : Mode) (count : Nat) (cs : List Char) :
    (readDashes m count cs).2.length ≤ cs.length := by
  fun_induction readDashes m count cs with
  | case1 count rest ih =>
    have := m.skip_length rest
    simp only [List.length_cons]
    omega
  | case2 => exact Nat.le_refl _

theorem readOpening?_length (m : Mode) (cs rest : List Char) (i : Items)
    (h : readOpening? m cs = some (i, rest)) : rest.length ≤ cs.length := by
  have hs := m.skip_length cs
  have ht := m.skip_length (m.skip cs).tail
  simp only [List.length_tail] at ht
  have hi : (if (m.skip cs).head? == some '^' then m.skip (m.skip cs).tail else m.skip cs).length
      ≤ cs.length := by
    split <;> omega
  have hd := readDashes_length m 0
    (if (m.skip cs).head? == some '^' then m.skip (m.skip cs).tail else m.skip cs)
  simp only [readOpening?] at h
  split at h
  · simp at h
  · split at h
    · next r hr =>
      simp only [hr, List.length_cons] at hd
      split at h
      · simp only [Option.some.injEq, Prod.mk.injEq] at h
        rw [← h.2]
        omega
      · simp at h
    · next count r _ hr =>
      simp only [hr] at hd
      split at h
      · simp only [Option.some.injEq, Prod.mk.injEq] at h
        rw [← h.2]
        omega
      · simp at h

/-! ## Sets -/

/-- Reads on between brackets, with what has been read between those around them, the innermost
first. Answers how deep the outermost set nests, and what follows it. -/
def read? (m : Mode) (here : Items) (around : List Items) (cs : List Char) :
    Option (Nat × List Char) :=
  match _hs : m.skip cs with
  | [] => none
  | ']' :: rest =>
    match around with
    | [] => some (here.depth + 1, rest)
    | outer :: around => read? m (outer.add (here.depth + 1)) around rest
  | '[' :: rest =>
    match _hc : readClass? rest with
    | some (negated, behind) =>
      if classStands m negated then read? m (here.add 0) around behind else none
    | none =>
      match _ho : readOpening? m rest with
      | some (inner, behind) => read? m inner (here :: around) behind
      | none => none
  | '&' :: '&' :: rest => read? m here.operator around rest
  | '-' :: '-' :: rest => read? m here.operator around rest
  | '~' :: '~' :: rest => read? m here.operator around rest
  | item =>
    match _hi : readItem? m item with
    | some behind => read? m (here.add 0) around behind
    | none => none
termination_by cs.length
decreasing_by
  · exact m.length_of_skip cs _ _ _hs
  · exact Nat.lt_trans (readClass?_length _ _ _ _hc) (m.length_of_skip cs _ _ _hs)
  · exact Nat.lt_of_le_of_lt (readOpening?_length _ _ _ _ _ho) (m.length_of_skip cs _ _ _hs)
  · exact Nat.lt_of_succ_lt (m.length_of_skip cs _ _ _hs)
  · exact Nat.lt_of_succ_lt (m.length_of_skip cs _ _ _hs)
  · exact Nat.lt_of_succ_lt (m.length_of_skip cs _ _ _hs)
  · exact Nat.lt_of_lt_of_le (readItem?_length _ _ _ _hi) (_hs ▸ m.skip_length cs)

theorem read?_length (m : Mode) (here : Items) (around : List Items) (cs rest : List Char)
    (depth : Nat) (h : read? m here around cs = some (depth, rest)) : rest.length < cs.length := by
  fun_induction read? m here around cs with
  | case1 | case5 | case7 | case12 => simp at h
  | case2 here cs left hs =>
    simp only [Option.some.injEq, Prod.mk.injEq] at h
    exact h.2 ▸ m.length_of_skip cs _ _ hs
  | case3 here cs left hs outer around ih => exact Nat.lt_trans (ih h) (m.length_of_skip cs _ _ hs)
  | case4 here around cs left hs negated behind hc _ ih =>
    have := m.length_of_skip cs _ _ hs
    have := readClass?_length _ _ _ hc
    have := ih h
    omega
  | case6 here around cs left hs _ inner behind ho ih =>
    have := m.length_of_skip cs _ _ hs
    have := readOpening?_length _ _ _ _ ho
    have := ih h
    omega
  | case8 here around cs left hs ih | case9 here around cs left hs ih
  | case10 here around cs left hs ih =>
    exact Nat.lt_trans (ih h) (Nat.lt_of_succ_lt (m.length_of_skip cs _ _ hs))
  | case11 here around cs behind _ _ _ _ _ _ hi ih =>
    have := m.skip_length cs
    have := readItem?_length _ _ _ hi
    have := ih h
    omega

/-- Reads a set behind its opening bracket. -/
def readSet? (m : Mode) (cs : List Char) : Option (Nat × List Char) :=
  match readOpening? m cs with
  | none => none
  | some (here, rest) => read? m here [] rest

theorem readSet?_length (m : Mode) (cs rest : List Char) (depth : Nat)
    (h : readSet? m cs = some (depth, rest)) : rest.length < cs.length := by
  simp only [readSet?] at h
  split at h
  · simp at h
  · next here behind ho =>
    exact Nat.lt_of_lt_of_le (read?_length m _ _ _ _ _ h) (readOpening?_length m _ _ _ ho)

end Brackets
end SipNotifier.Pattern
