import SipNotifier.Json.Token
import SipNotifier.Json.Writer

/-! How strings may be written. A character stands for itself or behind a backslash, as a letter or as
one or two code units in hexadecimal digits. Main statements: a string is read back from any of its
forms (`readString_written`), and the one with as few escapes as may be is among them
(`stringWritten_escape`). -/
namespace SipNotifier.Json
set_option autoImplicit false

/-! ## Characters -/

/-- A hexadecimal digit in either case. -/
def IsHexDigit (d : Nat) (c : Char) : Prop :=
  c = Text.hexDigit d ∨ c = (Text.hexDigit d).toUpper

instance (d : Nat) (c : Char) : Decidable (IsHexDigit d c) :=
  inferInstanceAs (Decidable (c = Text.hexDigit d ∨ c = (Text.hexDigit d).toUpper))

/-- The escape of a code unit by its four hexadecimal digits. -/
inductive UnitWritten (n : Nat) : List Char → Prop
  | digits (a b c d : Char) (ha : IsHexDigit (n / 4096) a) (hb : IsHexDigit (n / 256 % 16) b)
      (hc : IsHexDigit (n / 16 % 16) c) (hd : IsHexDigit (n % 16) d) :
      UnitWritten n ['\\', 'u', a, b, c, d]

/-- The letters behind a backslash, and what they stand for. -/
def shortEscapes : List (Char × Char) :=
  [('"', '"'), ('\\', '\\'), ('/', '/'), ('b', '\x08'), ('f', '\x0c'), ('n', '\n'), ('r', '\r'),
    ('t', '\t')]

/-- The ways to write a character inside a string. Above U+FFFF it takes two code units. -/
inductive CharWritten (c : Char) : List Char → Prop
  | plain (hq : c ≠ '"') (hb : c ≠ '\\') (hc : 0x20 ≤ c.toNat) : CharWritten c [c]
  | short (letter : Char) (h : (letter, c) ∈ shortEscapes) : CharWritten c ['\\', letter]
  | unit (word : List Char) (hc : c.toNat < 0x10000) (h : UnitWritten c.toNat word) :
      CharWritten c word
  | pair (high low : List Char) (hc : 0x10000 ≤ c.toNat)
      (hh : UnitWritten (0xD800 + (c.toNat - 0x10000) / 0x400) high)
      (hl : UnitWritten (0xDC00 + (c.toNat - 0x10000) % 0x400) low) : CharWritten c (high ++ low)

theorem readString_escape (cs behind : List Char) (x : Char)
    (h : readEscape cs = some (x, behind)) :
    readString ('\\' :: cs) = (readString behind).map fun (s, left) => (x :: s, left) := by
  rw [readString]
  split
  · next hn => simp [h] at hn
  · next y left hs =>
    rw [h, Option.some.injEq, Prod.mk.injEq] at hs
    rw [hs.1, hs.2]

theorem readString_plain (c : Char) (cs : List Char) (hq : c ≠ '"') (hb : c ≠ '\\')
    (hc : 0x20 ≤ c.toNat) :
    readString (c :: cs) = (readString cs).map fun (s, left) => (c :: s, left) := by
  rw [readString]
  · rw [if_neg (by omega)]
  · exact hq
  · exact hb

theorem unit?_digits (a b c d : Char) (w x y z : Nat) (ha : Text.hexDigit? a = some w)
    (hb : Text.hexDigit? b = some x) (hc : Text.hexDigit? c = some y)
    (hd : Text.hexDigit? d = some z) (hw : w < 16) (hx : x < 16) (hy : y < 16) (hz : z < 16) :
    unit? a b c d = some (((w * 16 + x) * 16 + y) * 16 + z) := by
  simp [unit?, Text.valueInBase?, ha, hb, hc, hd, hw, hx, hy, hz]

theorem hexDigit?_of_isHexDigit (d : Nat) (c : Char) (hd : d < 16) (h : IsHexDigit d c) :
    Text.hexDigit? c = some d := by
  have hupper : ∀ m : Fin 16, Text.hexDigit? (Text.hexDigit m.val).toUpper = some m.val := by decide
  rcases h with rfl | rfl
  · exact Text.hexDigit?_hexDigit d hd
  · exact hupper ⟨d, hd⟩

theorem unit?_of_isHexDigit (n : Nat) (a b c d : Char) (hn : n < 0x10000)
    (ha : IsHexDigit (n / 4096) a) (hb : IsHexDigit (n / 256 % 16) b)
    (hc : IsHexDigit (n / 16 % 16) c) (hd : IsHexDigit (n % 16) d) : unit? a b c d = some n := by
  have hunit := unit?_digits a b c d _ _ _ _ (hexDigit?_of_isHexDigit _ a (by omega) ha)
    (hexDigit?_of_isHexDigit _ b (by omega) hb) (hexDigit?_of_isHexDigit _ c (by omega) hc)
    (hexDigit?_of_isHexDigit _ d (by omega) hd) (by omega) (by omega) (by omega) (by omega)
  have hvalue : ((n / 4096 * 16 + n / 256 % 16) * 16 + n / 16 % 16) * 16 + n % 16 = n := by omega
  rwa [hvalue] at hunit

theorem not_surrogate (c : Char) : c.toNat < 0xD800 ∨ 0xDFFF < c.toNat := by
  rcases c.valid with h | h
  · exact .inl h
  · exact .inr h.1

theorem toNat_le_last (c : Char) : c.toNat < 0x110000 := by
  rcases c.valid with h | h
  · exact Nat.lt_trans h (by decide)
  · exact h.2

theorem readEscape_unit (c : Char) (w x y z : Char) (cs : List Char)
    (h : unit? w x y z = some c.toNat) :
    readEscape ('u' :: w :: x :: y :: z :: cs) = some (c, cs) := by
  rw [readEscape, h]
  simp only
  rw [if_pos (not_surrogate c), Char.ofNat_toNat]

theorem readEscape_pair (c : Char) (w x y z e f g i : Char) (cs : List Char)
    (hc : 0x10000 ≤ c.toNat)
    (hh : unit? w x y z = some (0xD800 + (c.toNat - 0x10000) / 0x400))
    (hl : unit? e f g i = some (0xDC00 + (c.toNat - 0x10000) % 0x400)) :
    readEscape ('u' :: w :: x :: y :: z :: '\\' :: 'u' :: e :: f :: g :: i :: cs) =
      some (c, cs) := by
  have hlast := toNat_le_last c
  have hvalue : 0x10000 + (0xD800 + (c.toNat - 0x10000) / 0x400 - 0xD800) * 0x400 +
      (0xDC00 + (c.toNat - 0x10000) % 0x400 - 0xDC00) = c.toNat := by omega
  rw [readEscape, hh]
  simp only
  rw [if_neg (by omega), hl]
  simp only
  rw [if_pos (by omega), hvalue, Char.ofNat_toNat]

theorem readString_char (c : Char) (word rest : List Char) (h : CharWritten c word) :
    readString (word ++ rest) = (readString rest).map fun (s, left) => (c :: s, left) := by
  cases h with
  | plain hq hb hc => exact readString_plain c rest hq hb hc
  | short letter h =>
    have hletter : ∀ p ∈ shortEscapes, readEscape (p.1 :: rest) = some (p.2, rest) := by
      simp only [shortEscapes, List.forall_mem_cons, List.not_mem_nil, false_implies, implies_true,
        and_true]
      exact ⟨rfl, rfl, rfl, rfl, rfl, rfl, rfl, rfl⟩
    exact readString_escape _ _ _ (hletter _ h)
  | unit word hc h =>
    obtain ⟨w, x, y, z, hw, hx, hy, hz⟩ := h
    have hunit := unit?_of_isHexDigit c.toNat w x y z hc hw hx hy hz
    exact readString_escape _ _ _ (readEscape_unit c w x y z rest hunit)
  | pair high low hc hh hl =>
    obtain ⟨w, x, y, z, hw, hx, hy, hz⟩ := hh
    obtain ⟨e, f, g, i, he, hf, hg, hi⟩ := hl
    have hlast := toNat_le_last c
    have hhigh := unit?_of_isHexDigit _ w x y z (by omega) hw hx hy hz
    have hlow := unit?_of_isHexDigit _ e f g i (by omega) he hf hg hi
    exact readString_escape _ _ _ (readEscape_pair c w x y z e f g i rest hc hhigh hlow)

/-! ## Strings -/

/-- The ways to write the characters of a string, one behind the other. -/
inductive StringWritten : List Char → List Char → Prop
  | nil : StringWritten [] []
  | cons (c : Char) (s word cs : List Char) (hc : CharWritten c word) (hs : StringWritten s cs) :
      StringWritten (c :: s) (word ++ cs)

theorem readString_written (s cs rest : List Char) (h : StringWritten s cs) :
    readString (cs ++ '"' :: rest) = some (s, rest) := by
  induction h with
  | nil => simp [readString]
  | cons c s word cs hc hs ih => rw [List.append_assoc, readString_char c word _ hc, ih]; rfl

theorem charWritten_escapeChar (c : Char) : CharWritten c (escapeChar c) := by
  unfold escapeChar
  split
  · exact .short '"' (by decide)
  · exact .short '\\' (by decide)
  · exact .short 'b' (by decide)
  · exact .short 'f' (by decide)
  · exact .short 'n' (by decide)
  · exact .short 'r' (by decide)
  · exact .short 't' (by decide)
  · next hquote hback _ _ _ _ _ =>
    split
    · next hc =>
      have hzero : c.toNat / 4096 = 0 ∧ c.toNat / 256 % 16 = 0 ∧ c.toNat / 16 % 16 = c.toNat / 16 := by
        omega
      obtain ⟨ha, hb, hd⟩ := hzero
      refine .unit _ (by omega) (.digits _ _ _ _ ?_ ?_ ?_ (.inl rfl))
      · rw [ha]; exact .inl rfl
      · rw [hb]; exact .inl rfl
      · rw [hd]; exact .inl rfl
    · next hc => exact .plain hquote hback (by omega)

theorem stringWritten_escape (s : List Char) : StringWritten s (s.flatMap escapeChar) := by
  induction s with
  | nil => exact .nil
  | cons c s ih => exact .cons c s _ _ (charWritten_escapeChar c) ih

end SipNotifier.Json
