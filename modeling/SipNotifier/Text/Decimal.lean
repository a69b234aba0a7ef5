/-! Whole numbers written in decimal digits. Main statement: reading a number undoes writing it
(`decimalValue_toDigits`). -/
namespace SipNotifier.Text
set_option autoImplicit false

/-- The value of a run of decimal digits, the most significant first. -/
def decimalValue (digits : List Char) : Nat :=
  digits.foldl (fun n d => 10 * n + (d.toNat - '0'.toNat)) 0

theorem decimalValue_toDigits (n : Nat) : decimalValue (Nat.toDigits 10 n) = n :=
  Nat.ofDigitChars_ten_toDigits

/-- No number but zero is written with a zero in front. -/
theorem head?_toDigits (n : Nat) (h : 0 < n) : (Nat.toDigits 10 n).head? ≠ some '0' := by
  induction n using Nat.strongRecOn with
  | ind n ih =>
    rcases Nat.lt_or_ge n 10 with hn | hn
    · have hdigit : ∀ d : Fin 10, 0 < d.val → d.val.digitChar ≠ '0' := by decide
      simpa [Nat.toDigits_of_lt_base hn] using hdigit ⟨n, hn⟩ h
    · have hfront := ih (n / 10) (by omega) (by omega)
      rw [Nat.toDigits_of_base_le (by omega) hn, List.head?_append]
      cases hd : Nat.toDigits 10 (n / 10) with
      | nil => exact absurd hd Nat.toDigits_ne_nil
      | cons d ds => simpa [hd] using hfront

/-- A non-empty run of digits whose value is at most the bound. -/
def boundedDecimal? (bound : Nat) (cs : List Char) : Option Nat :=
  if !cs.isEmpty && cs.all Char.isDigit && decide (decimalValue cs ≤ bound) then
    some (decimalValue cs)
  else none

/-- A bounded decimal that one plus sign may precede. -/
def unsignedDecimal? (bound : Nat) : List Char → Option Nat
  | '+' :: cs => boundedDecimal? bound cs
  | cs => boundedDecimal? bound cs

end SipNotifier.Text
