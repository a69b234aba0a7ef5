/-! The range of a double: which magnitudes round to a finite one. -/
namespace SipNotifier.Text
set_option autoImplicit false

/-- The least magnitude that rounds beyond the largest double. -/
def doubleLimit : Nat := Nat.pow 2 1024 - Nat.pow 2 970

/-- Rounds to 53 significant bits; a half goes to the even neighbour. -/
def roundToDouble (n : Nat) : Nat :=
  let shift := n.log2 - 52
  if shift = 0 then n
  else
    let kept := n >>> shift
    let lost := n % Nat.pow 2 shift
    let half := Nat.pow 2 (shift - 1)
    if lost < half ∨ (lost = half ∧ kept % 2 = 0) then kept <<< shift else (kept + 1) <<< shift

/-- The digits, scaled by a power of ten, round beyond the largest double. Powers that decide by
their size alone are not computed. -/
def exceedsDouble (digits : Nat) (exponent : Int) : Bool :=
  if digits = 0 then false
  else match exponent with
    | .ofNat k => decide (308 < k) || decide (doubleLimit ≤ digits * Nat.pow 10 k)
    | .negSucc k =>
      decide (1000 + 3 * (k + 1) ≤ digits.log2) &&
        decide (doubleLimit * Nat.pow 10 (k + 1) ≤ digits)

end SipNotifier.Text
