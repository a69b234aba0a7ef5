/-! Points in time and lifetimes in whole seconds. They are integers that have to fit a signed word
of 64 bits; adding and subtracting report when they leave it. Main statements: a sum is answered
exactly when it fits (`add_eq_ok_iff`), and a clamped sum always fits (`addClamped_fits`). -/
namespace SipNotifier
set_option autoImplicit false

namespace Seconds

def least : Int := -9223372036854775808
def greatest : Int := 9223372036854775807

/-- The value fits a signed word of 64 bits. -/
def Fits (t : Int) : Prop := least ≤ t ∧ t ≤ greatest

instance (t : Int) : Decidable (Fits t) := inferInstanceAs (Decidable (_ ∧ _))

/-- The operation whose result does not fit. -/
inductive Overflow where
  | add
  | subtract
  deriving DecidableEq, Repr

def Overflow.message : Overflow → String
  | .add => "attempt to add with overflow"
  | .subtract => "attempt to subtract with overflow"

def add (a b : Int) : Except Overflow Int :=
  if Fits (a + b) then .ok (a + b) else .error .add

def subtract (a b : Int) : Except Overflow Int :=
  if Fits (a - b) then .ok (a - b) else .error .subtract

/-- The sum, moved to the nearest value that fits. -/
def addClamped (a b : Int) : Int := max least (min greatest (a + b))

theorem add_eq_ok_iff (a b c : Int) : add a b = .ok c ↔ c = a + b ∧ Fits (a + b) := by
  simp only [add]
  split
  · next h => simp [h, eq_comm]
  · next h => simp [h]

theorem addClamped_fits (a b : Int) : Fits (addClamped a b) := by
  simp only [Fits, addClamped, least, greatest]
  omega

end Seconds
end SipNotifier
