import SipNotifier.Seconds

/-! The lifetimes that subscriptions are granted and the pace of the sweeps. -/
namespace SipNotifier
set_option autoImplicit false

structure Policy where
  minExpires : Int := 60
  maxExpires : Int := 86400
  /-- The lifetime of a request that names none. -/
  defaultExpires : Int := 3600
  /-- The time from one sweep to the next. -/
  sweepInterval : Int := 15
  deriving DecidableEq, Repr

namespace Policy

/-- The lifetime granted for a requested one; none ends the subscription. -/
def granted (p : Policy) (requested : Option Int) : Option Int :=
  match requested with
  | none => some p.defaultExpires
  | some t =>
    if t = 0 then none
    else if 0 < t then some (min (max t p.minExpires) p.maxExpires)
    else some p.defaultExpires

/-! ## Validation -/

/-- The first rule that a policy breaks. -/
inductive Invalid where
  | minNotPositive
  | maxBelowMin (max min : Int)
  | defaultOutside (default min max : Int)
  | sweepNotPositive
  deriving DecidableEq, Repr

def Invalid.field : Invalid → String
  | .minNotPositive => "subscription.min_expires"
  | .maxBelowMin _ _ => "subscription.max_expires"
  | .defaultOutside _ _ _ => "subscription.default_expires"
  | .sweepNotPositive => "subscription.sweep_interval"

def Invalid.reason : Invalid → String
  | .minNotPositive | .sweepNotPositive => "must be positive"
  | .maxBelowMin max min => Int.repr max ++ " is below min_expires " ++ Int.repr min
  | .defaultOutside default min max =>
    Int.repr default ++ " is outside [" ++ Int.repr min ++ ", " ++ Int.repr max ++ "]"

def Invalid.message (e : Invalid) : String := "Invalid value for " ++ e.field ++ ": " ++ e.reason

/-- A policy that the service may run with. -/
structure Valid (p : Policy) : Prop where
  min_pos : 0 < p.minExpires
  min_le_max : p.minExpires ≤ p.maxExpires
  min_le_default : p.minExpires ≤ p.defaultExpires
  default_le_max : p.defaultExpires ≤ p.maxExpires
  sweep_pos : 0 < p.sweepInterval

def validate (p : Policy) : Except Invalid Unit :=
  if p.minExpires ≤ 0 then .error .minNotPositive
  else if p.maxExpires < p.minExpires then .error (.maxBelowMin p.maxExpires p.minExpires)
  else if p.defaultExpires < p.minExpires ∨ p.maxExpires < p.defaultExpires then
    .error (.defaultOutside p.defaultExpires p.minExpires p.maxExpires)
  else if p.sweepInterval ≤ 0 then .error .sweepNotPositive
  else .ok ()

theorem validate_eq_ok_iff (p : Policy) : p.validate = .ok () ↔ p.Valid := by
  constructor
  · intro h
    simp only [validate] at h
    split at h
    · simp at h
    split at h
    · simp at h
    split at h
    · simp at h
    split at h
    · simp at h
    · constructor <;> omega
  · intro ⟨h1, h2, h3, h4, h5⟩
    simp only [validate]
    rw [if_neg (by omega), if_neg (by omega), if_neg (by omega), if_neg (by omega)]

end Policy
end SipNotifier
