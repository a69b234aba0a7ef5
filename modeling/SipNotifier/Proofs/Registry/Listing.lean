import SipNotifier.Registry

/-! Listings. A listing has one row for each entry, in the order of the entries, and fails only where the
time that an entry has left does not fit. -/
namespace SipNotifier
set_option autoImplicit false

namespace Subscription

/-- The time that the subscription has left can be told. -/
def Listable (now : Int) (s : Subscription) : Prop :=
  0 < s.expiresAt → Seconds.Fits (s.expiresAt - now)

instance (now : Int) (s : Subscription) : Decidable (s.Listable now) :=
  inferInstanceAs (Decidable (_ → _))

/-- What a listing says of the time left: nothing is left of a subscription that is over. -/
def left (now : Int) (s : Subscription) : Int := if 0 < s.expiresAt then s.expiresAt - now else 0

theorem remaining_eq (now : Int) (s : Subscription) :
    s.remaining now = if s.Listable now then .ok (s.left now) else .error .subtract := by
  by_cases hlast : 0 < s.expiresAt
  · by_cases hfits : Seconds.Fits (s.expiresAt - now)
    · simp [remaining, Seconds.subtract, Listable, left, hlast, hfits]
    · simp [remaining, Seconds.subtract, Listable, hlast, hfits]
  · simp [remaining, Listable, left, hlast]

theorem remaining_ok_iff (now : Int) (s : Subscription) :
    (∃ left, s.remaining now = .ok left) ↔ s.Listable now := by
  rw [remaining_eq]
  split
  · next h => simp [h]
  · next h => simp [h]

end Subscription

namespace Registry
open Subscription

/-- What a listing says of an entry. -/
def row (now : Int) (s : Subscription) : String :=
  s.indexKey ++ " expires in " ++ Int.repr (s.left now) ++ "\r\n"

theorem line_eq (now : Int) (s : Subscription) :
    line now s = if s.Listable now then .ok (row now s) else .error .subtract := by
  rw [line, remaining_eq]
  split <;> rfl

theorem mapM_line (now : Int) (es : List Subscription) :
    es.mapM (line now) =
      if ∀ s ∈ es, s.Listable now then .ok (es.map (row now)) else .error .subtract := by
  induction es with
  | nil => rfl
  | cons e es ih =>
    rw [List.mapM_cons, line_eq, ih]
    by_cases he : e.Listable now
    · by_cases hes : ∀ s ∈ es, s.Listable now
      · rw [if_pos he, if_pos hes, if_pos (List.forall_mem_cons.mpr ⟨he, hes⟩)]
        rfl
      · rw [if_pos he, if_neg hes, if_neg fun hall => hes (List.forall_mem_cons.mp hall).2]
        rfl
    · rw [if_neg he, if_neg fun hall => he (List.forall_mem_cons.mp hall).1]
      rfl

theorem listing_eq (r : Registry) (now : Int) :
    r.listing now = if ∀ s ∈ r.entries, s.Listable now
      then .ok (String.join (r.entries.map (row now))) else .error .subtract := by
  rw [listing, mapM_line]
  split <;> rfl

theorem listing_ok_iff (r : Registry) (now : Int) : (∃ text, r.listing now = .ok text) ↔
    ∀ s ∈ r.entries, ∃ left, s.remaining now = .ok left := by
  simp only [remaining_ok_iff, listing_eq]
  split
  · next h => simpa using h
  · next h => simpa using h

end Registry
end SipNotifier
