import Mathlib.Data.List.Basic
import SipNotifier.Proofs.Registry.Entries

/-! What a sweep and a flush do, entry by entry. An entry is live for as long as its time has not come;
one that is over for good has no time to come. A sweep keeps the live entries as they are and tells the
end of the others, and a flush tells what waits. Two sweeps come to one at the later of their times. -/
namespace SipNotifier.Registry
open Subscription
set_option autoImplicit false

theorem filterMap_guarded {α β : Type} (p : α → Bool) (f : α → β) (es : List α) :
    (es.filterMap fun e => if p e then some (f e) else none) = (es.filter p).map f := by
  rw [← List.filterMap_eq_map, List.filterMap_filter]
  rfl

/-! ## What is kept -/

def live (now : Int) (s : Subscription) : Bool := decide (s.expiresAt = 0 ∨ now < s.expiresAt)

theorem isExpired_eq (now : Int) (s : Subscription) : s.isExpired now = !live now s := by
  rw [Bool.eq_iff_iff, isExpired_iff, live, Bool.not_eq_true', decide_eq_false_iff_not]
  omega

theorem not_isExpired (now : Int) : (fun s => !s.isExpired now) = live now := by
  funext s
  rw [isExpired_eq, Bool.not_not]

/-- An entry lives at the later of two times if it lives at both. -/
theorem live_max (first second : Int) :
    live (max first second) = fun s => live second s && live first s := by
  funext s
  rw [Bool.eq_iff_iff, Bool.and_eq_true]
  simp only [live, decide_eq_true_eq]
  omega

/-- What a sweep leaves of a list of entries. -/
def kept (r : Registry) (now : Int) : List Subscription := r.entries.filter (live now)

def dropped (r : Registry) (now : Int) : List Subscription := r.entries.filter fun s => !live now s

def waiting (es : List Subscription) : List Subscription := es.filter Subscription.pending

variable (r : Registry) (now : Int)

theorem sweep_kept : (r.sweep now).1 = { r with entries := r.kept now } := by
  rw [sweep, not_isExpired]
  rfl

theorem length_dropped :
    r.entries.length - (r.sweep now).1.entries.length = (r.dropped now).length := by
  have hparts := (List.filter_append_perm (live now) r.entries).length_eq
  rw [List.length_append] at hparts
  rw [sweep_kept]
  simp only [kept, dropped]
  omega

/-! ## What is sent -/

/-- A sweep tells the end of each entry that it drops and that has a body to tell it with. -/
theorem sweep_notices :
    (r.sweep now).2 = ((r.dropped now).filter hasBody).map farewell := by
  have hdropped : (fun s => s.isExpired now) = fun s => !live now s := funext (isExpired_eq now)
  rw [← filterMap_guarded, sweep, hdropped]
  exact List.filterMap_congr fun s _ => expire_sent s

theorem flush_notices :
    r.flush.2 = ((waiting r.entries).filter hasBody).map record := by
  rw [waiting, List.filter_filter, ← filterMap_guarded]
  refine List.filterMap_congr fun s _ => ?_
  rw [flush_sent, Bool.and_comm]

theorem sweep_eq (h : ∀ s ∈ r.entries, s.body ≠ "") :
    r.sweep now = ({ r with entries := r.kept now }, (r.dropped now).map farewell) := by
  have hbodies : (r.dropped now).filter hasBody = r.dropped now :=
    List.filter_eq_self.mpr fun s hs => bne_iff_ne.mpr (h s (List.mem_filter.mp hs).1)
  rw [← sweep_kept, ← hbodies, ← sweep_notices]

theorem flush_eq (h : ∀ s ∈ r.entries, s.body ≠ "") :
    r.flush = ({ r with entries := r.entries.map told }, (waiting r.entries).map record) := by
  have hentries : (r.entries.map fun s => s.flush.1) = r.entries.map told :=
    List.map_congr_left fun s hs => congrArg Prod.fst (flush_of_body s (h s hs))
  have hbodies : (waiting r.entries).filter hasBody = waiting r.entries :=
    List.filter_eq_self.mpr fun s hs => bne_iff_ne.mpr (h s (List.mem_filter.mp hs).1)
  rw [← hentries, ← hbodies, ← flush_notices]
  rfl

theorem sweep_flush_eq (h : ∀ s ∈ r.entries, s.body ≠ "") :
    (r.sweep now).1.flush =
      ({ r with entries := (r.kept now).map told }, (waiting (r.kept now)).map record) := by
  rw [sweep_kept]
  exact flush_eq _ fun s hs => h s (List.mem_filter.mp hs).1

/-! ## Two sweeps -/

theorem sweep_sweep (first second : Int) :
    ((r.sweep first).1.sweep second).1 = (r.sweep (max first second)).1 := by
  simp only [sweep_kept, kept, List.filter_filter, live_max]

/-- What two sweeps drop is what one at the later time drops, though not in its order. -/
theorem dropped_sweep (first second : Int) :
    (r.dropped first ++ (r.sweep first).1.dropped second).Perm (r.dropped (max first second)) := by
  have hfirst : (r.dropped (max first second)).filter (fun s => !live first s) =
      r.dropped first := by
    simp only [dropped, List.filter_filter, live_max]
    refine List.filter_congr fun s _ => ?_
    cases live first s <;> simp
  have hsecond : (r.dropped (max first second)).filter (fun s => !!live first s) =
      (r.sweep first).1.dropped second := by
    simp only [dropped, sweep_kept, kept, List.filter_filter, live_max]
    refine List.filter_congr fun s _ => ?_
    cases live first s <;> simp
  rw [← hfirst, ← hsecond]
  exact List.filter_append_perm _ _

end SipNotifier.Registry
