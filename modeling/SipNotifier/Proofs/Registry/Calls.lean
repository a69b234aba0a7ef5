import SipNotifier.Proofs.Registry.Sweep

/-! Calls on a registry, with what each of them answers and sends. The keys stay apart through all of
them, and only an entry that comes in under a new key changes their order, by going last. -/
namespace SipNotifier.Registry
open Subscription
set_option autoImplicit false

/-! ## Calls -/

inductive Call where
  | upsert (s : Subscription)
  | remove (key : String)
  | update (resource : String) (change : Change) (mail : String → Mailbox.Counts)
  | flush
  | sweep (now : Int)

/-- The entry that a call puts out of its place, or the number of entries that it concerns. -/
inductive Answer where
  | former (entry : Option Subscription)
  | count (n : Nat)
  deriving DecidableEq, Repr

structure Reply (State : Type) where
  state : State
  answer : Answer
  sent : List Notify

/-- The state after a sequence of calls. -/
def replay {State : Type} (step : State → Call → Reply State) (start : State)
    (calls : List Call) : State :=
  calls.foldl (fun state c => (step state c).state) start

def call (r : Registry) : Call → Reply Registry
  | .upsert s => ⟨r.upsert s, .former (r.get? s.indexKey), []⟩
  | .remove key => ⟨r.erase key, .former (r.get? key), []⟩
  | .update resource change mail =>
    let (rendered, sent) := r.update resource change mail
    ⟨rendered, .count (r.watchers resource), sent⟩
  | .flush =>
    let (flushed, sent) := r.flush
    ⟨flushed, .count sent.length, sent⟩
  | .sweep now =>
    let (swept, sent) := r.sweep now
    ⟨swept, .count (r.entries.length - swept.entries.length), sent⟩

/-! ## Keys -/

theorem mem_keys_iff (r : Registry) (key : String) : key ∈ r.keys ↔ (r.get? key).isSome := by
  rw [keys, get?, List.find?_isSome]
  simp

/-- What calls do to the keys. -/
structure KeepsOrder (r : Registry) : Prop where
  refreshed : ∀ s, s.indexKey ∈ r.keys → (r.upsert s).keys = r.keys
  added : ∀ s, s.indexKey ∉ r.keys → (r.upsert s).keys = r.keys ++ [s.indexKey]
  removed : ∀ key, (r.erase key).keys = r.keys.filter (· != key)
  updated : ∀ resource change mail, (r.update resource change mail).1.keys = r.keys
  flushed : r.flush.1.keys = r.keys
  swept : ∀ now, (r.sweep now).1.entries = r.kept now

theorem keepsOrder (r : Registry) : r.KeepsOrder where
  refreshed s hs := by rw [keys_upsert, if_pos hs]
  added s hs := by rw [keys_upsert, if_neg hs]
  removed := r.keys_erase
  updated := r.keys_update
  flushed := r.keys_flush
  swept now := congrArg Registry.entries (r.sweep_kept now)

theorem keys_call (r : Registry) (c : Call) (hc : ∀ s, c ≠ .upsert s) :
    (r.call c).state.keys.Sublist r.keys := by
  cases c with
  | upsert s => exact absurd rfl (hc s)
  | remove key =>
    rw [call, keys_erase]
    exact List.filter_sublist
  | update resource change mail =>
    have hkeys := r.keys_update resource change mail
    exact hkeys ▸ List.Sublist.refl _
  | flush =>
    have hkeys := r.keys_flush
    exact hkeys ▸ List.Sublist.refl _
  | sweep now => exact r.keys_sweep now

theorem nodup_call (r : Registry) (hn : r.keys.Nodup) (c : Call) :
    (r.call c).state.keys.Nodup := by
  by_cases hc : ∃ s, c = .upsert s
  · obtain ⟨s, rfl⟩ := hc
    have hall : r.Holds fun _ => True := ⟨hn, fun _ _ => trivial⟩
    exact (hall.upsert s trivial).keys
  · exact hn.sublist (r.keys_call c fun s hs => hc ⟨s, hs⟩)

/-- Where the keys are apart, each of them finds its own entry. -/
theorem entries_of_keys (r : Registry) (hn : r.keys.Nodup) :
    r.entries = r.keys.filterMap r.get? := by
  have hfound : ∀ s ∈ r.entries, (r.get? ∘ indexKey) s = some s := fun s hs =>
    (get?_eq_some_iff r hn _ s).mpr ⟨hs, rfl⟩
  rw [keys, List.filterMap_map, List.filterMap_congr hfound, List.filterMap_some]

/-! ## Two sweeps -/

/-- A sweep at one time and then one at another end and leave what one at the later time does. -/
structure SweepsOnce (r : Registry) (first second : Int) : Prop where
  left : ((r.sweep first).1.sweep second).1 = (r.sweep (max first second)).1
  answers : ∃ m n, (r.call (.sweep first)).answer = .count m ∧
    ((r.sweep first).1.call (.sweep second)).answer = .count n ∧
    (r.call (.sweep (max first second))).answer = .count (m + n)
  sent : ((r.sweep first).2 ++ ((r.sweep first).1.sweep second).2).Perm
    (r.sweep (max first second)).2

theorem answer_sweep (r : Registry) (now : Int) :
    (r.call (.sweep now)).answer = .count (r.dropped now).length :=
  congrArg Answer.count (r.length_dropped now)

theorem sweepsOnce (r : Registry) (first second : Int) : r.SweepsOnce first second where
  left := r.sweep_sweep first second
  answers := by
    have hcount := (r.dropped_sweep first second).length_eq
    rw [List.length_append] at hcount
    exact ⟨_, _, r.answer_sweep first, answer_sweep _ second, hcount ▸ r.answer_sweep _⟩
  sent := by
    have hnotices := ((r.dropped_sweep first second).filter hasBody).map farewell
    rw [List.filter_append, List.map_append] at hnotices
    simpa only [sweep_notices] using hnotices

end SipNotifier.Registry
