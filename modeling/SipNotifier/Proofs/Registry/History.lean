import Mathlib.Data.List.Dedup
import SipNotifier.Proofs.Registry.Listing
import SipNotifier.Proofs.Registry.OrderedMap

/-! Registries as insertion-ordered maps. The history of a sequence of calls tells, without a registry,
what each key holds and when the key came in. A registry that starts empty holds what its history
tells, in the order in which the keys that are there came in last, and answers and sends what that order
asks for; so does any other ordered map. -/
namespace SipNotifier.Registry
open Subscription
set_option autoImplicit false

/-! ## Lists of keys -/

theorem dedup_concat (keys : List String) (key : String) :
    (keys ++ [key]).dedup = keys.dedup.filter (· != key) ++ [key] := by
  induction keys with
  | nil => rfl
  | cons first rest ih =>
    rw [List.cons_append]
    by_cases hrest : first ∈ rest
    · rw [List.dedup_cons_of_mem (List.mem_append_left [key] hrest),
        List.dedup_cons_of_mem hrest, ih]
    · rw [List.dedup_cons_of_notMem hrest]
      by_cases hkey : first = key
      · subst hkey
        rw [List.dedup_cons_of_mem (by simp), ih, List.filter_cons_of_neg (by simp)]
      · rw [List.dedup_cons_of_notMem (by simp [hrest, hkey]), ih,
          List.filter_cons_of_pos (by simpa using hkey), List.cons_append]

theorem eq_filter_of_sublist (part whole : List String) (hs : part.Sublist whole)
    (hn : whole.Nodup) : part = whole.filter (· ∈ part) := by
  have hself : part.filter (· ∈ part) = part := List.filter_eq_self.mpr (by simp)
  have hsub := hs.filter (· ∈ part)
  rw [hself] at hsub
  refine hsub.eq_of_length_le (List.Nodup.length_le_of_subset (hn.filter _) ?_)
  intro key hkey
  simpa using (List.mem_filter.mp hkey).2

/-! ## Histories -/

/-- What each key holds, and the keys in the order in which they came in while they held nothing, each
as often as it did. -/
structure History where
  held : String → Option Subscription
  arrivals : List String

namespace History

def start : History := ⟨fun _ => none, []⟩

/-- The keys that hold something, in the order in which they came in last. -/
def present (h : History) : List String :=
  h.arrivals.dedup.filter fun key => (h.held key).isSome

def entries (h : History) : List Subscription := h.present.filterMap h.held

/-- How the history goes on after a call, and what the call has to answer and to send. -/
def call (h : History) : Call → Reply History
  | .upsert s => {
      state := {
        held := fun key => if key = s.indexKey then some s else h.held key
        arrivals :=
          if (h.held s.indexKey).isSome then h.arrivals else h.arrivals ++ [s.indexKey] }
      answer := .former (h.held s.indexKey)
      sent := [] }
  | .remove key => {
      state := { h with held := fun other => if other = key then none else h.held other }
      answer := .former (h.held key)
      sent := [] }
  | .update resource change mail => {
      state := { h with
        held := fun key => (h.held key).map fun s => (refresh resource change mail s).1 }
      answer := .count (h.entries.countP (watches resource))
      sent := h.entries.filterMap fun s => (refresh resource change mail s).2 }
  | .flush => {
      state := { h with held := fun key => (h.held key).map fun s => s.flush.1 }
      answer := .count ((waiting h.entries).countP hasBody)
      sent := ((waiting h.entries).filter hasBody).map record }
  | .sweep now => {
      state := { h with held := fun key => (h.held key).filter (live now) }
      answer := .count (h.entries.countP fun s => !live now s)
      sent := ((h.entries.filter fun s => !live now s).filter hasBody).map farewell }

def listing (h : History) (now : Int) : Except Seconds.Overflow String :=
  if ∀ s ∈ h.entries, s.Listable now then .ok (String.join (h.entries.map (row now)))
  else .error .subtract

/-! ## What a history tells of a registry -/

structure Tells (h : History) (r : Registry) : Prop where
  apart : r.keys.Nodup
  held : ∀ key, r.get? key = h.held key
  order : r.keys = h.present

variable {h : History} {r : Registry}

theorem start_tells (p : Package) : start.Tells ⟨p, []⟩ :=
  ⟨List.nodup_nil, fun _ => rfl, rfl⟩

theorem Tells.entries (ht : h.Tells r) : r.entries = h.entries := by
  rw [r.entries_of_keys ht.apart, ht.order, funext ht.held]
  rfl

theorem Tells.mem_keys (ht : h.Tells r) (key : String) : key ∈ r.keys ↔ (h.held key).isSome := by
  rw [mem_keys_iff, ht.held]

theorem Tells.listing (ht : h.Tells r) (now : Int) : r.listing now = h.listing now := by
  rw [listing_eq, ht.entries]
  rfl

/-- Where no key comes in, those that are left keep their order. -/
theorem Tells.fewer (ht : h.Tells r) (q : Registry) (next : History)
    (hsub : q.keys.Sublist r.keys) (hheld : ∀ key, q.get? key = next.held key)
    (harrivals : next.arrivals = h.arrivals) : next.Tells q where
  apart := ht.apart.sublist hsub
  held := hheld
  order := by
    have hleft : ∀ key, key ∈ q.keys ↔ (next.held key).isSome := fun key => by
      rw [mem_keys_iff, hheld]
    calc q.keys = r.keys.filter (· ∈ q.keys) := eq_filter_of_sublist _ _ hsub ht.apart
      _ = h.arrivals.dedup.filter fun key => decide (key ∈ q.keys) && (h.held key).isSome := by
        rw [ht.order, present, List.filter_filter]
      _ = next.present := by
        rw [present, harrivals]
        refine List.filter_congr fun key _ => ?_
        -- Nothing comes in, so what is there afterwards was there before.
        have hbefore : key ∈ q.keys → (h.held key).isSome := fun hk =>
          (ht.mem_keys key).mp (hsub.subset hk)
        rw [Bool.eq_iff_iff, Bool.and_eq_true, decide_eq_true_eq, ← hleft]
        exact ⟨And.left, fun hk => ⟨hk, hbefore hk⟩⟩

/-- A key that holds something already stays where it is, and any other goes behind all that do. -/
theorem Tells.present_upsert (ht : h.Tells r) (s : Subscription) :
    (h.call (.upsert s)).state.present =
      if s.indexKey ∈ r.keys then r.keys else r.keys ++ [s.indexKey] := by
  simp only [call, present, ht.mem_keys]
  cases hold : (h.held s.indexKey).isSome with
  | true =>
    rw [if_pos rfl, if_pos rfl, ht.order, present]
    refine List.filter_congr fun key _ => ?_
    by_cases hk : key = s.indexKey
    · rw [if_pos hk, hk, hold]
      rfl
    · rw [if_neg hk]
  | false =>
    -- The key may have come in before; those places give way to the new one, and as it held nothing
    -- none of them was among the keys that are present.
    rw [if_neg (by decide), if_neg (by decide), dedup_concat, List.filter_append,
      List.filter_filter, ht.order, present]
    congr 1
    · refine List.filter_congr fun key _ => ?_
      by_cases hk : key = s.indexKey
      · rw [hk, hold]
        simp
      · simp [hk]
    · simp

theorem Tells.upsert (ht : h.Tells r) (s : Subscription) :
    (h.call (.upsert s)).state.Tells (r.upsert s) where
  apart := r.nodup_call ht.apart (.upsert s)
  held key := by
    rw [get?_upsert, ht.held]
    rfl
  order := by rw [ht.present_upsert, keys_upsert]

theorem Tells.call (ht : h.Tells r) (c : Call) : (h.call c).state.Tells (r.call c).state := by
  cases c with
  | upsert s => exact ht.upsert s
  | remove key =>
    refine ht.fewer _ _ (r.keys_call (.remove key) (by simp)) (fun other => ?_) rfl
    change (r.erase key).get? other = _
    rw [get?_erase, ht.held]
    rfl
  | update resource change mail =>
    refine ht.fewer _ _ (r.keys_call (.update resource change mail) (by simp)) (fun key => ?_) rfl
    change (r.forEach (refresh resource change mail)).1.get? key = _
    rw [get?_forEach r _ (refresh_indexKey resource change mail), ht.held]
    rfl
  | flush =>
    refine ht.fewer _ _ (r.keys_call .flush (by simp)) (fun key => ?_) rfl
    change (r.forEach Subscription.flush).1.get? key = _
    rw [get?_forEach r _ flush_indexKey, ht.held]
    rfl
  | sweep now =>
    refine ht.fewer _ _ (r.keys_call (.sweep now) (by simp)) (fun key => ?_) rfl
    change (r.sweep now).1.get? key = _
    rw [get?_sweep r ht.apart, ht.held, not_isExpired]
    rfl

theorem Tells.reply (ht : h.Tells r) (c : Call) :
    (r.call c).answer = (h.call c).answer ∧ (r.call c).sent = (h.call c).sent := by
  cases c with
  | upsert s => exact ⟨congrArg Answer.former (ht.held _), rfl⟩
  | remove key => exact ⟨congrArg Answer.former (ht.held _), rfl⟩
  | update resource change mail =>
    simp only [History.call, ← ht.entries]
    exact ⟨rfl, rfl⟩
  | flush =>
    have hnumber : r.flush.2.length = (waiting r.entries).countP hasBody := by
      rw [flush_notices, List.length_map, List.countP_eq_length_filter]
    simp only [History.call, ← ht.entries]
    exact ⟨congrArg Answer.count hnumber, r.flush_notices⟩
  | sweep now =>
    have hnumber : (r.dropped now).length = r.entries.countP fun s => !live now s :=
      List.countP_eq_length_filter.symm
    simp only [History.call, ← ht.entries]
    exact ⟨hnumber ▸ r.answer_sweep now, r.sweep_notices now⟩

theorem Tells.replay (ht : h.Tells r) (calls : List Call) :
    (Registry.replay History.call h calls).Tells (Registry.replay Registry.call r calls) := by
  induction calls generalizing h r with
  | nil => exact ht
  | cons c calls ih => exact ih (ht.call c)

end History

/-- However it is called, a registry is the map of what came in under each key and has not gone, in the
order in which it came in. Each entry stands in it once, under its own key; it is listed and sends in
that order, and every call answers and sends what the history asks for. A refresh keeps its place, a
new key goes last, and all other calls keep the order of what they leave. Two sweeps come to one. -/
theorem insertion_ordered (m : OrderedMap Subscription) (p : Package) (calls : List Call) :
    let r := replay Registry.call ⟨p, []⟩ calls
    let h := replay History.call History.start calls
    let held := replay m.call m.empty calls
    h.Tells r ∧ r.entries = h.entries ∧ (∀ now, r.listing now = h.listing now) ∧
      (∀ c, (r.call c).answer = (h.call c).answer ∧ (r.call c).sent = (h.call c).sent) ∧
      r.KeepsOrder ∧ (∀ first second, r.SweepsOnce first second) ∧
      m.Shows held r ∧ ∀ c, m.Agrees held r c := by
  intro r h held
  have htells : h.Tells r := (History.start_tells p).replay calls
  have hempty : m.Shows m.empty ⟨p, []⟩ := m.entries_empty
  have hshows : m.Shows held r := hempty.replay calls
  exact ⟨htells, htells.entries, htells.listing, htells.reply, r.keepsOrder, r.sweepsOnce, hshows,
    hshows.call⟩

/-- Three subscribers of a mailbox: the second refreshes, the third is taken out, the first expires, and
then both come back. -/
theorem insertion_ordered_come_back :
    let s (port : UInt16) (last : Int) : Subscription := ⟨.mailbox, "100", "10.0.0.1", port,
      "sip:100@pbx", "from", "to", "call", "sip:phone", .active, last, "Messages-Waiting: no", false⟩
    let calls : List Call := [.upsert (s 1 60), .upsert (s 2 300), .upsert (s 3 300),
      .upsert (s 2 400), .remove "message-summary:100:10.0.0.1:3", .sweep 60, .upsert (s 1 500),
      .upsert (s 3 500)]
    let m := OrderedMap.listed Subscription
    (replay Registry.call ⟨.messageSummary, []⟩ calls).keys = ["message-summary:100:10.0.0.1:2",
        "message-summary:100:10.0.0.1:1", "message-summary:100:10.0.0.1:3"] ∧
      (m.entries (replay m.call m.empty calls)).map Prod.snd = [s 2 400, s 1 500, s 3 500] := by
  intro s calls m
  obtain ⟨htells, hentries, -, -, -, -, hshows, -⟩ := insertion_ordered m .messageSummary calls
  have hpresent : (replay History.call History.start calls).present =
      ["message-summary:100:10.0.0.1:2", "message-summary:100:10.0.0.1:1",
        "message-summary:100:10.0.0.1:3"] := by decide +kernel
  have hheld : (replay History.call History.start calls).entries =
      [s 2 400, s 1 500, s 3 500] := by decide +kernel
  refine ⟨htells.order.trans hpresent, ?_⟩
  rw [hshows, List.map_map]
  exact (List.map_id _).trans (hentries.trans hheld)

end SipNotifier.Registry
