import Mathlib.Data.List.ReduceOption
import SipNotifier.Proofs.Registry.Calls

/-! Registries over an ordered map. The map is known by what its operations do to the entries it lists,
and each subscription is stored in it under the key that it had when it came in. The key is never
written again, but it stays the subscription's own, so that a list of subscriptions says as much as the
map: both give the same answers to all calls and send the same NOTIFYs. -/
namespace SipNotifier
set_option autoImplicit false

/-! ## Ordered maps -/

/-- A map that lists its entries in an order. A value that is inserted under a key of the map takes the
place of the one there, under any other key it goes last, and what is taken out leaves the order of the
rest. -/
structure OrderedMap (Value : Type) where
  Map : Type
  empty : Map
  entries : Map → List (String × Value)
  insert : Map → String → Value → Map × Option Value
  remove : Map → String → Map × Option Value
  /-- Passes every value to a function that changes it, and collects what the function answers. -/
  visit : {Seen : Type} → Map → (Value → Value × Seen) → Map × List Seen
  /-- Passes every value to a function that changes it or, by answering `false`, drops it. -/
  retain : {Seen : Type} → Map → (Value → Bool × Value × Seen) → Map × List Seen
  entries_empty : entries empty = []
  entries_insert : ∀ held key value, entries (insert held key value).1 =
    if key ∈ (entries held).map Prod.fst then
      (entries held).map fun e => if e.1 = key then (key, value) else e
    else entries held ++ [(key, value)]
  former_insert : ∀ held key value, (insert held key value).2 = (entries held).lookup key
  entries_remove : ∀ held key,
    entries (remove held key).1 = (entries held).filter fun e => e.1 != key
  former_remove : ∀ held key, (remove held key).2 = (entries held).lookup key
  entries_visit : ∀ {Seen : Type} held (f : Value → Value × Seen),
    entries (visit held f).1 = (entries held).map fun e => (e.1, (f e.2).1)
  seen_visit : ∀ {Seen : Type} held (f : Value → Value × Seen),
    (visit held f).2 = (entries held).map fun e => (f e.2).2
  entries_retain : ∀ {Seen : Type} held (f : Value → Bool × Value × Seen),
    entries (retain held f).1 =
      (entries held).filterMap fun e => if (f e.2).1 then some (e.1, (f e.2).2.1) else none
  seen_retain : ∀ {Seen : Type} held (f : Value → Bool × Value × Seen),
    (retain held f).2 = (entries held).map fun e => (f e.2).2.2

namespace OrderedMap
open Registry Subscription

/-- The map that is its list of entries. -/
def listed (Value : Type) : OrderedMap Value where
  Map := List (String × Value)
  empty := []
  entries es := es
  insert es key value :=
    (if key ∈ es.map Prod.fst then es.map fun e => if e.1 = key then (key, value) else e
      else es ++ [(key, value)], es.lookup key)
  remove es key := (es.filter fun e => e.1 != key, es.lookup key)
  visit es f := (es.map fun e => (e.1, (f e.2).1), es.map fun e => (f e.2).2)
  retain es f :=
    (es.filterMap fun e => if (f e.2).1 then some (e.1, (f e.2).2.1) else none,
      es.map fun e => (f e.2).2.2)
  entries_empty := rfl
  entries_insert _ _ _ := rfl
  former_insert _ _ _ := rfl
  entries_remove _ _ := rfl
  former_remove _ _ := rfl
  entries_visit _ _ := rfl
  seen_visit _ _ := rfl
  entries_retain _ _ := rfl
  seen_retain _ _ := rfl

/-! ## Calls -/

variable (m : OrderedMap Subscription)

/-- Renders a watcher, and says whether it was one and what it sends. -/
def renderWatcher (resource : String) (change : Change) (mail : String → Mailbox.Counts)
    (s : Subscription) : Subscription × Bool × Option Notify :=
  if s.resourceKey = resource then
    let (rendered, sent) := s.render change mail
    (rendered, true, sent)
  else (s, false, none)

/-- Whether the subscription stays, what becomes of it, and what it sends. -/
def judge (now : Int) (s : Subscription) : Bool × Subscription × Option Notify :=
  if s.isExpired now then (false, s.expire) else (true, s, none)

def call (held : m.Map) : Call → Reply m.Map
  | .upsert s =>
    let (stored, replaced) := m.insert held s.indexKey s
    ⟨stored, .former replaced, []⟩
  | .remove key =>
    let (rest, removed) := m.remove held key
    ⟨rest, .former removed, []⟩
  | .update resource change mail =>
    if resource.isEmpty then ⟨held, .count 0, []⟩
    else
      let (rendered, seen) := m.visit held (renderWatcher resource change mail)
      ⟨rendered, .count (seen.countP Prod.fst), seen.filterMap Prod.snd⟩
  | .flush =>
    let (flushed, seen) := m.visit held Subscription.flush
    ⟨flushed, .count (seen.countP Option.isSome), seen.reduceOption⟩
  | .sweep now =>
    let (rest, seen) := m.retain held (judge now)
    ⟨rest, .count ((m.entries held).length - (m.entries rest).length), seen.reduceOption⟩

/-! ## What the map shows -/

/-- The map holds the entries of the registry, in their order, each under its own key. -/
def Shows (held : m.Map) (r : Registry) : Prop :=
  m.entries held = r.entries.map fun s => (s.indexKey, s)

variable {m} {held : m.Map} {r : Registry}

theorem lookup_paired (es : List Subscription) (key : String) :
    (es.map fun s => (s.indexKey, s)).lookup key = es.find? fun s => s.indexKey == key := by
  induction es with
  | nil => rfl
  | cons e es ih =>
    rw [List.map_cons, List.lookup_cons, List.find?_cons, ih, Bool.beq_comm]

theorem Shows.lookup (h : m.Shows held r) (key : String) :
    (m.entries held).lookup key = r.get? key := by
  rw [h, lookup_paired]
  rfl

theorem Shows.keys (h : m.Shows held r) : (m.entries held).map Prod.fst = r.keys := by
  rw [h, List.map_map]
  rfl

theorem Shows.insert (h : m.Shows held r) (s : Subscription) :
    m.Shows (m.insert held s.indexKey s).1 (r.upsert s) := by
  have hmem := mem_keys_iff r s.indexKey
  rw [Shows, m.entries_insert, h.keys, h, Registry.upsert]
  cases hold : r.get? s.indexKey with
  | none =>
    rw [hold] at hmem
    rw [if_neg (by simp [hmem])]
    simp
  | some old =>
    rw [hold] at hmem
    rw [if_pos (by simp [hmem])]
    simp only [List.map_map]
    refine List.map_congr_left fun e _ => ?_
    simp only [Function.comp_apply]
    split <;> rfl

theorem Shows.remove (h : m.Shows held r) (key : String) :
    m.Shows (m.remove held key).1 (r.erase key) := by
  rw [Shows, m.entries_remove, h, erase, List.filter_map]
  rfl

/-- A step that changes no entry's key leaves each under its own. -/
theorem Shows.visit {Seen : Type} (h : m.Shows held r) (f : Subscription → Subscription × Seen)
    (step : Subscription → Subscription × Option Notify) (hf : ∀ s, (f s).1 = (step s).1)
    (hkey : ∀ s, (step s).1.indexKey = s.indexKey) :
    m.Shows (m.visit held f).1 (r.forEach step).1 := by
  rw [Shows, m.entries_visit, h, forEach, List.map_map, List.map_map]
  refine List.map_congr_left fun s _ => ?_
  simp only [Function.comp_apply, hf, hkey]

theorem Shows.seen_visit {Seen : Type} (h : m.Shows held r)
    (f : Subscription → Subscription × Seen) :
    (m.visit held f).2 = r.entries.map fun s => (f s).2 := by
  rw [m.seen_visit, h, List.map_map]
  rfl

theorem Shows.retain (h : m.Shows held r) (now : Int) :
    m.Shows (m.retain held (judge now)).1 (r.sweep now).1 := by
  rw [Shows, m.entries_retain, h, Registry.sweep, List.filterMap_map, ← filterMap_guarded]
  refine List.filterMap_congr fun s _ => ?_
  simp only [Function.comp_apply, judge]
  cases s.isExpired now <;> rfl

theorem Shows.seen_retain (h : m.Shows held r) (now : Int) :
    (m.retain held (judge now)).2.reduceOption = (r.sweep now).2 := by
  rw [m.seen_retain, h, List.map_map, List.reduceOption, List.filterMap_map, sweep_sent]
  refine List.filterMap_congr fun s _ => ?_
  simp only [Function.comp_apply, judge, checkExpiry]
  cases s.isExpired now <;> rfl

/-! ## What the map answers -/

/-- Both give the same answer to a call, send the same, and go on showing the same. -/
structure Agrees (m : OrderedMap Subscription) (held : m.Map) (r : Registry) (c : Call) :
    Prop where
  shows : m.Shows (m.call held c).state (r.call c).state
  answer : (m.call held c).answer = (r.call c).answer
  sent : (m.call held c).sent = (r.call c).sent

theorem update_unnamed (r : Registry) (resource : String) (hr : resource.isEmpty = true)
    (change : Change) (mail : String → Mailbox.Counts) :
    r.update resource change mail = (r, []) ∧ r.watchers resource = 0 := by
  have hnone : ∀ s, watches resource s = false := by simp [watches, hr]
  constructor
  · simp [update, forEach, hnone]
  · simp [watchers, hnone]

theorem renderWatcher_eq (resource : String) (hr : resource.isEmpty = false) (change : Change)
    (mail : String → Mailbox.Counts) (s : Subscription) :
    renderWatcher resource change mail s = ((refresh resource change mail s).1,
      watches resource s, (refresh resource change mail s).2) := by
  by_cases hs : s.resourceKey = resource
  · have hw : watches resource s = true := by simp [watches, hr, hs]
    simp [renderWatcher, refresh, hs, hw]
  · have hw : watches resource s = false := by simp [watches, hs]
    simp [renderWatcher, refresh, hs, hw]

theorem Shows.update (h : m.Shows held r) (resource : String) (change : Change)
    (mail : String → Mailbox.Counts) : m.Agrees held r (.update resource change mail) := by
  cases hr : resource.isEmpty with
  | true =>
    obtain ⟨hsame, hnone⟩ := update_unnamed r resource hr change mail
    constructor <;> simp [call, Registry.call, hr, hsame, hnone, h]
  | false =>
    have hwatch := renderWatcher_eq resource hr change mail
    have hkey := refresh_indexKey resource change mail
    have hseen := h.seen_visit (renderWatcher resource change mail)
    constructor
    · simp only [call, hr, Bool.false_eq_true, if_false]
      exact h.visit _ (refresh resource change mail) (fun s => by rw [hwatch]) hkey
    · simp only [call, hr, Bool.false_eq_true, if_false, hseen, hwatch, List.countP_map]
      rfl
    · simp only [call, hr, Bool.false_eq_true, if_false, hseen, hwatch, List.filterMap_map]
      rfl

theorem Shows.flush (h : m.Shows held r) : m.Agrees held r .flush := by
  have hseen := h.seen_visit Subscription.flush
  constructor
  · exact h.visit _ Subscription.flush (fun _ => rfl) flush_indexKey
  · simp only [call, Registry.call, hseen, Registry.flush, forEach, List.countP_map,
      List.length_filterMap_eq_countP]
    rfl
  · simp only [call, hseen, List.reduceOption, List.filterMap_map]
    rfl

theorem Shows.sweep (h : m.Shows held r) (now : Int) : m.Agrees held r (.sweep now) := by
  have hheld : (m.entries held).length = r.entries.length := by rw [h, List.length_map]
  have hkept : (m.entries (m.retain held (judge now)).1).length =
      (r.sweep now).1.entries.length := by rw [h.retain now, List.length_map]
  constructor
  · exact h.retain now
  · simp only [call, Registry.call, hheld, hkept]
  · exact h.seen_retain now

theorem Shows.call (h : m.Shows held r) (c : Call) : m.Agrees held r c := by
  cases c with
  | upsert s =>
    exact ⟨h.insert s, congrArg Answer.former ((m.former_insert _ _ _).trans (h.lookup _)), rfl⟩
  | remove key =>
    exact ⟨h.remove key, congrArg Answer.former ((m.former_remove _ _).trans (h.lookup _)), rfl⟩
  | update resource change mail => exact h.update resource change mail
  | flush => exact h.flush
  | sweep now => exact h.sweep now

theorem Shows.replay (h : m.Shows held r) (calls : List Call) :
    m.Shows (Registry.replay m.call held calls) (Registry.replay Registry.call r calls) := by
  induction calls generalizing held r with
  | nil => exact h
  | cons c calls ih => exact ih (h.call c).shows

end OrderedMap
end SipNotifier
