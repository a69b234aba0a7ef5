import SipNotifier.Proofs.Router.Steps

/-! The router as one key sees it. What an event does to the entry under a key, and which NOTIFYs it
sends for that key, is settled by the event, the policy, the next sweep and that entry alone:
`slotStep` computes it, and `Handled.slot` and `Handled.heard` say that the router agrees. All that
other subscribers do is invisible from here. -/
namespace SipNotifier.Router
open Subscription
set_option autoImplicit false

/-- The entry under a key of the package. -/
def slot (r : Router) (p : Package) (key : String) : Option Subscription := (r.registry p).get? key

/-! ## One slot, one event -/

/-- Lets the entry take a step, if there is one. -/
def stir (step : Subscription → Subscription × Option Notify) :
    Option Subscription → Option Subscription × List Notify
  | none => (none, [])
  | some s => (some (step s).1, (step s).2.toList)

/-- An entry that is rendered for the event if it watches what changed. -/
def touch (p : Package) (w : Surroundings) (event : Inbound) (s : Subscription) :
    Subscription × Option Notify :=
  match change? event with
  | some (q, resource, change) =>
    if q = p then Registry.refresh resource change w.mail s else (s, none)
  | none => (s, none)

/-- An entry that is swept: it ends, or what waits goes out. -/
def sweepSlot (time : Int) : Option Subscription → Option Subscription × List Notify
  | none => (none, [])
  | some s =>
    if s.isExpired time then (none, s.expire.2.toList) else (some s.flush.1, s.flush.2.toList)

def slotStep (policy : Policy) (due : Int) (p : Package) (key : String) (w : Surroundings)
    (event : Inbound) (held : Option Subscription) : Option Subscription × List Notify :=
  match event with
  | .subscribe request =>
    match accepted? policy w.now request with
    | some (q, s) =>
      if q = p ∧ s.indexKey = key then (some (s.opened w.mail).1, (s.opened w.mail).2)
      else (held, [])
    | none => (held, [])
  | .timerTick time => if time < due then (held, []) else sweepSlot time held
  | _ => stir (touch p w event) held

theorem stir_idle (step : Subscription → Subscription × Option Notify)
    (h : ∀ s, step s = (s, none)) (held : Option Subscription) : stir step held = (held, []) := by
  cases held with
  | none => rfl
  | some s => simp [stir, h]

theorem slotStep_updated (policy : Policy) (due : Int) (p q : Package) (key resource : String)
    (w : Surroundings) (event : Inbound) (change : Change) (held : Option Subscription)
    (h : change? event = some (q, resource, change)) :
    slotStep policy due p key w event held = stir (touch p w event) held := by
  cases event <;> simp only [change?, reduceCtorEq] at h <;> rfl

theorem slotStep_listed (policy : Policy) (due : Int) (p : Package) (key : String)
    (w : Surroundings) (held : Option Subscription) :
    slotStep policy due p key w .diagnosticQuery held = (held, []) :=
  stir_idle _ (fun _ => rfl) held

/-- The event is a request that is accepted for the key. -/
def Replaces (policy : Policy) (p : Package) (key : String) (w : Surroundings)
    (event : Inbound) (s : Subscription) : Prop :=
  ∃ request, event = .subscribe request ∧ accepted? policy w.now request = some (p, s) ∧
    s.indexKey = key

theorem slotStep_replaced (policy : Policy) (due : Int) (p : Package) (key : String)
    (w : Surroundings) (event : Inbound) (s : Subscription) (held : Option Subscription)
    (h : Replaces policy p key w event s) : slotStep policy due p key w event held =
      (some (s.opened w.mail).1, (s.opened w.mail).2) := by
  obtain ⟨request, rfl, ha, hk⟩ := h
  simp [slotStep, ha, hk]

theorem slotStep_subscribe (policy : Policy) (due : Int) (p : Package) (key : String)
    (w : Surroundings) (request : SubscribeRequest) (held : Option Subscription)
    (h : ∀ s, ¬ Replaces policy p key w (.subscribe request) s) :
    slotStep policy due p key w (.subscribe request) held = (held, []) := by
  simp only [slotStep]
  split
  · next q s ha =>
    rw [if_neg]
    rintro ⟨rfl, hk⟩
    exact h s ⟨request, rfl, ha, hk⟩
  · rfl

theorem touch_delivers (p : Package) (w : Surroundings) (event : Inbound) (s : Subscription) :
    Delivers s (touch p w event s) := by
  simp only [touch]
  split
  · split
    · exact Registry.refresh_delivers _ _ w.mail s
    · exact Delivers.idle s
  · exact Delivers.idle s

theorem touch_fields (p : Package) (w : Surroundings) (event : Inbound) (s : Subscription) :
    ∃ kind body waits,
      (touch p w event s).1 = { s with kind := kind, body := body, pending := waits } := by
  have hrefresh : ∀ resource change, ∃ kind body waits,
      (Registry.refresh resource change w.mail s).1 =
        { s with kind := kind, body := body, pending := waits } := by
    intro resource change
    simp only [Registry.refresh]
    split
    · obtain ⟨body, waits, -, hr⟩ := render_fields s change w.mail
      exact ⟨_, body, waits, hr⟩
    · exact ⟨_, _, _, rfl⟩
  simp only [touch]
  split
  · split
    · exact hrefresh _ _
    · exact ⟨_, _, _, rfl⟩
  · exact ⟨_, _, _, rfl⟩

theorem stir_spared (p q : Package) (resource changed : String) (change : Change)
    (w : Surroundings) (event : Inbound) (hc : change? event = some (q, changed, change))
    (hother : ¬ (q = p ∧ changed = resource)) (held : Option Subscription)
    (hheld : ∀ s, held = some s → s.resourceKey = resource) :
    stir (touch p w event) held = (held, []) := by
  cases held with
  | none => rfl
  | some s =>
    by_cases hq : q = p
    · have hne : ¬ s.resourceKey = changed := by
        intro he
        exact hother ⟨hq, he.symm.trans (hheld s rfl)⟩
      have hw : Registry.watches changed s = false := by simp [Registry.watches, hne]
      simp [stir, touch, hc, Registry.refresh, hw]
    · simp [stir, touch, hc, hq]

theorem slotStep_none (policy : Policy) (due : Int) (p : Package) (key : String)
    (w : Surroundings) (event : Inbound) (h : ∀ s, ¬ Replaces policy p key w event s) :
    slotStep policy due p key w event none = (none, []) := by
  cases event with
  | subscribe request => exact slotStep_subscribe policy due p key w request none h
  | timerTick time => simp [slotStep, sweepSlot]
  | mailboxUpdate user => rfl
  | callUpdate external channel call => rfl
  | channelUpdate id call => rfl
  | diagnosticQuery => rfl

/-- Every other event lets the entry deliver, or ends it. -/
theorem slotStep_some (policy : Policy) (due : Int) (p : Package) (key : String)
    (w : Surroundings) (event : Inbound) (s : Subscription)
    (h : ∀ t, ¬ Replaces policy p key w event t) :
    (∃ o, Delivers s o ∧ slotStep policy due p key w event (some s) = (some o.1, o.2.toList)) ∨
      slotStep policy due p key w event (some s) = (none, s.expire.2.toList) := by
  cases event with
  | subscribe request =>
    rw [slotStep_subscribe policy due p key w request (some s) h]
    exact Or.inl ⟨_, Delivers.idle s, rfl⟩
  | timerTick time =>
    simp only [slotStep, sweepSlot]
    split
    · exact Or.inl ⟨_, Delivers.idle s, rfl⟩
    · split
      · exact Or.inr rfl
      · exact Or.inl ⟨_, flush_delivers s, rfl⟩
  | mailboxUpdate user => exact Or.inl ⟨_, touch_delivers p w _ s, rfl⟩
  | callUpdate external channel call => exact Or.inl ⟨_, touch_delivers p w _ s, rfl⟩
  | channelUpdate id call => exact Or.inl ⟨_, touch_delivers p w _ s, rfl⟩
  | diagnosticQuery => exact Or.inl ⟨_, touch_delivers p w _ s, rfl⟩

/-! ## The entry under the key -/

theorem slot_enroll (r : Router) (w : Surroundings) (p q : Package) (s : Subscription)
    (key : String) : (r.enroll w q s).router.slot p key =
      if q = p ∧ s.indexKey = key then some (s.opened w.mail).1 else r.slot p key := by
  have hkey := indexKey_of_identity _ _ (opened_identity s w.mail)
  simp only [slot, registry_enroll]
  by_cases hq : p = q
  · subst hq
    rw [if_pos rfl, Registry.get?_upsert, hkey]
    by_cases hk : s.indexKey = key
    · simp [hk]
    · simp [hk, Ne.symm hk]
  · simp [hq, Ne.symm hq]

theorem slot_update (r : Router) (w : Surroundings) (p q : Package) (event : Inbound)
    (resource : String) (change : Change) (key : String)
    (h : change? event = some (q, resource, change)) :
    (r.update w q resource change).router.slot p key =
      (stir (touch p w event) (r.slot p key)).1 := by
  have hkey := Registry.refresh_indexKey resource change w.mail
  simp only [slot, registry_update]
  by_cases hq : p = q
  · subst hq
    rw [if_pos rfl, Registry.update_eq_forEach, Registry.get?_forEach _ _ hkey]
    cases (r.registry p).get? key with
    | none => rfl
    | some s => simp [stir, touch, h]
  · rw [if_neg hq]
    have hidle : ∀ s, touch p w event s = (s, none) := by
      intro s
      simp [touch, h, Ne.symm hq]
    rw [stir_idle _ hidle]

theorem slot_sweep (r : Router) (h : r.Sound) (time : Int) (p : Package) (key : String) :
    (r.sweep time).1.slot p key = (sweepSlot time (r.slot p key)).1 := by
  simp only [slot, registry_sweep, Registry.flush]
  rw [Registry.get?_forEach _ _ flush_indexKey, Registry.get?_sweep _ (h.registry p).keys]
  cases (r.registry p).get? key with
  | none => rfl
  | some s =>
    cases he : s.isExpired time with
    | true => simp [sweepSlot, Option.filter, he]
    | false => simp [sweepSlot, Option.filter, he]

theorem Handled.slot {r : Router} {w : Surroundings} {event : Inbound} {reaction : Reaction}
    (hd : Handled r w event reaction) (h : r.Sound) (p : Package) (key : String) :
    reaction.router.slot p key =
      (slotStep r.policy r.nextSweep p key w event (r.slot p key)).1 := by
  cases hd with
  | enrolled request q s ha =>
    rw [slot_enroll]
    simp only [slotStep, ha]
    split <;> rfl
  | turnedDown request outcome ha ho => simp only [slotStep, ha]
  | updated event q resource change hc =>
    rw [slot_update r w p q event resource change key hc, slotStep_updated _ _ _ _ _ _ _ _ _ _ hc]
  | swept time ht =>
    simp only [slotStep, Int.not_lt.mpr ht, if_false]
    exact slot_sweep r h time p key
  | ignored time ht => simp only [slotStep, ht, if_true]
  | listed text hl => rw [slotStep_listed]

variable {P : Package → Subscription → Prop} {r : Router}

theorem slot_indexKey (h : r.Holds P) (p : Package) (s : Subscription)
    (hs : s ∈ (r.registry p).entries) : r.slot p s.indexKey = some s :=
  (Registry.get?_eq_some_iff _ (h.registry p).keys _ s).mpr ⟨hs, rfl⟩

theorem Holds.slot (h : r.Holds P) (p : Package) (key : String) (s : Subscription)
    (hs : r.slot p key = some s) : P p s :=
  (h.registry p).get? key s hs

theorem indexKey_of_slot (p : Package) (key : String) (s : Subscription)
    (hs : r.slot p key = some s) : s.indexKey = key :=
  (Registry.get?_mem _ key s hs).2

/-! ## What the key hears -/

theorem slot_other (r : Router) (h : r.Sound) (p q : Package) (key : String)
    (hkey : IsKeyOf p key) (hq : q ≠ p) : r.slot q key = none := by
  cases hs : r.slot q key with
  | none => rfl
  | some s =>
    have hp := hkey.package p key s (indexKey_of_slot q key s hs)
    exact absurd ((h.slot q key s hs).package.symm.trans hp) hq

theorem heard_enroll (r : Router) (w : Surroundings) (p q : Package) (s : Subscription)
    (key : String) (hkey : IsKeyOf p key) (hs : s.package = q)
    (hr : resourceOf? s.requestUri = some s.resourceKey) :
    (r.enroll w q s).sent.filter (Notify.isFor key) =
      if q = p ∧ s.indexKey = key then (s.opened w.mail).2 else [] := by
  have hown := key?_of_mem_opened s w.mail hr
  change (s.opened w.mail).2.filter (Notify.isFor key) = _
  split
  · next hk =>
    rw [List.filter_eq_self]
    intro n hn
    simp [Notify.isFor, hown n hn, hk.2]
  · next hk =>
    rw [List.filter_eq_nil_iff]
    intro n hn hfor
    simp only [Notify.isFor, hown n hn, beq_iff_eq, Option.some.injEq] at hfor
    exact hk ⟨hs.symm.trans (hkey.package p key s hfor), hfor⟩

theorem heard_forEach (r : Router) (h : r.Sound) (q : Package)
    (step : Subscription → Subscription × Option Notify) (hd : ∀ s, Delivers s (step s))
    (key : String) :
    ((r.registry q).forEach step).2.filter (Notify.isFor key) = (stir step (r.slot q key)).2 := by
  rw [Registry.forEach_heard _ _ (h.registry q).keys]
  · rw [slot]
    cases (r.registry q).get? key with
    | none => rfl
    | some s => rfl
  · intro s hs n hn
    exact (hd s).key? s _ ((h.registry q).entries s hs).resource n hn

theorem heard_update (r : Router) (h : r.Sound) (w : Surroundings) (p q : Package)
    (event : Inbound) (resource : String) (change : Change) (key : String)
    (hkey : IsKeyOf p key) (hc : change? event = some (q, resource, change)) :
    (r.update w q resource change).sent.filter (Notify.isFor key) =
      (stir (touch p w event) (r.slot p key)).2 := by
  have hdelivers := Registry.refresh_delivers resource change w.mail
  refine (heard_forEach r h q _ hdelivers key).trans ?_
  by_cases hq : q = p
  · subst hq
    cases r.slot q key with
    | none => rfl
    | some s => simp [stir, touch, hc]
  · have hidle : ∀ s, touch p w event s = (s, none) := by
      intro s
      simp [touch, hc, hq]
    rw [slot_other r h p q key hkey hq, stir_idle _ hidle]
    rfl

theorem heard_ended (r : Router) (h : r.Sound) (q : Package) (time : Int) (key : String) :
    ((r.registry q).sweep time).2.filter (Notify.isFor key) =
      (stir (fun s => s.checkExpiry time) (r.slot q key)).2 := by
  have hd : ∀ s : Subscription, Delivers s (s.checkExpiry time) := fun s =>
    apply_delivers s (.checkExpiry time)
  rw [Registry.sweep_sent]
  exact heard_forEach r h q _ hd key

theorem heard_flushed (r : Router) (h : r.Sound) (q : Package) (time : Int) (key : String) :
    ((r.registry q).sweep time).1.flush.2.filter (Notify.isFor key) =
      (stir Subscription.flush ((r.slot q key).filter fun s => !s.isExpired time)).2 := by
  have hswept := (h.registry q).sweep time
  rw [Registry.flush, Registry.forEach_heard _ _ hswept.keys]
  · rw [Registry.get?_sweep _ (h.registry q).keys, slot]
    cases ((r.registry q).get? key).filter fun s => !s.isExpired time with
    | none => rfl
    | some s => rfl
  · intro s hs n hn
    exact (flush_delivers s).key? s _ (hswept.entries s hs).resource n hn

theorem heard_sweep (r : Router) (h : r.Sound) (time : Int) (p : Package) (key : String)
    (hkey : IsKeyOf p key) :
    (r.sweep time).2.filter (Notify.isFor key) = (sweepSlot time (r.slot p key)).2 := by
  have hsplit : (r.sweep time).2 = ((r.registry .messageSummary).sweep time).2 ++
      ((r.registry .dialog).sweep time).2 ++ ((r.registry .messageSummary).sweep time).1.flush.2 ++
      ((r.registry .dialog).sweep time).1.flush.2 := rfl
  have hpart : (stir (fun s => s.checkExpiry time) (r.slot p key)).2 ++
      (stir Subscription.flush ((r.slot p key).filter fun s => !s.isExpired time)).2 =
        (sweepSlot time (r.slot p key)).2 := by
    cases r.slot p key with
    | none => rfl
    | some s =>
      cases he : s.isExpired time with
      | true => simp [stir, sweepSlot, checkExpiry, Option.filter, he]
      | false => simp [stir, sweepSlot, checkExpiry, Option.filter, he]
  rw [← hpart, hsplit]
  simp only [List.filter_append, heard_ended r h, heard_flushed r h]
  cases p with
  | messageSummary =>
    rw [slot_other r h .messageSummary .dialog key hkey (by decide)]
    simp [stir]
  | dialog =>
    rw [slot_other r h .dialog .messageSummary key hkey (by decide)]
    simp [stir]

theorem Handled.heard {r : Router} {w : Surroundings} {event : Inbound} {reaction : Reaction}
    (hd : Handled r w event reaction) (h : r.Sound) (p : Package) (key : String)
    (hkey : IsKeyOf p key) : reaction.sent.filter (Notify.isFor key) =
      (slotStep r.policy r.nextSweep p key w event (r.slot p key)).2 := by
  cases hd with
  | enrolled request q s ha =>
    have hs := ofRequest_of_accepted? _ _ _ _ _ ha
    rw [heard_enroll r w p q s key hkey (ofRequest_package _ _ _ _ _ hs)
      (ofRequest_resource _ _ _ _ _ hs)]
    simp only [slotStep, ha]
    split <;> rfl
  | turnedDown request outcome ha ho =>
    simp only [slotStep, ha]
    rfl
  | updated event q resource change hc =>
    rw [heard_update r h w p q event resource change key hkey hc,
      slotStep_updated _ _ _ _ _ _ _ _ _ _ hc]
  | swept time ht =>
    simp only [slotStep, Int.not_lt.mpr ht, if_false]
    exact heard_sweep r h time p key hkey
  | ignored time ht =>
    simp only [slotStep, ht, if_true]
    rfl
  | listed text hl =>
    rw [slotStep_listed]
    rfl

/-! ## Accepted requests -/

/-- The key that a request was accepted for. -/
def Outcome.acceptedKey? : Outcome → Option String
  | .accepted key _ => some key
  | _ => none

theorem Handled.acceptedKey? {r : Router} {w : Surroundings} {event : Inbound}
    {reaction : Reaction} (hd : Handled r w event reaction) (p : Package) (key : String)
    (hkey : IsKeyOf p key) : reaction.outcome.acceptedKey? = some key ↔
      ∃ s, Replaces r.policy p key w event s := by
  cases hd with
  | enrolled request q s ha =>
    have hk := indexKey_of_identity _ _ (opened_identity s w.mail)
    have hs := ofRequest_package _ _ _ _ _ (ofRequest_of_accepted? _ _ _ _ _ ha)
    change some (s.opened w.mail).1.indexKey = some key ↔ _
    rw [hk, Option.some.injEq]
    constructor
    · intro he
      have hq : q = p := hs.symm.trans (hkey.package p key s he)
      exact ⟨s, request, rfl, hq ▸ ha, he⟩
    · rintro ⟨t, other, he, ht, hkt⟩
      cases he
      rw [ha, Option.some.injEq, Prod.mk.injEq] at ht
      exact ht.2 ▸ hkt
  | turnedDown request outcome ha ho =>
    constructor
    · intro he
      cases outcome <;> simp only [Outcome.acceptedKey?, reduceCtorEq] at he
      exact absurd rfl (ho _ _)
    · rintro ⟨t, other, he, ht, -⟩
      cases he
      rw [ha] at ht
      cases ht
  | updated event q resource change hc =>
    cases event <;> simp only [change?, reduceCtorEq] at hc <;>
      simp [update, Outcome.acceptedKey?, Replaces]
  | swept time ht => simp [Outcome.acceptedKey?, Replaces]
  | ignored time ht => simp [Outcome.acceptedKey?, Replaces]
  | listed text hl => simp [Outcome.acceptedKey?, Replaces]

end SipNotifier.Router
