import SipNotifier.Proofs.Router.Slot
import SipNotifier.Proofs.Router.Totality

/-! Throttled sweeps delay and change nothing else. Beside the router runs one that sweeps at every
tick. Between two sweeps the router trails: it still holds entries that the other has dropped, and
what the other has sent still waits. `Lags` allows both, as long as the dropped entries have ended
before the next sweep is due. Every tick that is ignored comes before that time and every sweep
after it, so a sweep drops what was dropped and sends what was sent, and the two meet again. -/
namespace SipNotifier
set_option autoImplicit false

/-! ## Waiting or not -/

namespace Subscription

theorem render_told (s : Subscription) (change : Change) (mail : String → Mailbox.Counts) :
    s.told.render change mail = s.render change mail := by
  obtain ⟨kind, key, host, port, uri, from_, to_, call, contact, state, last, body, pending⟩ := s
  rfl

theorem told_flush (s : Subscription) : s.flush.1.told = s.told := by
  obtain ⟨waits, hf⟩ := flush_fields s
  rw [hf]
  rfl

end Subscription

namespace Router
open Subscription

/-! ## The router that sweeps at every tick -/

/-- A tick that never comes too early. -/
def eagerTick (r : Router) (time : Int) : Reaction :=
  let next := Seconds.addClamped time r.policy.sweepInterval
  let (swept, sent) := { r with nextSweep := next }.sweep time
  ⟨swept, .ticked true, sent⟩

def eagerHandle (r : Router) (w : Surroundings) : Inbound → Except Seconds.Overflow Reaction
  | .timerTick time => .ok (r.eagerTick time)
  | event => r.handle w event

def eagerRun (r : Router) : List (Surroundings × Inbound) → Except Seconds.Overflow Router
  | [] => .ok r
  | (w, event) :: rest => do
    let reaction ← r.eagerHandle w event
    reaction.router.eagerRun rest

/-- The router with its sweep due, if the event is a tick. -/
def rouse (r : Router) : Inbound → Router
  | .timerTick time => { r with nextSweep := time }
  | _ => r

theorem eagerTick_eq (r : Router) (time : Int) :
    r.eagerTick time = (r.rouse (.timerTick time)).tick time := by
  simp [eagerTick, rouse, tick]

theorem eagerHandle_eq (r : Router) (w : Surroundings) (event : Inbound) :
    r.eagerHandle w event = (r.rouse event).handle w event := by
  cases event with
  | timerTick time => rw [eagerHandle, eagerTick_eq, handle]
  | _ => rfl

theorem rouse_policy (r : Router) (event : Inbound) : (r.rouse event).policy = r.policy := by
  cases event <;> rfl

theorem registry_rouse (r : Router) (event : Inbound) (p : Package) :
    (r.rouse event).registry p = r.registry p := by
  cases event <;> cases p <;> rfl

theorem slot_rouse (r : Router) (event : Inbound) (p : Package) (key : String) :
    (r.rouse event).slot p key = r.slot p key := by
  rw [slot, registry_rouse, slot]

theorem sound_rouse (r : Router) (event : Inbound) (h : r.Sound) : (r.rouse event).Sound := by
  constructor
  intro p
  rw [registry_rouse]
  exact h.registry p

theorem tick_of_due (r : Router) (time : Int) (h : r.nextSweep ≤ time) :
    r.tick time = r.eagerTick time := by
  rw [tick, if_neg (Int.not_lt.mpr h), eagerTick]

theorem slot_eagerTick (r : Router) (h : r.Sound) (time : Int) (p : Package) (key : String) :
    (r.eagerTick time).router.slot p key = (sweepSlot time (r.slot p key)).1 := by
  -- A tick takes nothing from its surroundings, so any will do.
  have hd := handled_of_tick (r.rouse (.timerTick time)) ⟨0, fun _ => {}⟩ time
  have hslot := hd.slot (sound_rouse r _ h) p key
  have hready : ¬ time < (r.rouse (.timerTick time)).nextSweep := Int.lt_irrefl time
  rw [slotStep, if_neg hready, slot_rouse] at hslot
  rw [eagerTick_eq]
  exact hslot

/-! ## Entries that trail -/

/-- What stands under a key here and in the router that sweeps at every tick. -/
inductive Lags (due : Int) : Option Subscription → Option Subscription → Prop
  | absent : Lags due none none
  | overdue (s : Subscription) (hend : s.expiresAt ≠ 0) (hdue : s.expiresAt < due) :
      Lags due (some s) none
  | held (s t : Subscription) (h : s.told = t.told) : Lags due (some s) (some t)

theorem Lags.refl (due : Int) (held : Option Subscription) : Lags due held held := by
  cases held with
  | none => exact .absent
  | some s => exact .held s s rfl

theorem touch_expiresAt (p : Package) (w : Surroundings) (event : Inbound) (s : Subscription) :
    (touch p w event s).1.expiresAt = s.expiresAt := by
  obtain ⟨kind, body, waits, ht⟩ := touch_fields p w event s
  rw [ht]

theorem touch_told (p : Package) (w : Surroundings) (event : Inbound) (s t : Subscription)
    (h : s.told = t.told) : (touch p w event s).1.told = (touch p w event t).1.told := by
  have hblind : ∀ u : Subscription,
      (touch p w event u.told).1.told = (touch p w event u).1.told := by
    intro u
    have hwatch : ∀ resource, Registry.watches resource u.told = Registry.watches resource u :=
      fun _ => rfl
    simp only [touch, Registry.refresh, hwatch, render_told]
    split
    · split
      · split <;> rfl
      · rfl
    · rfl
  rw [← hblind s, h, hblind t]

variable {due time : Int} {held ideal : Option Subscription}

theorem Lags.stir (h : Lags due held ideal) (p : Package) (w : Surroundings) (event : Inbound) :
    Lags due (stir (touch p w event) held).1 (stir (touch p w event) ideal).1 := by
  cases h with
  | absent => exact .absent
  | overdue s hend hdue =>
    have hlast := touch_expiresAt p w event s
    exact .overdue _ (by rw [hlast]; exact hend) (by rw [hlast]; exact hdue)
  | held s t h => exact .held _ _ (touch_told p w event s t h)

theorem Lags.ignored (h : Lags due held ideal) (ht : time < due) :
    Lags due held (sweepSlot time ideal).1 := by
  cases h with
  | absent => exact .absent
  | overdue s hend hdue => exact .overdue s hend hdue
  | held s t h =>
    have hlast := congrArg expiresAt h
    simp only [told] at hlast
    simp only [sweepSlot]
    split
    · next he =>
      rw [isExpired_iff, ← hlast] at he
      exact .overdue s he.1 (by omega)
    · exact .held s _ (by rw [told_flush, h])

theorem Lags.swept (h : Lags due held ideal) (ht : due ≤ time)
    (hb : ∀ s, held = some s → s.body ≠ "") :
    (sweepSlot time held).1 = (sweepSlot time ideal).1 := by
  cases h with
  | absent => rfl
  | overdue s hend hdue =>
    -- What ended before the sweep was due has ended when it comes.
    have he : s.isExpired time = true := (isExpired_iff s time).mpr ⟨hend, by omega⟩
    simp [sweepSlot, he]
  | held s t h =>
    have hbody := congrArg body h
    have hlast := congrArg expiresAt h
    simp only [told] at hbody hlast
    have hs := hb s rfl
    have hexpired : s.isExpired time = t.isExpired time := by rw [isExpired, isExpired, hlast]
    cases he : t.isExpired time with
    | true => simp [sweepSlot, hexpired, he]
    | false =>
      simp only [sweepSlot, hexpired, he]
      rw [flush_of_body s hs, flush_of_body t (hbody ▸ hs), h]
      rfl

theorem Lags.step (h : Lags due held ideal) (hb : ∀ s, held = some s → s.body ≠ "")
    (policy : Policy) (now : Int) (p : Package) (key : String) (w : Surroundings)
    (event : Inbound) (hnow : ∀ time, event = .timerTick time → now ≤ time) :
    Lags (dueAfter policy due event) (slotStep policy due p key w event held).1
      (slotStep policy now p key w event ideal).1 := by
  cases event with
  | subscribe request =>
    simp only [slotStep, dueAfter]
    split
    · split
      · exact Lags.refl _ _
      · exact h
    · exact h
  | timerTick time =>
    have hready : ¬ time < now := Int.not_lt.mpr (hnow time rfl)
    simp only [slotStep, dueAfter, if_neg hready]
    split
    · next ht => exact h.ignored ht
    · next ht =>
      -- They meet, so whatever is due next they are in step with it.
      rw [h.swept (by omega) hb]
      exact Lags.refl _ _
  | mailboxUpdate user => exact h.stir p w _
  | callUpdate external channel call => exact h.stir p w _
  | channelUpdate id call => exact h.stir p w _
  | diagnosticQuery => exact h.stir p w _

/-! ## Routers side by side -/

structure Trails (r q : Router) : Prop where
  policy : q.policy = r.policy
  sound : r.Sound
  ideal : q.Sound
  slots : ∀ p key, Lags r.nextSweep (r.slot p key) (q.slot p key)

variable {r q : Router}

theorem Trails.listing (h : Trails r q) (now : Int) (hr : ∃ text, r.listing now = .ok text) :
    ∃ text, q.listing now = .ok text := by
  rw [listing_ok_iff] at hr ⊢
  intro p s hs
  have hlags := h.slots p s.indexKey
  rw [slot_indexKey h.ideal p s hs] at hlags
  cases hr' : r.slot p s.indexKey with
  | none =>
    rw [hr'] at hlags
    cases hlags
  | some t =>
    rw [hr'] at hlags
    cases hlags with
    | held _ _ he =>
      have hlast := congrArg expiresAt he
      simp only [told] at hlast
      obtain ⟨left, hleft⟩ := hr p t (Registry.get?_mem _ _ t hr').1
      exact ⟨left, by rw [remaining, ← hlast]; exact hleft⟩

theorem Trails.step (h : Trails r q) (w : Surroundings) (event : Inbound) (a : Reaction)
    (ha : r.handle w event = .ok a) :
    ∃ b, q.eagerHandle w event = .ok b ∧ Trails a.router b.router := by
  have hpolicy : (q.rouse event).policy = r.policy := (rouse_policy q event).trans h.policy
  have hsub : ∀ request, event = .subscribe request →
      ∃ reaction, (q.rouse event).subscribe w request = .ok reaction := by
    rintro request rfl
    exact subscribe_total r _ hpolicy w request ⟨a, ha⟩
  have hlist : event = .diagnosticQuery → ∃ text, (q.rouse event).listing w.now = .ok text := by
    rintro rfl
    apply h.listing
    simp only [handle] at ha
    cases hl : r.listing w.now with
    | error cause => simp [hl, Except.map] at ha
    | ok text => exact ⟨text, rfl⟩
  obtain ⟨b, hb⟩ := handle_total (q.rouse event) w event hsub hlist
  have hda := handled_of_handle r w event a ha
  have hdb := handled_of_handle (q.rouse event) w event b hb
  have hideal := sound_rouse q event h.ideal
  refine ⟨b, (eagerHandle_eq q w event).trans hb, ?_, hda.sound h.sound, hdb.sound hideal, ?_⟩
  · rw [hdb.policy, hpolicy, hda.policy]
  · intro p key
    have hbody : ∀ s, r.slot p key = some s → s.body ≠ "" := fun s hs =>
      (h.sound.slot p key s hs).body
    have hready : ∀ time, event = .timerTick time → (q.rouse event).nextSweep ≤ time := by
      rintro time rfl
      exact Int.le_refl time
    rw [hda.slot h.sound, hdb.slot hideal, slot_rouse, hpolicy, hda.nextSweep]
    exact (h.slots p key).step hbody r.policy _ p key w event hready

theorem Trails.tick (h : Trails r q) (time : Int) :
    Trails (r.tick time).router (q.eagerTick time).router := by
  obtain ⟨b, hb, hnext⟩ := h.step ⟨0, fun _ => {}⟩ (.timerTick time) _ rfl
  cases hb
  exact hnext

theorem Trails.meet (h : Trails r q) (time : Int) (ht : r.nextSweep ≤ time) (p : Package)
    (key : String) : (r.tick time).router.slot p key = (q.eagerTick time).router.slot p key := by
  have hbody : ∀ s, r.slot p key = some s → s.body ≠ "" := fun s hs =>
    (h.sound.slot p key s hs).body
  rw [tick_of_due r time ht, slot_eagerTick r h.sound, slot_eagerTick q h.ideal]
  exact (h.slots p key).swept ht hbody

theorem eagerRun_trails (events : List (Surroundings × Inbound)) (last : Router) (log : Log)
    (h : Trails r q) (hlog : r.journal events = .ok (last, log)) :
    ∃ ideal, q.eagerRun events = .ok ideal ∧ Trails last ideal := by
  induction events generalizing r q log with
  | nil =>
    simp only [journal, Except.ok.injEq, Prod.mk.injEq] at hlog
    exact ⟨q, rfl, hlog.1 ▸ h⟩
  | cons x rest ih =>
    obtain ⟨w, event⟩ := x
    obtain ⟨a, later, ha, hlater, -⟩ := (journal_cons r w event rest last log).mp hlog
    obtain ⟨b, hb, hnext⟩ := h.step w event a ha
    obtain ⟨ideal, hideal, hlast⟩ := ih later hnext hlater
    exact ⟨ideal, by rw [eagerRun, hb]; exact hideal, hlast⟩

theorem start_trails (policy : Policy) : Trails (start policy) (start policy) :=
  ⟨rfl, Holds.start _ policy, Holds.start _ policy, fun _ _ => Lags.refl _ _⟩

/-! ## When a sweep is due -/

def sweptAt? : (Surroundings × Inbound) × Reaction → Option Int
  | ((_, .timerTick time), reaction) => if reaction.outcome = .ticked true then some time else none
  | _ => none

def lastSweep? (log : Log) : Option Int := (log.filterMap sweptAt?).getLast?

/-- When the next sweep is due after the last one. -/
def dueSince (policy : Policy) : Option Int → Int
  | none => 0
  | some time => min Seconds.greatest (time + policy.sweepInterval)

theorem lastSweep?_concat (log : Log) (x : (Surroundings × Inbound) × Reaction) :
    lastSweep? (log ++ [x]) = (sweptAt? x).or (lastSweep? log) := by
  rw [lastSweep?, List.filterMap_append, List.getLast?_append, lastSweep?]
  cases hx : sweptAt? x <;> simp [hx]

theorem Handled.sweptAt? {w : Surroundings} {event : Inbound} {reaction : Reaction}
    (hd : Handled r w event reaction) : sweptAt? ((w, event), reaction) =
      match event with
      | .timerTick time => if time < r.nextSweep then none else some time
      | _ => none := by
  cases hd with
  | enrolled request p s ha => rfl
  | turnedDown request outcome ha ho => rfl
  | updated event p key change hc =>
    cases event <;> simp only [change?, reduceCtorEq] at hc <;> rfl
  | swept time ht => simp [Router.sweptAt?, Int.not_lt.mpr ht]
  | ignored time ht => simp [Router.sweptAt?, ht]
  | listed text hl => rfl

theorem journal_due (policy : Policy) (hv : policy.Valid)
    (events : List (Surroundings × Inbound)) (last : Router) (log : Log)
    (h : (start policy).journal events = .ok (last, log)) :
    last.nextSweep = dueSince policy (lastSweep? log) := by
  have hpace := hv.sweep_pos
  have hkeeps := journal_keeps
    (fun log r => r.policy = policy ∧ 0 ≤ r.nextSweep ∧
      r.nextSweep = dueSince policy (lastSweep? log))
    (by
      intro log r w event reaction ⟨hp, hnonneg, hdue⟩ hd
      refine ⟨hd.policy.trans hp, ?_⟩
      rw [hd.nextSweep, lastSweep?_concat, hd.sweptAt?, hp]
      cases event with
      | timerTick time =>
        simp only [dueAfter]
        split
        · exact ⟨hnonneg, hdue⟩
        · simp only [Option.some_or, dueSince, Seconds.addClamped, Seconds.least,
            Seconds.greatest]
          omega
      | _ => exact ⟨hnonneg, hdue⟩)
    events [] log _ last ⟨rfl, Int.le_refl 0, rfl⟩ h
  exact hkeeps.2.2

/-- A tick is ignored exactly when it comes before the last sweep's time and the interval together.
After every other tick the router and the one that sweeps at every tick hold the same under every
key, so nothing is left that the other dropped at a tick that was ignored. -/
theorem throttled_sweep (policy : Policy) (hv : policy.validate = .ok ())
    (events : List (Surroundings × Inbound)) (real : Router) (sent : List Notify)
    (hrun : (start policy).run events = .ok (real, sent)) (time : Int) :
    ∃ log ideal, (start policy).journal events = .ok (real, log) ∧
      (start policy).eagerRun events = .ok ideal ∧
      (time < dueSince policy (lastSweep? log) → real.tick time = ⟨real, .ticked false, []⟩) ∧
      (dueSince policy (lastSweep? log) ≤ time → (real.tick time).outcome = .ticked true ∧
        ∀ p, (∀ key, ((real.tick time).router.registry p).get? key =
            ((ideal.eagerTick time).router.registry p).get? key) ∧
          ((real.tick time).router.registry p).entries.Perm
            ((ideal.eagerTick time).router.registry p).entries) := by
  rw [Policy.validate_eq_ok_iff] at hv
  obtain ⟨log, hlog, -⟩ := run_eq_ok _ _ _ _ hrun
  obtain ⟨ideal, hideal, htrails⟩ := eagerRun_trails events real log (start_trails policy) hlog
  refine ⟨log, ideal, hlog, hideal, ?_⟩
  rw [← journal_due policy hv events real log hlog]
  constructor
  · intro ht
    rw [tick, if_pos ht]
  · intro ht
    have hnot : ¬ time < real.nextSweep := Int.not_lt.mpr ht
    refine ⟨by rw [tick, if_neg hnot], ?_⟩
    intro p
    have hsame := htrails.meet time ht p
    have hnext := htrails.tick time
    exact ⟨hsame, Registry.perm_of_get? _ _ (hnext.sound.registry p).keys
      (hnext.ideal.registry p).keys hsame⟩

/-- A subscriber between a sweep and a tick that comes too early, and the latest tick there is. -/
theorem throttled_sweep_last_tick :
    let events : List (Surroundings × Inbound) :=
      [(⟨0, fun _ => {}⟩, .timerTick 0),
        (⟨1, fun _ => ⟨2, 1⟩⟩,
          .subscribe (sampleRequest .messageSummary "sip:100@pbx" "10.0.0.1" (some 60))),
        (⟨2, fun _ => {}⟩, .timerTick 10)]
    ∃ real sent ideal, (start {}).run events = .ok (real, sent) ∧
      (start {}).eagerRun events = .ok ideal ∧
      (real.tick Seconds.greatest).outcome = .ticked true ∧
      ∀ p key, ((real.tick Seconds.greatest).router.registry p).get? key =
        ((ideal.eagerTick Seconds.greatest).router.registry p).get? key := by
  intro events
  have hclock : ∀ x ∈ events, ({} : Policy).Admits x.1.now := by decide
  obtain ⟨real, sent, hrun⟩ := run_total {} rfl events hclock
  obtain ⟨log, ideal, -, hideal, -, hswept⟩ :=
    throttled_sweep {} rfl events real sent hrun Seconds.greatest
  have hdue : dueSince {} (lastSweep? log) ≤ Seconds.greatest := by
    cases lastSweep? log with
    | none => decide
    | some time => exact Int.min_le_left _ _
  obtain ⟨hticked, hsame⟩ := hswept hdue
  exact ⟨real, sent, ideal, hrun, hideal, hticked, fun p => (hsame p).1⟩

end Router
end SipNotifier
