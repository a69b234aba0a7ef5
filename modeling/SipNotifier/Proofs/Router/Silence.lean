import SipNotifier.Proofs.Router.Delivery
import SipNotifier.Proofs.Router.Totality

/-! What a subscriber hears once its subscription is over. A timeout drops the entry, and nothing
more is sent for its key. A request that ends the subscription leaves the entry where it is: it goes
on watching its resource, and an update makes it tell its end again. Nothing else does, and whatever
it tells is that end; `Hushed` is what the entry is like in between. -/
namespace SipNotifier
open Subscription
set_option autoImplicit false

/-- The NOTIFY says that the subscription is over. -/
def Notify.IsFinal (n : Notify) : Prop :=
  n.subscriptionState = "terminated" ∨
    ∃ reason, n.subscriptionState = "terminated;reason=" ++ reason

/-! ## Subscriptions that were ended -/

namespace Subscription

/-- A request has ended the subscription. -/
structure Over (s : Subscription) : Prop where
  state : s.state = .terminated none
  expiresAt : s.expiresAt = 0

theorem not_isFinal_of_active (n : Notify) (h : n.subscriptionState = "active") : ¬ n.IsFinal := by
  rintro (hn | ⟨reason, hn⟩)
  · rw [h] at hn
    exact absurd hn (by decide)
  · rw [h] at hn
    have hl := congrArg String.toList hn
    simp [String.toList_append] at hl

theorem over_of_isFinal (p : Package) (s : Subscription) (h : Stored p s)
    (hfinal : s.record.IsFinal) : s.Over := by
  rcases h.life with ha | ⟨hs, hl⟩
  · have hactive : s.record.subscriptionState = "active" := congrArg State.header ha
    exact absurd hfinal (not_isFinal_of_active _ hactive)
  · exact ⟨hs, hl⟩

theorem Over.told (s : Subscription) (h : s.Over) : s.record.subscriptionState = "terminated" :=
  congrArg State.header h.state

theorem Over.lasts (s : Subscription) (h : s.Over) (now : Int) : s.isExpired now = false := by
  simp [isExpired, h.expiresAt]

theorem expire_told (s : Subscription) (n : Notify) (hn : s.expire.2 = some n) :
    n.subscriptionState = "terminated;reason=timeout" := by
  obtain ⟨rfl, -, -⟩ := (send_delivers _).sent n hn
  obtain ⟨waits, ht⟩ := send_fields { s with expiresAt := 0, state := .timedOut, pending := true }
  rw [ht]
  rfl

/-- What is delivered without a change to state and end is the same end again. -/
theorem Over.delivers (s : Subscription) (h : s.Over) (o : Subscription × Option Notify)
    (d : Delivers s o) (ho : ∃ kind body waits,
      o.1 = { s with kind := kind, body := body, pending := waits }) :
    o.1.Over ∧ ∀ n ∈ o.2.toList, n.subscriptionState = "terminated" := by
  have hover : o.1.Over := by
    obtain ⟨kind, body, waits, he⟩ := ho
    rw [he]
    exact ⟨h.state, h.expiresAt⟩
  refine ⟨hover, ?_⟩
  intro n hn
  obtain ⟨rfl, -, -⟩ := d.sent n (Option.mem_toList.mp hn)
  exact hover.told

end Subscription

namespace Router

/-! ## One event -/

variable (policy : Policy) (due : Int) {p : Package} {key : String} {w : Surroundings}
  {event : Inbound}

/-- A NOTIFY that tells an end is all that its key hears of the event. It ends a lifetime that has
run out, and the entry is gone, or it is the record of the entry, which was ended before. -/
theorem slotStep_final (held : Option Subscription)
    (hnext : ∀ s, (slotStep policy due p key w event held).1 = some s → Stored p s) (n : Notify)
    (hn : n ∈ (slotStep policy due p key w event held).2) (hfinal : n.IsFinal) :
    (slotStep policy due p key w event held).2 = [n] ∧
      ((slotStep policy due p key w event held).1 = none ∧ n.subscriptionState ≠ "terminated" ∨
        ∃ s, (slotStep policy due p key w event held).1 = some s ∧ n = s.record ∧ s.Over ∧
          s.pending = false) := by
  by_cases hrep : ∃ t, Replaces policy p key w event t
  · obtain ⟨t, ht⟩ := hrep
    rw [slotStep_replaced _ _ _ _ _ _ t _ ht] at hnext hn ⊢
    obtain ⟨hsent, hpending⟩ := opened_told t w.mail
    rw [hsent, List.mem_singleton] at hn
    subst hn
    exact ⟨hsent, Or.inr ⟨_, rfl, rfl, over_of_isFinal p _ (hnext _ rfl) hfinal, hpending⟩⟩
  · simp only [not_exists] at hrep
    cases held with
    | none =>
      rw [slotStep_none _ _ _ _ _ _ hrep] at hn
      simp at hn
    | some s =>
      rcases slotStep_some policy due p key w event s hrep with ⟨o, ho, he⟩ | he
      · rw [he] at hnext hn ⊢
        rw [Option.mem_toList] at hn
        obtain ⟨hrecord, -, hpending⟩ := ho.sent n hn
        have hover := over_of_isFinal p o.1 (hnext _ rfl) (hrecord ▸ hfinal)
        exact ⟨by rw [hn]; rfl, Or.inr ⟨_, rfl, hrecord, hover, hpending⟩⟩
      · rw [he] at hn ⊢
        rw [Option.mem_toList] at hn
        exact ⟨by rw [hn]; rfl, Or.inl ⟨rfl, by rw [expire_told s n hn]; decide⟩⟩

theorem slotStep_over (s : Subscription) (h : s.Over)
    (hrep : ∀ t, ¬ Replaces policy p key w event t) :
    ∃ t, (slotStep policy due p key w event (some s)).1 = some t ∧ t.Over ∧
      ∀ m ∈ (slotStep policy due p key w event (some s)).2, m.subscriptionState = "terminated" := by
  have htouch := h.delivers s _ (touch_delivers p w event s) (touch_fields p w event s)
  have hidle := h.delivers s _ (Delivers.idle s) ⟨_, _, _, rfl⟩
  cases event with
  | subscribe request =>
    rw [slotStep_subscribe policy due p key w request (some s) hrep]
    exact ⟨s, rfl, hidle⟩
  | timerTick time =>
    simp only [slotStep, sweepSlot, h.lasts s time]
    split
    · exact ⟨s, rfl, hidle⟩
    · obtain ⟨waits, hf⟩ := flush_fields s
      exact ⟨_, rfl, h.delivers s _ (flush_delivers s) ⟨_, _, waits, hf⟩⟩
  | mailboxUpdate user => exact ⟨_, rfl, htouch⟩
  | callUpdate external channel call => exact ⟨_, rfl, htouch⟩
  | channelUpdate id call => exact ⟨_, rfl, htouch⟩
  | diagnosticQuery => exact ⟨_, rfl, htouch⟩

/-- The event is an update of the resource that the NOTIFY is about. -/
def Renews (n : Notify) (event : Inbound) : Prop :=
  ∃ p resource change, change? event = some (p, resource, change) ∧ n.event = p.name ∧
    resourceOf? n.entity = some resource

theorem slotStep_untouched (s : Subscription) (hs : Stored p s) (h : s.Over)
    (hp : s.pending = false) (hrep : ∀ t, ¬ Replaces policy p key w event t)
    (hrenew : ¬ Renews s.record event) :
    slotStep policy due p key w event (some s) = (some s, []) := by
  have hspared : ∀ q resource change, change? event = some (q, resource, change) →
      slotStep policy due p key w event (some s) = (some s, []) := by
    intro q resource change hc
    rw [slotStep_updated _ _ _ _ _ _ _ _ _ _ hc]
    refine stir_spared p q s.resourceKey resource change w event hc ?_ _ (by simp)
    rintro ⟨rfl, rfl⟩
    refine hrenew ⟨q, s.resourceKey, change, hc, ?_, ?_⟩
    · exact congrArg Package.name hs.package
    · rw [entity_record]
      exact hs.resource
  cases event with
  | subscribe request => exact slotStep_subscribe policy due p key w request (some s) hrep
  | timerTick time =>
    have hflush : s.flush = (s, none) := by rw [flush, hp, if_neg (by decide)]
    simp [slotStep, sweepSlot, h.lasts s time, hflush]
  | mailboxUpdate user => exact hspared _ _ _ rfl
  | callUpdate external channel call => exact hspared _ _ _ rfl
  | channelUpdate id call => exact hspared _ _ _ rfl
  | diagnosticQuery => exact slotStep_listed policy due p key w (some s)

/-! ## The time after an end -/

/-- What the key is left with after a NOTIFY that tells an end, and some events since: nothing, or
the entry that was ended. It has told all there is, unless one of the events has renewed it. -/
inductive Hushed (n : Notify) (seen : Log) : Option Subscription → Prop
  | gone (hn : n.subscriptionState ≠ "terminated") : Hushed n seen none
  | told (s : Subscription) (hn : n = s.record) (hs : s.Over) (hp : s.pending = false) :
      Hushed n seen (some s)
  | renewed (s : Subscription) (hn : n.subscriptionState = "terminated") (hs : s.Over)
      (hz : ∃ z ∈ seen, Renews n z.1.2) : Hushed n seen (some s)

/-- A further NOTIFY tells the same end, for one of the events that were seen. -/
structure Repeats (n : Notify) (seen : Log) (m : Notify) : Prop where
  first : n.subscriptionState = "terminated"
  again : m.subscriptionState = "terminated"
  cause : ∃ z ∈ seen, Renews n z.1.2

variable {n : Notify} {seen : Log} {held : Option Subscription}

theorem Hushed.step (h : Hushed n seen held) (hstored : ∀ s, held = some s → Stored p s)
    (hrep : ∀ t, ¬ Replaces policy p key w event t) (reaction : Reaction) :
    Hushed n (seen ++ [((w, event), reaction)]) (slotStep policy due p key w event held).1 ∧
      ∀ m ∈ (slotStep policy due p key w event held).2,
        Repeats n (seen ++ [((w, event), reaction)]) m := by
  cases h with
  | gone hn =>
    rw [slotStep_none _ _ _ _ _ _ hrep]
    exact ⟨.gone hn, by simp⟩
  | told s hn hs hp =>
    by_cases hrenew : Renews n event
    · have hfirst : n.subscriptionState = "terminated" := hn ▸ hs.told
      have hcause : ∃ z ∈ seen ++ [((w, event), reaction)], Renews n z.1.2 :=
        ⟨_, List.mem_append_right seen (List.mem_singleton_self _), hrenew⟩
      obtain ⟨t, ht, hover, hsent⟩ := slotStep_over policy due s hs hrep
      rw [ht]
      exact ⟨.renewed t hfirst hover hcause, fun m hm => ⟨hfirst, hsent m hm, hcause⟩⟩
    · rw [slotStep_untouched policy due s (hstored s rfl) hs hp hrep (hn ▸ hrenew)]
      exact ⟨.told s hn hs hp, by simp⟩
  | renewed s hn hs hz =>
    obtain ⟨z, hz, hrenew⟩ := hz
    have hcause : ∃ z ∈ seen ++ [((w, event), reaction)], Renews n z.1.2 :=
      ⟨z, List.mem_append_left _ hz, hrenew⟩
    obtain ⟨t, ht, hover, hsent⟩ := slotStep_over policy due s hs hrep
    rw [ht]
    exact ⟨.renewed t hn hover hcause, fun m hm => ⟨hn, hsent m hm, hcause⟩⟩

theorem Handled.hushed {r : Router} {reaction : Reaction} (hd : Handled r w event reaction)
    (h : r.Sound) (hkey : IsKeyOf p key) (hquiet : reaction.outcome.acceptedKey? ≠ some key)
    (hheld : Hushed n seen (r.slot p key)) :
    Hushed n (seen ++ [((w, event), reaction)]) (reaction.router.slot p key) ∧
      ∀ m ∈ reaction.sent, Notify.isFor key m = true →
        Repeats n (seen ++ [((w, event), reaction)]) m := by
  have hrep : ∀ t, ¬ Replaces r.policy p key w event t := fun t ht =>
    hquiet ((hd.acceptedKey? p key hkey).mpr ⟨t, ht⟩)
  obtain ⟨hnext, hsent⟩ := hheld.step r.policy r.nextSweep
    (fun s hs => h.slot p key s hs) hrep reaction
  rw [hd.slot h p key]
  refine ⟨hnext, ?_⟩
  intro m hm hfor
  have hheard := List.mem_filter.mpr ⟨hm, hfor⟩
  rw [hd.heard h p key hkey] at hheard
  exact hsent m hheard

theorem journal_hushed (r last : Router) (events : List (Surroundings × Inbound)) (log : Log)
    (h : r.journal events = .ok (last, log)) (hr : r.Sound) (hkey : IsKeyOf p key)
    (hquiet : ∀ z ∈ log, z.2.outcome.acceptedKey? ≠ some key)
    (hheld : Hushed n [] (r.slot p key)) : last.Sound ∧ Hushed n log (last.slot p key) := by
  have hkeeps := journal_keeps
    (fun seen r => (∀ z ∈ seen, z.2.outcome.acceptedKey? ≠ some key) →
      r.Sound ∧ Hushed n seen (r.slot p key))
    (by
      intro seen r w event reaction hseen hd hall
      obtain ⟨hsound, hbefore⟩ := hseen fun z hz => hall z (List.mem_append_left _ hz)
      have hnow := hall ((w, event), reaction) (by simp)
      exact ⟨hd.sound hsound, (hd.hushed hsound hkey hnow hbefore).1⟩)
    events [] log r last (fun _ => ⟨hr, hheld⟩) h
  rw [List.nil_append] at hkeeps
  exact hkeeps hquiet

/-- A key that hears an end hears nothing else of the event, and is then left hushed. -/
theorem Handled.final {r : Router} {reaction : Reaction} (hd : Handled r w event reaction)
    (h : r.Sound) (hkey : IsKeyOf p key) (hn : n ∈ reaction.sent)
    (hfor : Notify.isFor key n = true) (hfinal : n.IsFinal) :
    reaction.sent.filter (Notify.isFor key) = [n] ∧ Hushed n [] (reaction.router.slot p key) := by
  have hheard := List.mem_filter.mpr ⟨hn, hfor⟩
  have hstored := fun s => (hd.sound h).slot p key s
  rw [hd.heard h p key hkey] at hheard ⊢
  rw [hd.slot h p key] at hstored ⊢
  obtain ⟨honly, hleft⟩ := slotStep_final _ _ _ hstored n hheard hfinal
  refine ⟨honly, ?_⟩
  rcases hleft with ⟨hnone, hstate⟩ | ⟨s, hs, hrecord, hover, hp⟩
  · rw [hnone]
    exact .gone hstate
  · rw [hs]
    exact .told s hrecord hover hp

theorem isKeyOf_of_sent {r : Router} {reaction : Reaction} (hd : Handled r w event reaction)
    (n : Notify) (hn : n ∈ reaction.sent) (key : String) (hfor : Notify.isFor key n = true) :
    ∃ p, IsKeyOf p key := by
  obtain ⟨s, rfl, -⟩ := hd.record n hn
  simp only [Notify.isFor, Notify.key?, beq_iff_eq, Option.map_eq_some_iff] at hfor
  obtain ⟨resource, -, he⟩ := hfor
  exact ⟨s.package, resource, s.host, s.port, he.symm⟩

/-! ## Runs -/

/-- Where a key has heard that a subscription is over, it hears nothing else of that event. Until a
request is accepted for it, all that it hears later is the end that a request made, told again for an
update of the resource; after a timeout it hears nothing. -/
theorem silent_until_renewed (events : List (Surroundings × Inbound)) (last : Router)
    (sent : List Notify) (h : (start policy).run events = .ok (last, sent)) :
    ∃ log, (start policy).journal events = .ok (last, log) ∧ sent = log.sent ∧
      ∀ key before x after, log = before ++ x :: after →
        ∀ n ∈ x.2.sent, Notify.isFor key n = true → n.IsFinal →
          x.2.sent.filter (Notify.isFor key) = [n] ∧
          ∀ between y rest, after = between ++ y :: rest →
            (∀ z ∈ between ++ [y], z.2.outcome.acceptedKey? ≠ some key) →
            ∀ m ∈ y.2.sent, Notify.isFor key m = true → Repeats n (between ++ [y]) m := by
  obtain ⟨log, hlog, rfl⟩ := run_eq_ok _ _ _ _ h
  refine ⟨log, hlog, rfl, ?_⟩
  rintro key before x after rfl n hn hfor hfinal
  obtain ⟨r, hbefore, hd, hafter⟩ := journal_at _ _ _ _ _ _ hlog
  have hsound := journal_sound policy _ r before hbefore
  obtain ⟨p, hkey⟩ := isKeyOf_of_sent hd n hn key hfor
  obtain ⟨honly, hheld⟩ := hd.final hsound hkey hn hfor hfinal
  refine ⟨honly, ?_⟩
  rintro between y rest rfl hquiet m hm hmfor
  obtain ⟨q, hbetween, hdy, -⟩ := journal_at _ _ _ _ _ _ hafter
  have hearlier := fun z hz => hquiet z (List.mem_append_left _ hz)
  have hlast := hquiet y (List.mem_append_right _ (List.mem_singleton_self y))
  obtain ⟨hqsound, hqheld⟩ := journal_hushed _ q _ between hbetween (hd.sound hsound) hkey hearlier
    hheld
  exact (hdy.hushed hqsound hkey hlast hqheld).2 m hm hmfor

/-- A watcher whose time runs out, and a call after that. -/
theorem silent_until_renewed_timeout :
    let w : Surroundings := ⟨10, fun _ => {}⟩
    let key := keyOf .dialog "100" "10.0.0.1" 5060
    let events : List (Surroundings × Inbound) :=
      [(w, .subscribe (sampleRequest .dialog "sip:100@pbx" "10.0.0.1" (some 60))),
        (w, .timerTick 100), (w, .callUpdate "100" (some "c1") ⟨none, some "answered", none⟩)]
    ∃ last sent x y z, (start {}).run events = .ok (last, sent) ∧
      (start {}).journal events = .ok (last, [x, y, z]) ∧
      (∃ n ∈ y.2.sent, Notify.isFor key n = true ∧
        n.subscriptionState = "terminated;reason=timeout") ∧
      z.2.sent.filter (Notify.isFor key) = [] := by
  intro w key events
  obtain ⟨last, log, hrun, hlog, hseen⟩ := run_of_seen (start {}) events
    (fun _ log => log.map fun z =>
      (z.2.outcome.acceptedKey?, z.2.sent.map fun n => (n.key?, n.subscriptionState)))
    [(some key, [(some key, "active")]), (none, [(some key, "terminated;reason=timeout")]),
      (none, [])] (by decide +kernel)
  simp only [List.map_eq_cons_iff, List.map_eq_nil_iff, Prod.mk.injEq] at hseen
  obtain ⟨x, _, rfl, -, y, _, rfl, ⟨-, n, _, hy, ⟨hn, hend⟩, rfl⟩, z, _, rfl, ⟨hz, -⟩, rfl⟩ := hseen
  obtain ⟨_, hlog', -, hsilent⟩ := silent_until_renewed {} events last _ hrun
  obtain rfl := journal_log hlog hlog'
  have hmem : n ∈ y.2.sent := by simp [hy]
  have hfor : Notify.isFor key n = true := by simp [Notify.isFor, hn]
  refine ⟨last, _, x, y, z, hrun, hlog, ⟨n, hmem, hfor, hend⟩, ?_⟩
  rw [List.filter_eq_nil_iff]
  intro m hm hmfor
  have hrepeats := (hsilent key [x] y [z] rfl n hmem hfor (Or.inr ⟨"timeout", hend⟩)).2 [] z [] rfl
    (by simp [hz]) m hm hmfor
  exact absurd (hend.symm.trans hrepeats.first) (by decide)

/-- A watcher of a dialog that is ended by its own request hears of a call all the same. -/
theorem heard_again_once_over :
    let w : Surroundings := ⟨10, fun _ => {}⟩
    let key := keyOf .dialog "100" "10.0.0.1" 5060
    let events : List (Surroundings × Inbound) :=
      [(w, .subscribe (sampleRequest .dialog "sip:100@pbx" "10.0.0.1" (some 0))),
        (w, .callUpdate "100" (some "c1") ⟨none, some "answered", none⟩)]
    ∃ last x y, (start {}).journal events = .ok (last, [x, y]) ∧
      (∃ n ∈ x.2.sent, Notify.isFor key n = true ∧ n.IsFinal) ∧
      y.2.outcome.acceptedKey? ≠ some key ∧ ∃ m ∈ y.2.sent, Notify.isFor key m = true := by
  intro w key events
  obtain ⟨last, log, -, hlog, hseen⟩ := run_of_seen (start {}) events
    (fun _ log => log.map fun z =>
      (z.2.outcome.acceptedKey?, z.2.sent.map fun n => (n.key?, n.subscriptionState)))
    [(some key, [(some key, "terminated")]), (none, [(some key, "terminated")])]
    (by decide +kernel)
  simp only [List.map_eq_cons_iff, List.map_eq_nil_iff, Prod.mk.injEq] at hseen
  obtain ⟨x, _, rfl, ⟨-, n, _, hx, ⟨hn, hend⟩, rfl⟩, y, _, rfl, ⟨hy, m, _, hm, ⟨hmkey, -⟩, rfl⟩,
    rfl⟩ := hseen
  refine ⟨last, x, y, hlog, ⟨n, by simp [hx], by simp [Notify.isFor, hn], Or.inl hend⟩, ?_, m,
    by simp [hm], by simp [Notify.isFor, hmkey]⟩
  rw [hy]
  exact Option.some_ne_none key |>.symm

end Router
end SipNotifier
