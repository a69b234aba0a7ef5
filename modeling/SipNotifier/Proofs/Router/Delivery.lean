import SipNotifier.Proofs.Router.Slot
import SipNotifier.Proofs.Router.Totality

/-! No update is lost between an entry and its subscriber. What the operations on one subscription
deliver carries over to every entry of a reachable router: no NOTIFY is empty, and an entry that
does not wait has told its present fields. `heardSince` is what a key heard since a request was last
accepted for it, so that nothing an earlier subscription sent counts for a later one. -/
namespace SipNotifier.Router
open Subscription
set_option autoImplicit false

/-! ## Records -/

theorem mem_forEach (r : Registry) (step : Subscription → Subscription × Option Notify)
    (hd : ∀ s, Delivers s (step s)) (n : Notify) (hn : n ∈ (r.forEach step).2) :
    ∃ s : Subscription, n = s.record ∧ s.body ≠ "" := by
  obtain ⟨s, -, hs⟩ := List.mem_filterMap.mp hn
  obtain ⟨hr, hb, -⟩ := (hd s).sent n hs
  exact ⟨_, hr, hb⟩

theorem mem_opened (s : Subscription) (mail : String → Mailbox.Counts) (n : Notify)
    (hn : n ∈ (s.opened mail).2) : ∃ t : Subscription, n = t.record ∧ t.body ≠ "" := by
  rw [opened_eq_perform] at hn
  obtain ⟨t, -, hr, hb⟩ := mem_perform _ s n hn
  exact ⟨t, hr, hb⟩

theorem mem_sweep (r : Router) (time : Int) (n : Notify) (hn : n ∈ (r.sweep time).2) :
    ∃ s : Subscription, n = s.record ∧ s.body ≠ "" := by
  have hended : ∀ q : Registry, n ∈ (q.sweep time).2 →
      ∃ s : Subscription, n = s.record ∧ s.body ≠ "" := by
    intro q hq
    rw [Registry.sweep_sent] at hq
    exact mem_forEach q _ (fun s => apply_delivers s (.checkExpiry time)) n hq
  have hflushed : ∀ q : Registry, n ∈ q.flush.2 →
      ∃ s : Subscription, n = s.record ∧ s.body ≠ "" := fun q hq =>
    mem_forEach q _ flush_delivers n hq
  simp only [sweep, List.mem_append] at hn
  rcases hn with ((hn | hn) | hn) | hn
  · exact hended _ hn
  · exact hended _ hn
  · exact hflushed _ hn
  · exact hflushed _ hn

/-- Whatever the router sends is the record of a subscription that has a body. -/
theorem Handled.record {r : Router} {w : Surroundings} {event : Inbound} {reaction : Reaction}
    (hd : Handled r w event reaction) (n : Notify) (hn : n ∈ reaction.sent) :
    ∃ s : Subscription, n = s.record ∧ s.body ≠ "" := by
  cases hd with
  | enrolled request p s ha => exact mem_opened s w.mail n hn
  | turnedDown request outcome ha ho => simp at hn
  | updated event p key change hc =>
    have hdelivers := Registry.refresh_delivers key change w.mail
    exact mem_forEach (r.registry p) _ hdelivers n hn
  | swept time ht => exact mem_sweep r time n hn
  | ignored time ht => simp at hn
  | listed text hl => simp at hn

theorem journal_bodies (policy : Policy) (events : List (Surroundings × Inbound)) (last : Router)
    (log : Log) (h : (start policy).journal events = .ok (last, log)) :
    ∀ n ∈ log.sent, n.body ≠ "" := by
  refine journal_keeps (fun log _ => ∀ n ∈ log.sent, n.body ≠ "") ?_ events [] log _ last
    (by simp [Log.sent]) h
  intro log r w event reaction hlog hd n hn
  simp only [Log.sent, List.flatMap_append, List.flatMap_cons, List.flatMap_nil, List.append_nil,
    List.mem_append] at hn
  rcases hn with hn | hn
  · exact hlog n hn
  · obtain ⟨s, rfl, hb⟩ := hd.record n hn
    exact hb

/-! ## What a key heard -/

/-- What was sent for a key since a request was last accepted for it. -/
def heardSince (key : String) (log : Log) : List Notify :=
  log.foldl (fun heard entry =>
    (if entry.2.outcome.acceptedKey? = some key then [] else heard) ++
      entry.2.sent.filter (Notify.isFor key)) []

theorem heardSince_concat (key : String) (log : Log) (x : Surroundings × Inbound)
    (reaction : Reaction) : heardSince key (log ++ [(x, reaction)]) =
      (if reaction.outcome.acceptedKey? = some key then [] else heardSince key log) ++
        reaction.sent.filter (Notify.isFor key) := by
  simp [heardSince, List.foldl_append]

/-- Every entry has told its present fields, or it waits. -/
structure Delivered (log : Log) (r : Router) : Prop where
  sound : r.Sound
  settled : ∀ p key s, IsKeyOf p key → r.slot p key = some s → Settled (heardSince key log) s

theorem Delivered.step (log : Log) (r : Router) (w : Surroundings) (event : Inbound)
    (reaction : Reaction) (h : Delivered log r) (hd : Handled r w event reaction) :
    Delivered (log ++ [((w, event), reaction)]) reaction.router := by
  refine ⟨hd.sound h.sound, ?_⟩
  intro p key s hkey hs
  rw [hd.slot h.sound p key] at hs
  rw [heardSince_concat, hd.heard h.sound p key hkey]
  by_cases hrep : ∃ t, Replaces r.policy p key w event t
  -- An accepted request starts anew: nothing that was heard before counts for the new entry.
  · rw [if_pos ((hd.acceptedKey? p key hkey).mpr hrep)]
    obtain ⟨t, ht⟩ := hrep
    rw [slotStep_replaced _ _ _ _ _ _ t _ ht] at hs ⊢
    obtain ⟨request, -, ha, -⟩ := ht
    have hwaits := ofRequest_pending _ _ _ _ _ (ofRequest_of_accepted? _ _ _ _ _ ha)
    simp only [Option.some.injEq] at hs
    subst hs
    rw [opened_eq_perform]
    exact perform_settled _ [] t (Settled.of_waiting [] t hwaits)
  · rw [if_neg (fun he => hrep ((hd.acceptedKey? p key hkey).mp he))]
    simp only [not_exists] at hrep
    cases hheld : r.slot p key with
    | none =>
      rw [hheld, slotStep_none _ _ _ _ _ _ hrep] at hs
      simp at hs
    | some held =>
      rw [hheld] at hs
      rcases slotStep_some r.policy r.nextSweep p key w event held hrep with ⟨o, ho, he⟩ | he
      · rw [he] at hs ⊢
        simp only [Option.some.injEq] at hs
        subst hs
        exact (h.settled p key held hkey hheld).step _ _ _ ho
      · rw [he] at hs
        simp at hs

theorem journal_delivered (policy : Policy) (events : List (Surroundings × Inbound))
    (last : Router) (log : Log) (h : (start policy).journal events = .ok (last, log)) :
    Delivered log last := by
  have hstart : Delivered [] (start policy) := by
    refine ⟨Holds.start _ policy, ?_⟩
    intro p key s hkey hs
    cases p <;> simp [slot, start, registry, Registry.get?] at hs
  exact journal_keeps Delivered Delivered.step events [] log _ last hstart h

/-- An entry that waits goes on waiting through every event by which its key hears nothing. -/
theorem Handled.waits {r : Router} {w : Surroundings} {event : Inbound} {reaction : Reaction}
    (hd : Handled r w event reaction) (h : r.Sound) (p : Package) (key : String)
    (hkey : IsKeyOf p key) (s t : Subscription) (hs : r.slot p key = some s)
    (hp : s.pending = true) (hquiet : reaction.sent.filter (Notify.isFor key) = [])
    (ht : reaction.router.slot p key = some t) : t.pending = true := by
  rw [hd.slot h p key, hs] at ht
  rw [hd.heard h p key hkey, hs] at hquiet
  by_cases hrep : ∃ u, Replaces r.policy p key w event u
  · obtain ⟨u, hu⟩ := hrep
    rw [slotStep_replaced _ _ _ _ _ _ u _ hu] at ht hquiet
    obtain ⟨request, -, ha, -⟩ := hu
    have hwaits := ofRequest_pending _ _ _ _ _ (ofRequest_of_accepted? _ _ _ _ _ ha)
    simp only [Option.some.injEq] at ht
    rw [opened_eq_perform] at ht hquiet
    exact ht ▸ perform_waits _ u hquiet hwaits
  · simp only [not_exists] at hrep
    rcases slotStep_some r.policy r.nextSweep p key w event s hrep with ⟨o, ho, he⟩ | he
    · rw [he] at ht hquiet
      simp only [Option.some.injEq, Option.toList_eq_nil_iff] at ht hquiet
      exact ht ▸ ho.waits s o hquiet hp
    · rw [he] at ht
      simp at ht

/-! ## No update is lost -/

/-- Of a single subscription, under any sequence of operations, and of every entry of every router
that a run of events reaches: no NOTIFY is empty; what does not wait was told in the last NOTIFY,
with all its present fields; and whatever sends nothing ends no waiting. -/
theorem no_update_is_lost :
    (∀ (request : SubscribeRequest) (p : Package) (policy : Policy) (now : Int)
      (s : Subscription), Subscription.ofRequest request p policy now = .ok s →
      ∀ ops : List Operation,
        (∀ n ∈ (s.perform ops).2, n.body ≠ "") ∧
        (s.perform ops).1.identity = s.identity ∧
        ((s.perform ops).1.pending = false →
          (s.perform ops).2.getLast? = some (s.perform ops).1.record) ∧
        ∀ op : Operation, (op.apply (s.perform ops).1).2 = none →
          (s.perform ops).1.pending = true → (op.apply (s.perform ops).1).1.pending = true) ∧
    ∀ (policy : Policy) (events : List (Surroundings × Inbound)) (last : Router)
      (sent : List Notify), (start policy).run events = .ok (last, sent) →
      ∃ log, (start policy).journal events = .ok (last, log) ∧ sent = log.sent ∧
        (∀ n ∈ sent, n.body ≠ "") ∧
        ∀ p, ∀ s ∈ (last.registry p).entries,
          (s.pending = false → (heardSince s.indexKey log).getLast? = some s.record) ∧
          ∀ w event reaction, last.handle w event = .ok reaction →
            reaction.sent.filter (Notify.isFor s.indexKey) = [] → s.pending = true →
            ∀ t ∈ (reaction.router.registry p).entries, t.indexKey = s.indexKey →
              t.pending = true := by
  constructor
  · intro request p policy now s hs ops
    have hwaits := ofRequest_pending request p policy now s hs
    have hfresh := Settled.of_waiting [] s hwaits
    refine ⟨?_, perform_identity ops s, perform_settled ops [] s hfresh, ?_⟩
    · intro n hn
      obtain ⟨t, -, rfl, hb⟩ := mem_perform ops s n hn
      exact hb
    · intro op hn hp
      exact (apply_delivers _ op).waits _ _ hn hp
  · intro policy events last sent h
    obtain ⟨log, hlog, rfl⟩ := run_eq_ok _ _ _ _ h
    have hdel := journal_delivered policy events last log hlog
    refine ⟨log, hlog, rfl, journal_bodies policy events last log hlog, ?_⟩
    intro p s hs
    have hkey : IsKeyOf p s.indexKey :=
      ((hdel.sound.registry p).entries s hs).package ▸ isKeyOf_indexKey s
    have hslot := slot_indexKey hdel.sound p s hs
    refine ⟨hdel.settled p _ s hkey hslot, ?_⟩
    intro w event reaction hr hquiet hp t ht htk
    have hd := handled_of_handle last w event reaction hr
    have htslot := slot_indexKey (hd.sound hdel.sound) p t ht
    rw [htk] at htslot
    exact hd.waits hdel.sound p _ hkey s t hslot hp hquiet htslot

/-- A subscriber of its own and in a router, where its mailbox changes before a sweep. It is sent the
counts before and after, and then it waits for nothing. -/
theorem no_update_is_lost_watcher :
    let request := sampleRequest .messageSummary "sip:100@pbx" "10.0.0.1" (some 300)
    let news : String → Mailbox.Counts := fun _ => ⟨2, 1⟩
    let events : List (Surroundings × Inbound) :=
      [(⟨10, fun _ => {}⟩, .subscribe request), (⟨11, news⟩, .mailboxUpdate "100"),
        (⟨20, news⟩, .timerTick 20)]
    (∃ s, Subscription.ofRequest request .messageSummary {} 10 = .ok s ∧
      (∀ ops : List Operation, (s.perform ops).1.pending = false →
        (s.perform ops).2.getLast? = some (s.perform ops).1.record) ∧
      (s.perform [.render .mailbox news, .flush]).1.pending = false ∧
      (s.perform [.render .mailbox news, .flush]).2.map (fun n => n.body) =
        ["Messages-Waiting: yes\r\nVoice-Message: 1/2\r\n"]) ∧
    ∃ last n m log s, (start {}).run events = .ok (last, [n, m]) ∧
      (start {}).journal events = .ok (last, log) ∧
      (∀ p, ∀ t ∈ (last.registry p).entries, t.pending = false →
        (heardSince t.indexKey log).getLast? = some t.record) ∧
      n.body = "Messages-Waiting: no\r\n" ∧
      m.body = "Messages-Waiting: yes\r\nVoice-Message: 1/2\r\n" ∧
      last.mailboxes.entries = [s] ∧ s.pending = false ∧ heardSince s.indexKey log = [n, m] ∧
      m = s.record := by
  intro request news events
  constructor
  · have hread : resourceOf? request.uri = some "100" := by decide +kernel
    obtain ⟨s, hs⟩ : ∃ s, Subscription.ofRequest request .messageSummary {} 10 = .ok s :=
      ⟨_, by rw [ofRequest, hread]; rfl⟩
    have hlast := fun ops => (no_update_is_lost.1 request .messageSummary {} 10 s hs ops).2.2.1
    have hdone : (Subscription.ofRequest request .messageSummary {} 10).toOption.map (fun s =>
        ((s.perform [.render .mailbox news, .flush]).1.pending,
          (s.perform [.render .mailbox news, .flush]).2.map fun n => n.body)) =
        some (false, ["Messages-Waiting: yes\r\nVoice-Message: 1/2\r\n"]) := by decide +kernel
    rw [hs] at hdone
    obtain ⟨hrests, hsent⟩ := Prod.mk.inj (Option.some.inj hdone)
    exact ⟨s, hs, hlast, hrests, hsent⟩
  · obtain ⟨last, log, hrun, hlog, hseen⟩ := run_of_seen (start {}) events
      (fun r log => (log.sent.map fun n => n.body, r.mailboxes.entries.map fun s =>
        (s.pending, decide (heardSince s.indexKey log = log.sent))))
      (["Messages-Waiting: no\r\n", "Messages-Waiting: yes\r\nVoice-Message: 1/2\r\n"],
        [(false, true)]) (by decide +kernel)
    simp only [List.map_eq_cons_iff, List.map_eq_nil_iff, Prod.mk.injEq] at hseen
    obtain ⟨⟨n, _, hsent, hn, m, _, rfl, hm, rfl⟩, s, _, hentries, ⟨hrests, hheard⟩, rfl⟩ := hseen
    rw [hsent] at hrun hheard
    have hheard := of_decide_eq_true hheard
    obtain ⟨_, hlog', -, -, htold⟩ := no_update_is_lost.2 {} events last _ hrun
    obtain rfl := journal_log hlog hlog'
    have hmem : s ∈ last.mailboxes.entries := by simp [hentries]
    have hrecord := (htold .messageSummary s hmem).1 hrests
    rw [hheard] at hrecord
    exact ⟨last, n, m, log, s, hrun, hlog, fun p t ht => (htold p t ht).1, hn, hm, hentries, hrests,
      hheard, Option.some.inj hrecord⟩

end SipNotifier.Router
