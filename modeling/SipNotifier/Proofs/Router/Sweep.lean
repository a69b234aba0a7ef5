import SipNotifier.Proofs.Registry.Sweep
import SipNotifier.Proofs.Router.Soundness

/-! What a tick does, entry by entry. A sweep of both registries tells the end of every entry that is
not live any more and then what waits with the live ones. That it tells one NOTIFY for each, no more
and no less, rests on every stored body being there to be sent (`Stored.body`). -/
namespace SipNotifier
open Subscription
set_option autoImplicit false

namespace Router

/-! ## The router -/

/-- Both registries as a sweep leaves them. -/
def swept (r : Router) (time next : Int) : Router :=
  { r with
    mailboxes := { r.mailboxes with entries := (r.mailboxes.kept time).map told }
    dialogs := { r.dialogs with entries := (r.dialogs.kept time).map told }
    nextSweep := next }

/-- What a sweep sends: the ends of both registries first, then what waits in them. -/
def sweepNotices (r : Router) (time : Int) : List Notify :=
  (r.mailboxes.dropped time).map farewell ++ (r.dialogs.dropped time).map farewell ++
    (Registry.waiting (r.mailboxes.kept time)).map record ++
    (Registry.waiting (r.dialogs.kept time)).map record

theorem tick_eq (r : Router) (h : r.Sound) (time : Int) (ht : r.nextSweep ≤ time) :
    r.tick time = ⟨r.swept time (Seconds.addClamped time r.policy.sweepInterval), .ticked true,
      r.sweepNotices time⟩ := by
  have hbodies : ∀ p, ∀ s ∈ (r.registry p).entries, s.body ≠ "" :=
    fun p s hs => ((h.registry p).entries s hs).body
  have hmailboxes := Registry.sweep_eq r.mailboxes time (hbodies .messageSummary)
  have hdialogs := Registry.sweep_eq r.dialogs time (hbodies .dialog)
  have hflushed := Registry.sweep_flush_eq r.mailboxes time (hbodies .messageSummary)
  have hflushed' := Registry.sweep_flush_eq r.dialogs time (hbodies .dialog)
  rw [tick, if_neg (Int.not_lt.mpr ht)]
  simp only [sweep, hflushed, hflushed']
  rw [hmailboxes, hdialogs]
  rfl

/-- A tick before the next sweep is due does nothing. Any other puts the next sweep off by the interval,
keeps the live entries as they are, with nothing left to send, and sends one NOTIFY for the end of each
other entry and one for each live entry that waited. -/
theorem tick_exact (policy : Policy) (hv : policy.validate = .ok ())
    (events : List (Surroundings × Inbound)) (hw : ∀ x ∈ events, 0 ≤ x.1.now) (r : Router)
    (sent : List Notify) (hrun : (start policy).run events = .ok (r, sent)) (w : Surroundings)
    (time : Int) :
    (time < r.nextSweep → r.handle w (.timerTick time) = .ok ⟨r, .ticked false, []⟩) ∧
      (r.nextSweep ≤ time → r.handle w (.timerTick time) =
        .ok ⟨r.swept time (min Seconds.greatest (time + policy.sweepInterval)), .ticked true,
          r.sweepNotices time⟩) := by
  rw [Policy.validate_eq_ok_iff] at hv
  obtain ⟨log, hlog, -⟩ := run_eq_ok _ _ _ _ hrun
  have hsound := journal_sound policy events r log hlog
  have hlast := journal_sustained_of_nonneg policy hv events hw r log hlog
  constructor
  · intro ht
    rw [handle, tick, if_pos ht]
  · intro ht
    have hnonneg := hlast.due_nonneg
    have hpace := hv.sweep_pos
    have hnext : Seconds.addClamped time policy.sweepInterval =
        min Seconds.greatest (time + policy.sweepInterval) := by
      simp only [Seconds.addClamped, Seconds.least, Seconds.greatest]
      omega
    rw [handle, tick_eq r hsound time ht, hlast.policy, hnext]

/-- A mailbox subscriber that has news to hear when its time is up, and a watcher that has some too. -/
theorem tick_exact_both :
    let events : List (Surroundings × Inbound) :=
      [(⟨10, fun _ => {}⟩,
          .subscribe (sampleRequest .messageSummary "sip:100@pbx" "10.0.0.1" (some 60))),
        (⟨20, fun _ => {}⟩, .subscribe (sampleRequest .dialog "sip:100@pbx" "10.0.0.1" none)),
        (⟨30, fun _ => ⟨2, 1⟩⟩, .mailboxUpdate "100"),
        (⟨40, fun _ => {}⟩, .channelUpdate "100" ⟨none, some "ringing", none⟩)]
    ∃ r sent reaction, (start {}).run events = .ok (r, sent) ∧
      r.handle ⟨80, fun _ => {}⟩ (.timerTick 80) = .ok reaction ∧
      reaction.outcome = .ticked true ∧ reaction.router.nextSweep = 95 ∧
      reaction.sent.map (fun n => (n.event, n.subscriptionState)) =
        [("message-summary", "terminated;reason=timeout"), ("dialog", "active")] := by
  intro events
  have hclock : ∀ x ∈ events, ({} : Policy).Admits x.1.now := by decide
  obtain ⟨r, log, hrun, -, hheld⟩ := run_of_seen (start {}) events
    (fun r _ => (r.nextSweep,
      (r.sweepNotices 80).map fun n => (n.event, n.subscriptionState)))
    (0, [("message-summary", "terminated;reason=timeout"), ("dialog", "active")])
    (by decide +kernel)
  obtain ⟨hnext, hnotices⟩ := Prod.mk.inj hheld
  obtain ⟨-, hdue⟩ := tick_exact {} rfl events (fun x hx => (hclock x hx).nonneg) r log.sent hrun
    ⟨80, fun _ => {}⟩ 80
  exact ⟨r, log.sent, _, hrun, hdue (by omega), rfl, rfl, hnotices⟩

end Router
end SipNotifier
