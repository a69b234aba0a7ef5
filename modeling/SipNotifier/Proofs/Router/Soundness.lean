import SipNotifier.Proofs.Router.Slot
import SipNotifier.Proofs.Router.Totality

/-! The states that a router reaches under a policy that validates. `Regular` is what every such
state is like; it is not kept by itself, because the versions only stay within a word for as long as
the run does. `Sustained` bounds them by the number of events so far, and is kept. -/
namespace SipNotifier.Router
open Subscription
set_option autoImplicit false

/-! ## Regular states -/

/-- What an entry of the package's registry is like. The version is that of the next document and
fits a word of 64 bits. -/
structure RegularEntry (p : Package) (s : Subscription) : Prop where
  package : s.package = p
  resource : IsResourceKey s.resourceKey
  body : s.body ≠ ""
  life : s.state = .active ∧ 0 < s.expiresAt ∨ s.state = .terminated none ∧ s.expiresAt = 0
  version : match p with
    | .messageSummary => s.kind.version? = none
    | .dialog => ∃ v, s.kind.version? = some v ∧ 1 ≤ v ∧ v < 18446744073709551616

structure Regular (r : Router) : Prop where
  once : ∀ p, (r.registry p).keys.Nodup
  found : ∀ p, ∀ s ∈ (r.registry p).entries, (r.registry p).get? s.indexKey = some s
  entries : ∀ p, ∀ s ∈ (r.registry p).entries, RegularEntry p s
  due : 0 ≤ r.nextSweep

/-! ## What is kept -/

/-- An entry as it is stored, with a version that no more than the events so far has raised. -/
structure Counted (count : Nat) (p : Package) (s : Subscription) : Prop where
  stored : Stored p s
  version : ∀ v, s.kind.version? = some v → v ≤ count

/-- What an entry is like after so many events under a policy that validates. -/
structure SustainedEntry (count : Nat) (p : Package) (s : Subscription) : Prop
    extends Counted count p s where
  life : s.state = .active ∧ 0 < s.expiresAt ∨ s.state = .terminated none ∧ s.expiresAt = 0

theorem version_next_le (kind : Kind) (count : Nat) (h : ∀ v, kind.version? = some v → v ≤ count)
    (v : Nat) (hv : kind.next.version? = some v) : v ≤ count + 1 := by
  cases kind with
  | mailbox => simp [Kind.next, Kind.version?] at hv
  | dialog version =>
    have hle := h version rfl
    simp only [Kind.next, Kind.version?, Option.some.injEq] at hv
    omega

variable {count : Nat} {p : Package} {s : Subscription}

theorem Counted.later (h : Counted count p s) : Counted (count + 1) p s :=
  ⟨h.stored, fun v hv => Nat.le_succ_of_le (h.version v hv)⟩

theorem Counted.render (h : Counted count p s) (change : Change) (mail : String → Mailbox.Counts) :
    Counted (count + 1) p (s.render change mail).1 := by
  have hstored := h.stored.render p s change mail
  obtain ⟨body, waits, -, hr⟩ := render_fields s change mail
  rw [hr] at hstored ⊢
  exact ⟨hstored, version_next_le s.kind count h.version⟩

theorem Counted.flush (h : Counted count p s) : Counted (count + 1) p s.flush.1 := by
  have hstored := h.stored.flush p s
  obtain ⟨waits, hf⟩ := flush_fields s
  rw [hf] at hstored ⊢
  exact ⟨hstored, h.later.version⟩

theorem Counted.opened (request : SubscribeRequest) (policy : Policy) (w : Surroundings)
    (h : ofRequest request p policy w.now = .ok s) :
    Counted (count + 1) p (s.opened w.mail).1 := by
  have hstored := Stored.opened request p policy w.now s w.mail h
  obtain ⟨key, state, last, -, -, hs⟩ := ofRequest_eq_ok request p policy w.now s h
  obtain ⟨body, waits, -, ho⟩ := opened_fields s w.mail
  have hkind : s.kind = .start p := by rw [hs]
  rw [ho] at hstored ⊢
  refine ⟨hstored, version_next_le s.kind count fun v hversion => ?_⟩
  rw [hkind] at hversion
  cases p with
  | messageSummary => simp [Kind.start, Kind.version?] at hversion
  | dialog =>
    simp only [Kind.start, Kind.version?, Option.some.injEq] at hversion
    omega

theorem journal_counted (policy : Policy) (events : List (Surroundings × Inbound)) (last : Router)
    (log : Log) (h : (start policy).journal events = .ok (last, log)) :
    last.Holds (Counted events.length) := by
  have hkeeps := journal_keeps (fun log r => r.Holds (Counted log.length))
    (by
      intro log r w event reaction hr hd
      rw [List.length_append]
      exact hd.keeps hr (fun _ _ hs => hs.later) (fun _ _ change hs => hs.render change w.mail)
        (fun _ _ hs => hs.flush) fun request p s hs => Counted.opened request r.policy w hs)
    events [] log _ last (Holds.start _ policy) h
  rw [List.nil_append] at hkeeps
  rwa [← journal_inputs _ _ _ _ h, List.length_map]

theorem SustainedEntry.later (h : SustainedEntry count p s) : SustainedEntry (count + 1) p s :=
  ⟨h.toCounted.later, h.life⟩

theorem SustainedEntry.render (h : SustainedEntry count p s) (change : Change)
    (mail : String → Mailbox.Counts) : SustainedEntry (count + 1) p (s.render change mail).1 := by
  refine ⟨h.toCounted.render change mail, ?_⟩
  obtain ⟨body, waits, -, hr⟩ := render_fields s change mail
  rw [hr]
  exact h.life

theorem SustainedEntry.flush (h : SustainedEntry count p s) :
    SustainedEntry (count + 1) p s.flush.1 := by
  refine ⟨h.toCounted.flush, ?_⟩
  obtain ⟨waits, hf⟩ := flush_fields s
  rw [hf]
  exact h.life

theorem SustainedEntry.opened (request : SubscribeRequest) (policy : Policy) (hv : policy.Valid)
    (w : Surroundings) (hw : 0 ≤ w.now)
    (h : ofRequest request p policy w.now = .ok s) :
    SustainedEntry (count + 1) p (s.opened w.mail).1 := by
  refine ⟨Counted.opened request policy w h, ?_⟩
  obtain ⟨key, state, last, -, hlease, hs⟩ := ofRequest_eq_ok request p policy w.now s h
  obtain ⟨body, waits, -, ho⟩ := opened_fields s w.mail
  rw [ho, hs]
  rcases lease_eq_ok _ _ _ _ hlease with ⟨-, hstate, hlast⟩ | ⟨t, hg, hstate, hlast, -⟩
  · exact Or.inr ⟨hstate, hlast⟩
  · have hpos := (hv.granted _ t hg).1
    exact Or.inl ⟨hstate, by simp only [hlast]; omega⟩

/-- What the router is like after so many events. -/
structure Sustained (policy : Policy) (count : Nat) (r : Router) : Prop where
  policy : r.policy = policy
  entries : r.Holds (SustainedEntry count)
  due_nonneg : 0 ≤ r.nextSweep
  due_fits : r.nextSweep ≤ Seconds.greatest

/-! ## The next sweep -/

theorem le_dueAfter (policy : Policy) (hv : policy.Valid) (due : Int)
    (hfits : due ≤ Seconds.greatest) (event : Inbound) : due ≤ dueAfter policy due event := by
  have hpace := hv.sweep_pos
  cases event with
  | timerTick time =>
    simp only [dueAfter]
    split
    · exact Int.le_refl due
    · simp only [Seconds.addClamped]
      omega
  | _ => exact Int.le_refl due

theorem dueAfter_le (policy : Policy) (due : Int) (hfits : due ≤ Seconds.greatest)
    (event : Inbound) : dueAfter policy due event ≤ Seconds.greatest := by
  cases event with
  | timerTick time =>
    simp only [dueAfter]
    split
    · exact hfits
    · exact (Seconds.addClamped_fits _ _).2
  | _ => exact hfits

/-! ## Steps and runs -/

theorem Sustained.step {policy : Policy} {r : Router} {w : Surroundings} {event : Inbound}
    {reaction : Reaction} (h : Sustained policy count r) (hv : policy.Valid)
    (hw : 0 ≤ w.now) (hd : Handled r w event reaction) :
    Sustained policy (count + 1) reaction.router := by
  have hdue := hd.nextSweep
  rw [h.policy] at hdue
  constructor
  · exact hd.policy.trans h.policy
  · refine hd.keeps h.entries (fun _ _ hs => hs.later)
      (fun _ _ change hs => hs.render change w.mail) (fun _ _ hs => hs.flush) ?_
    intro request p s hs
    rw [h.policy] at hs
    exact SustainedEntry.opened request policy hv w hw hs
  · rw [hdue]
    exact Int.le_trans h.due_nonneg (le_dueAfter policy hv _ h.due_fits event)
  · rw [hdue]
    exact dueAfter_le policy _ h.due_fits event

theorem journal_sustained_of_nonneg (policy : Policy) (hv : policy.Valid)
    (events : List (Surroundings × Inbound)) (hw : ∀ x ∈ events, 0 ≤ x.1.now)
    (last : Router) (log : Log) (h : (start policy).journal events = .ok (last, log)) :
    Sustained policy events.length last := by
  have hinputs := journal_inputs _ _ _ _ h
  have hstart : Sustained policy 0 (start policy) :=
    ⟨rfl, Holds.start _ policy, Int.le_refl 0, by simp [start, Seconds.greatest]⟩
  -- The clock readings are those in the log, so what a step needs of them is found there.
  have hkeeps := journal_keeps
    (fun log r => (∀ x ∈ log, 0 ≤ x.1.1.now) → Sustained policy log.length r)
    (by
      intro log r w event reaction hlog hd hall
      have hbefore := hlog fun x hx => hall x (List.mem_append_left _ hx)
      have hnow := hall ((w, event), reaction) (by simp)
      rw [List.length_append]
      exact hbefore.step hv hnow hd)
    events [] log _ last (fun _ => hstart) h
  rw [List.nil_append] at hkeeps
  rw [← hinputs, List.length_map]
  apply hkeeps
  intro x hx
  exact hw x.1 (hinputs ▸ List.mem_map_of_mem hx)

theorem journal_sustained (policy : Policy) (hv : policy.Valid)
    (events : List (Surroundings × Inbound)) (hw : ∀ x ∈ events, policy.Admits x.1.now)
    (last : Router) (log : Log) (h : (start policy).journal events = .ok (last, log)) :
    Sustained policy events.length last :=
  journal_sustained_of_nonneg policy hv events (fun x hx => (hw x hx).nonneg) last log h

theorem SustainedEntry.regular (h : SustainedEntry count p s) (hc : count < 18446744073709551616) :
    RegularEntry p s := by
  refine ⟨h.stored.package, h.stored.isResourceKey, h.stored.body, h.life, ?_⟩
  have hpackage := h.stored.package
  have hopened := h.stored.version
  have hbound := h.version
  cases hk : s.kind with
  | mailbox =>
    rw [package, hk] at hpackage
    subst hpackage
    rfl
  | dialog v =>
    rw [package, hk] at hpackage
    rw [hk] at hopened hbound
    subst hpackage
    have hle := hbound v rfl
    have hpos : v ≠ 0 := fun hv => hopened (by rw [hv])
    exact ⟨v, rfl, by omega, by omega⟩

theorem Sustained.regular {policy : Policy} {r : Router} (h : Sustained policy count r)
    (hc : count < 18446744073709551616) : r.Regular where
  once := fun p => (h.entries.registry p).keys
  found := fun p s hs => slot_indexKey h.entries p s hs
  entries := fun p s hs => ((h.entries.registry p).entries s hs).regular hc
  due := h.due_nonneg

/-- Every run under a policy that validates, with a clock that leaves room for the longest lifetime,
reaches a regular state. From there no event and no listing goes wrong, and the next sweep never
moves back. -/
theorem run_regular (policy : Policy) (hv : policy.validate = .ok ())
    (events : List (Surroundings × Inbound)) (hlen : events.length < 18446744073709551616)
    (hw : ∀ x ∈ events, policy.Admits x.1.now) :
    ∃ last sent, (start policy).run events = .ok (last, sent) ∧ last.Regular ∧
      ∀ w event, policy.Admits w.now →
        (∃ text, last.listing w.now = .ok text) ∧
        ∃ reaction, last.handle w event = .ok reaction ∧
          last.nextSweep ≤ reaction.router.nextSweep := by
  obtain ⟨last, sent, hrun⟩ := run_total policy hv events hw
  obtain ⟨log, hlog, -⟩ := run_eq_ok _ _ _ _ hrun
  rw [Policy.validate_eq_ok_iff] at hv
  have hlast := journal_sustained policy hv events hw last log hlog
  have hsound := journal_sound policy events last log hlog
  refine ⟨last, sent, hrun, hlast.regular hlen, ?_⟩
  intro w event hnow
  obtain ⟨reaction, hr⟩ := handle_total_of_admits last hsound (by rw [hlast.policy]; exact hv) w
    (by rw [hlast.policy]; exact hnow) event
  refine ⟨listing_total last hsound w.now hnow.nonneg (hnow.le_greatest hv), reaction, hr, ?_⟩
  rw [(handled_of_handle last w event reaction hr).nextSweep, hlast.policy]
  exact le_dueAfter policy hv _ hlast.due_fits event

/-- A subscriber, a late tick and a query, a second apart. -/
theorem run_regular_three :
    let events : List (Surroundings × Inbound) :=
      [(⟨1000, fun _ => {}⟩,
          .subscribe (sampleRequest .dialog "sip:100@pbx" "10.0.0.1" (some 300))),
        (⟨1001, fun _ => {}⟩, .timerTick 1001), (⟨1002, fun _ => {}⟩, .diagnosticQuery)]
    ({} : Policy).validate = .ok () ∧ events.length < 18446744073709551616 ∧
      (∀ x ∈ events, ({} : Policy).Admits x.1.now) ∧
      ∃ last sent, (start {}).run events = .ok (last, sent) ∧ last.Regular := by
  intro events
  have hw : ∀ x ∈ events, ({} : Policy).Admits x.1.now := by decide
  obtain ⟨last, sent, hrun, hregular, -⟩ := run_regular {} rfl events (by decide) hw
  exact ⟨rfl, by decide, hw, last, sent, hrun, hregular⟩

end SipNotifier.Router
