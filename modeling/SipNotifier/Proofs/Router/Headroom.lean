import SipNotifier.Proofs.Router.Soundness

/-! How much room a clock leaves. Of the three sums and differences that the router makes, the next
sweep is clamped and the time an entry has left always fits, so only the end of a lifetime can
overflow (`handle_eq_error_iff`). A policy that validates may still grant lifetimes of any length:
whether the router lasts until the end of the calendar is a matter of the longest one. -/
namespace SipNotifier.Router
set_option autoImplicit false

/-! ## Events and runs that overflow -/

/-- The event is a request for a resource that is granted a lifetime behind the greatest time. -/
def Overruns (policy : Policy) (x : Surroundings × Inbound) : Prop :=
  ∃ request p key t, x.2 = .subscribe request ∧
    Package.negotiate request.event request.accept = .ok p ∧
    Subscription.resourceOf? request.uri = some key ∧
    policy.granted request.expires = some t ∧ Seconds.greatest < x.1.now + t

theorem subscribe_overruns_iff (r : Router) (hv : r.policy.Valid) (w : Surroundings)
    (hlow : 0 ≤ w.now) (request : SubscribeRequest) (cause : Seconds.Overflow) :
    r.subscribe w request = .error cause ↔
      cause = .add ∧ Overruns r.policy (w, .subscribe request) := by
  have hlease := Subscription.lease_eq_error_iff r.policy hv w.now hlow request.expires cause
  simp only [subscribe_eq_error_iff, Subscription.ofRequest_eq_overflow_iff, hlease]
  constructor
  · rintro ⟨p, hp, ⟨key, hkey⟩, hcause, t, ht, hover⟩
    exact ⟨hcause, request, p, key, t, rfl, hp, hkey, ht, hover⟩
  · rintro ⟨hcause, _, p, key, t, hsame, hp, hkey, ht, hover⟩
    cases hsame
    exact ⟨p, hp, ⟨key, hkey⟩, hcause, t, ht, hover⟩

theorem handle_eq_error_iff (r : Router) (h : r.Sound) (hv : r.policy.Valid) (w : Surroundings)
    (hlow : 0 ≤ w.now) (hhigh : w.now ≤ Seconds.greatest) (event : Inbound)
    (cause : Seconds.Overflow) :
    r.handle w event = .error cause ↔ cause = .add ∧ Overruns r.policy (w, event) := by
  cases event with
  | subscribe request => exact subscribe_overruns_iff r hv w hlow request cause
  | diagnosticQuery =>
    obtain ⟨text, ht⟩ := listing_total r h w.now hlow hhigh
    simp [handle, ht, Except.map, Overruns]
  | mailboxUpdate user => simp [handle, Overruns]
  | callUpdate external channel call => simp [handle, Overruns]
  | channelUpdate id call => simp [handle, Overruns]
  | timerTick time => simp [handle, Overruns]

theorem run_eq_error_iff (policy : Policy) (hv : policy.Valid)
    (events : List (Surroundings × Inbound))
    (hw : ∀ x ∈ events, 0 ≤ x.1.now ∧ x.1.now ≤ Seconds.greatest) (r : Router)
    (hp : r.policy = policy) (h : r.Sound) (cause : Seconds.Overflow) :
    r.run events = .error cause ↔ cause = .add ∧ ∃ x ∈ events, Overruns policy x := by
  induction events generalizing r with
  | nil => simp [run]
  | cons x rest ih =>
    obtain ⟨w, event⟩ := x
    obtain ⟨hlow, hhigh⟩ := hw (w, event) List.mem_cons_self
    have hfails := handle_eq_error_iff r h (hp ▸ hv) w hlow hhigh event
    simp only [hp] at hfails
    cases hr : r.handle w event with
    | error first =>
      obtain ⟨rfl, hover⟩ := (hfails first).mp hr
      simp [run, hr, bind, Except.bind, hover, eq_comm]
    | ok reaction =>
      have hd := handled_of_handle r w event reaction hr
      have hrest := ih (fun y hy => hw y (List.mem_cons_of_mem _ hy)) reaction.router
        (hd.policy.trans hp) (hd.sound h)
      have hfirst : ¬ Overruns policy (w, event) := by
        intro hover
        have herror := (hfails .add).mpr ⟨rfl, hover⟩
        rw [hr] at herror
        cases herror
      simp only [List.mem_cons, exists_eq_or_imp, hfirst, false_or]
      rw [← hrest]
      simp only [run, hr, bind, Except.bind]
      cases reaction.router.run rest with
      | error later => simp
      | ok o => simp [pure, Except.pure]

/-! ## Until the end of the calendar -/

/-- The last second of the year 9999. -/
def lastSecond : Int := 253402300799

/-- A clock reading in the years 1970 to 9999. -/
def OnCalendar (now : Int) : Prop := 0 ≤ now ∧ now ≤ lastSecond

instance (now : Int) : Decidable (OnCalendar now) := inferInstanceAs (Decidable (_ ∧ _))

theorem OnCalendar.le_greatest {now : Int} (h : OnCalendar now) : now ≤ Seconds.greatest := by
  have hlast := h.2
  simp only [lastSecond, Seconds.greatest] at *
  omega

theorem not_overruns (policy : Policy) (hv : policy.Valid)
    (hroom : policy.maxExpires ≤ Seconds.greatest - lastSecond) (x : Surroundings × Inbound)
    (hw : OnCalendar x.1.now) : ¬ Overruns policy x := by
  rintro ⟨request, p, key, t, -, -, -, hgranted, hover⟩
  have hlong := (hv.granted _ t hgranted).2
  have hlast := hw.2
  omega

/-- A subscriber that asks for the longest lifetime. -/
def longest (policy : Policy) : SubscribeRequest :=
  sampleRequest .dialog "sip:100@pbx" "198.51.100.7" (some policy.maxExpires)

theorem longest_overruns (policy : Policy) (hv : policy.Valid) (w : Surroundings)
    (hover : Seconds.greatest < w.now + policy.maxExpires) :
    Overruns policy (w, .subscribe (longest policy)) := by
  have hgranted : policy.granted (some policy.maxExpires) = some policy.maxExpires := by
    have hmin := hv.min_pos
    have hmax := hv.min_le_max
    simp only [Policy.granted]
    rw [if_neg (by omega), if_pos (by omega), Option.some.injEq]
    omega
  have hkey : Subscription.resourceOf? "sip:100@pbx" = some "100" := by decide +kernel
  exact ⟨longest policy, .dialog, "100", policy.maxExpires, rfl, rfl, hkey, hgranted, hover⟩

section

variable (policy : Policy) (hv : policy.Valid)
include hv

theorem run_fails_iff (events : List (Surroundings × Inbound))
    (hw : ∀ x ∈ events, OnCalendar x.1.now) (cause : Seconds.Overflow) :
    (start policy).run events = .error cause ↔ cause = .add ∧ ∃ x ∈ events, Overruns policy x :=
  run_eq_error_iff policy hv events (fun x hx => ⟨(hw x hx).1, (hw x hx).le_greatest⟩)
    (start policy) rfl (Holds.start _ policy) cause

theorem run_keeps_room (events : List (Surroundings × Inbound))
    (hw : ∀ x ∈ events, OnCalendar x.1.now) (last : Router) (sent : List Notify)
    (hrun : (start policy).run events = .ok (last, sent)) :
    Seconds.Fits last.nextSweep ∧
      (∀ now, OnCalendar now → ∃ text, last.listing now = .ok text) ∧
      (events.length < 18446744073709551616 → last.Regular) := by
  obtain ⟨log, hlog, -⟩ := run_eq_ok _ _ _ _ hrun
  have hlast := journal_sustained_of_nonneg policy hv events (fun x hx => (hw x hx).1) last log hlog
  have hsound := journal_sound policy events last log hlog
  have hlow : Seconds.least ≤ last.nextSweep := Int.le_trans (by decide) hlast.due_nonneg
  exact ⟨⟨hlow, hlast.due_fits⟩,
    fun now hnow => listing_total last hsound now hnow.1 hnow.le_greatest, hlast.regular⟩

theorem run_ends_of_room (hroom : policy.maxExpires ≤ Seconds.greatest - lastSecond)
    (events : List (Surroundings × Inbound)) (hw : ∀ x ∈ events, OnCalendar x.1.now) :
    ∃ last sent, (start policy).run events = .ok (last, sent) := by
  cases hrun : (start policy).run events with
  | ok o => exact ⟨o.1, o.2, rfl⟩
  | error cause =>
    obtain ⟨-, x, hx, hover⟩ := (run_fails_iff policy hv events hw cause).mp hrun
    exact absurd hover (not_overruns policy hv hroom x (hw x hx))

/-- The request that asks for the longest lifetime may come in the last second. -/
theorem room_of_runs_end (hall : ∀ events : List (Surroundings × Inbound),
      (∀ x ∈ events, OnCalendar x.1.now) →
        ∃ last sent, (start policy).run events = .ok (last, sent)) :
    policy.maxExpires ≤ Seconds.greatest - lastSecond := by
  apply Decidable.byContradiction
  intro hroom
  let w : Surroundings := ⟨lastSecond, fun _ => {}⟩
  have hw : ∀ x ∈ [(w, Inbound.subscribe (longest policy))], OnCalendar x.1.now := by
    simp only [List.mem_singleton, forall_eq]
    exact ⟨by decide, Int.le_refl _⟩
  obtain ⟨last, sent, hrun⟩ := hall _ hw
  have hover := longest_overruns policy hv w (by simp only [w]; omega)
  have herror := (run_fails_iff policy hv _ hw .add).mpr ⟨rfl, _, List.mem_singleton_self _, hover⟩
  rw [hrun] at herror
  cases herror

end

/-- Under a policy that validates and until the end of the calendar, a run ends early exactly where
a request is granted a lifetime behind the greatest time, and in no other way. Every run comes to
its end exactly if the longest lifetime leaves room for the last second. -/
theorem run_headroom (policy : Policy) (hv : policy.validate = .ok ()) :
    (∀ events : List (Surroundings × Inbound), (∀ x ∈ events, OnCalendar x.1.now) →
      ((start policy).run events = .error .add ↔ ∃ x ∈ events, Overruns policy x) ∧
      (start policy).run events ≠ .error .subtract ∧
      ∀ last sent, (start policy).run events = .ok (last, sent) →
        Seconds.Fits last.nextSweep ∧
        (∀ now, OnCalendar now → ∃ text, last.listing now = .ok text) ∧
        (events.length < 18446744073709551616 → last.Regular)) ∧
    ((∀ events : List (Surroundings × Inbound), (∀ x ∈ events, OnCalendar x.1.now) →
        ∃ last sent, (start policy).run events = .ok (last, sent)) ↔
      policy.maxExpires ≤ Seconds.greatest - lastSecond) := by
  rw [Policy.validate_eq_ok_iff] at hv
  constructor
  · intro events hw
    have hfails := run_fails_iff policy hv events hw
    have hkeeps := run_keeps_room policy hv events hw
    exact ⟨by simp [hfails], by simp [hfails], hkeeps⟩
  · constructor
    · exact room_of_runs_end policy hv
    · exact run_ends_of_room policy hv

/-- The default policy leaves room, so no run under it ends early. -/
theorem run_headroom_default :
    ({} : Policy).validate = .ok () ∧
      ∀ events : List (Surroundings × Inbound), (∀ x ∈ events, OnCalendar x.1.now) →
        ∃ last sent, (start {}).run events = .ok (last, sent) :=
  ⟨rfl, (run_headroom {} rfl).2.mpr (by decide)⟩

/-- A policy may validate and grant lifetimes that no clock leaves room for: one request in the year
2023 is enough. -/
theorem longest_lifetime_overflows :
    let policy : Policy := { maxExpires := Seconds.greatest }
    policy.validate = .ok () ∧ OnCalendar 1700000000 ∧
      (start policy).run [(⟨1700000000, fun _ => {}⟩, .subscribe (longest policy))] =
        .error .add := by
  intro policy
  have hv : policy.Valid := (policy.validate_eq_ok_iff).mp rfl
  refine ⟨rfl, by decide, ?_⟩
  rw [run_eq_error_iff policy hv _ (by decide) _ rfl (Holds.start _ policy)]
  exact ⟨rfl, _, List.mem_singleton_self _, longest_overruns policy hv _ (by decide)⟩

end SipNotifier.Router
