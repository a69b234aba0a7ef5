import SipNotifier.Proofs.Registry.Listing
import SipNotifier.Proofs.Router.Steps

/-! Events that cannot go wrong. A policy that validates grants at least a second and at most its
longest lifetime, so a clock reading that leaves room for the longest one lets every request be
answered; and the time that an entry has left always fits, because no entry ends behind the greatest
time. Every run under such a policy and such a clock therefore has an end. -/
namespace SipNotifier
set_option autoImplicit false

/-! ## Lifetimes -/

namespace Policy

/-- A clock reading that leaves room for the longest lifetime. -/
structure Admits (policy : Policy) (now : Int) : Prop where
  nonneg : 0 ≤ now
  room : now ≤ Seconds.greatest - policy.maxExpires

variable {policy : Policy}

instance (now : Int) : Decidable (policy.Admits now) :=
  decidable_of_iff (0 ≤ now ∧ now ≤ Seconds.greatest - policy.maxExpires)
    ⟨fun h => ⟨h.1, h.2⟩, fun h => ⟨h.nonneg, h.room⟩⟩

theorem Valid.granted (h : policy.Valid) (requested : Option Int) (t : Int)
    (ht : policy.granted requested = some t) : 0 < t ∧ t ≤ policy.maxExpires := by
  obtain ⟨hmin, hmax, hlow, hhigh, -⟩ := h
  cases requested with
  | none =>
    simp only [Policy.granted, Option.some.injEq] at ht
    omega
  | some asked =>
    simp only [Policy.granted] at ht
    split at ht
    · simp at ht
    · split at ht <;> simp only [Option.some.injEq] at ht <;> omega

theorem Admits.le_greatest {now : Int} (hv : policy.Valid) (h : policy.Admits now) :
    now ≤ Seconds.greatest := by
  have hroom := h.room
  have hmin := hv.min_pos
  have hmax := hv.min_le_max
  omega

end Policy

namespace Subscription

theorem lease_eq_error_iff (policy : Policy) (hv : policy.Valid) (now : Int) (hlow : 0 ≤ now)
    (requested : Option Int) (cause : Seconds.Overflow) :
    lease (policy.granted requested) now = .error cause ↔
      cause = .add ∧ ∃ t, policy.granted requested = some t ∧ Seconds.greatest < now + t := by
  cases hg : policy.granted requested with
  | none => simp [lease]
  | some t =>
    have hpos := (hv.granted requested t hg).1
    have hfits : Seconds.Fits (now + t) ↔ ¬ Seconds.greatest < now + t := by
      simp only [Seconds.Fits, Seconds.least]
      omega
    simp only [lease, Seconds.add, hfits]
    by_cases hover : Seconds.greatest < now + t
    · simp [hover, Except.map, eq_comm]
    · simp [hover, Except.map]

theorem ofRequest_eq_overflow_iff (r : SubscribeRequest) (p : Package) (policy : Policy) (now : Int)
    (cause : Seconds.Overflow) :
    ofRequest r p policy now = .error (.overflow cause) ↔
      (∃ key, resourceOf? r.uri = some key) ∧
        lease (policy.granted r.expires) now = .error cause := by
  simp only [ofRequest]
  cases resourceOf? r.uri with
  | none => simp
  | some key =>
    cases lease (policy.granted r.expires) now with
    | error other => simp
    | ok life => simp

theorem ofRequest_no_overflow (r : SubscribeRequest) (p : Package) (policy : Policy)
    (hv : policy.Valid) (now : Int) (hw : policy.Admits now) (cause : Seconds.Overflow) :
    ofRequest r p policy now ≠ .error (.overflow cause) := by
  rw [Ne, ofRequest_eq_overflow_iff, lease_eq_error_iff policy hv now hw.nonneg]
  rintro ⟨-, -, t, hg, hover⟩
  have hlong := (hv.granted r.expires t hg).2
  have hroom := hw.room
  omega

theorem remaining_total (s : Subscription) (now : Int) (hs : s.expiresAt ≤ Seconds.greatest)
    (hlow : 0 ≤ now) (hhigh : now ≤ Seconds.greatest) : ∃ left, s.remaining now = .ok left := by
  rw [remaining_ok_iff]
  intro hpos
  simp only [Seconds.Fits, Seconds.least, Seconds.greatest] at hs hhigh ⊢
  omega

end Subscription

/-! ## Listings -/

namespace Router

theorem listing_ok_iff (r : Router) (now : Int) : (∃ text, r.listing now = .ok text) ↔
    ∀ p, ∀ s ∈ (r.registry p).entries, ∃ left, s.remaining now = .ok left := by
  have hboth : (∃ text, r.listing now = .ok text) ↔
      (∃ text, r.mailboxes.listing now = .ok text) ∧ ∃ text, r.dialogs.listing now = .ok text := by
    rw [listing]
    cases r.mailboxes.listing now with
    | error cause => simp [bind, Except.bind]
    | ok mailboxes =>
      cases r.dialogs.listing now with
      | error cause => simp [bind, Except.bind]
      | ok dialogs => simp [bind, Except.bind, pure, Except.pure]
  rw [hboth, Registry.listing_ok_iff, Registry.listing_ok_iff]
  constructor
  · rintro ⟨hm, hd⟩ (_ | _)
    · exact hm
    · exact hd
  · intro h
    exact ⟨h .messageSummary, h .dialog⟩

theorem listing_total (r : Router) (h : r.Sound) (now : Int) (hlow : 0 ≤ now)
    (hhigh : now ≤ Seconds.greatest) : ∃ text, r.listing now = .ok text :=
  (r.listing_ok_iff now).mpr fun p s hs =>
    s.remaining_total now ((h.registry p).entries s hs).fits hlow hhigh

/-! ## Events -/

/-- Only the end of a lifetime can overflow, which what the router holds has no say in. -/
theorem subscribe_eq_error_iff (r : Router) (w : Surroundings) (request : SubscribeRequest)
    (cause : Seconds.Overflow) :
    r.subscribe w request = .error cause ↔
      ∃ p, Package.negotiate request.event request.accept = .ok p ∧
        Subscription.ofRequest request p r.policy w.now = .error (.overflow cause) := by
  simp only [subscribe]
  cases Package.negotiate request.event request.accept with
  | error unsupported => simp
  | ok p =>
    cases ho : Subscription.ofRequest request p r.policy w.now with
    | ok s => simp [ho]
    | error fault => cases fault <;> simp [ho]

theorem subscribe_ok_iff (r : Router) (w : Surroundings) (request : SubscribeRequest) :
    (∃ reaction, r.subscribe w request = .ok reaction) ↔
      ∀ p cause, Package.negotiate request.event request.accept = .ok p →
        Subscription.ofRequest request p r.policy w.now ≠ .error (.overflow cause) := by
  have herror := r.subscribe_eq_error_iff w request
  cases hr : r.subscribe w request with
  | ok reaction =>
    refine iff_of_true ⟨reaction, rfl⟩ ?_
    intro p cause hp ho
    have hfails := (herror cause).mpr ⟨p, hp, ho⟩
    rw [hr] at hfails
    cases hfails
  | error cause =>
    obtain ⟨p, hp, ho⟩ := (herror cause).mp hr
    exact iff_of_false (by simp) fun hall => hall p cause hp ho

theorem subscribe_total (r q : Router) (hp : q.policy = r.policy) (w : Surroundings)
    (request : SubscribeRequest) (h : ∃ reaction, r.subscribe w request = .ok reaction) :
    ∃ reaction, q.subscribe w request = .ok reaction := by
  rw [subscribe_ok_iff] at h ⊢
  rw [hp]
  exact h

theorem subscribe_total_of_admits (r : Router) (hv : r.policy.Valid) (w : Surroundings)
    (hw : r.policy.Admits w.now) (request : SubscribeRequest) :
    ∃ reaction, r.subscribe w request = .ok reaction := by
  rw [subscribe_ok_iff]
  intro p cause _
  exact Subscription.ofRequest_no_overflow request p _ hv _ hw cause

/-- An event goes through if, being a request or a query, it is answered. -/
theorem handle_total (r : Router) (w : Surroundings) (event : Inbound)
    (hsub : ∀ request, event = .subscribe request →
      ∃ reaction, r.subscribe w request = .ok reaction)
    (hlist : event = .diagnosticQuery → ∃ text, r.listing w.now = .ok text) :
    ∃ reaction, r.handle w event = .ok reaction := by
  cases event with
  | subscribe request => exact hsub request rfl
  | mailboxUpdate user => exact ⟨_, rfl⟩
  | callUpdate external channel call => exact ⟨_, rfl⟩
  | channelUpdate id call => exact ⟨_, rfl⟩
  | timerTick time => exact ⟨_, rfl⟩
  | diagnosticQuery =>
    obtain ⟨text, ht⟩ := hlist rfl
    exact ⟨⟨r, .listed text, []⟩, by rw [handle, ht]; rfl⟩

theorem handle_total_of_admits (r : Router) (h : r.Sound) (hv : r.policy.Valid) (w : Surroundings)
    (hw : r.policy.Admits w.now) (event : Inbound) :
    ∃ reaction, r.handle w event = .ok reaction :=
  handle_total r w event (fun request _ => subscribe_total_of_admits r hv w hw request)
    fun _ => listing_total r h w.now hw.nonneg (hw.le_greatest hv)

/-! ## Runs -/

theorem journal_total (policy : Policy) (hv : policy.Valid)
    (events : List (Surroundings × Inbound)) (hw : ∀ x ∈ events, policy.Admits x.1.now)
    (r : Router) (hp : r.policy = policy) (h : r.Sound) :
    ∃ last log, r.journal events = .ok (last, log) := by
  induction events generalizing r with
  | nil => exact ⟨r, [], rfl⟩
  | cons x rest ih =>
    obtain ⟨w, event⟩ := x
    have hadmits : r.policy.Admits w.now := by
      rw [hp]
      exact hw (w, event) List.mem_cons_self
    obtain ⟨reaction, hr⟩ := handle_total_of_admits r h (by rw [hp]; exact hv) w hadmits event
    have hd := handled_of_handle r w event reaction hr
    obtain ⟨last, later, hl⟩ := ih (fun y hy => hw y (List.mem_cons_of_mem _ hy))
      reaction.router (hd.policy.trans hp) (hd.sound h)
    exact ⟨last, _, (journal_cons r w event rest last _).mpr ⟨reaction, later, hr, hl, rfl⟩⟩

theorem run_total (policy : Policy) (hv : policy.validate = .ok ())
    (events : List (Surroundings × Inbound)) (hw : ∀ x ∈ events, policy.Admits x.1.now) :
    ∃ last sent, (start policy).run events = .ok (last, sent) := by
  obtain ⟨last, log, hlog⟩ := journal_total policy ((policy.validate_eq_ok_iff).mp hv) events hw
    (start policy) rfl (Holds.start _ policy)
  exact ⟨last, log.sent, by rw [run_eq_journal, hlog]; rfl⟩

end Router
end SipNotifier
