import SipNotifier.Proofs.Router.Slot
import SipNotifier.Proofs.Router.Totality

/-! Subscribers do not interfere. All of them share two registries, one sweep and one output, but
what a subscriber's entry becomes and hears is settled by the events that concern it. A run from
which any other events are left out goes on beside the full run: both keep the same entry under the
key, the same next sweep and the same policy (`Alike`), and send the same for the key. -/
namespace SipNotifier.Router
open Subscription
set_option autoImplicit false

/-! ## The events that concern a subscriber -/

/-- The event is a request that is accepted with the key, by this router as by any other with the
policy (`accepts_iff`). -/
def Accepts (policy : Policy) (key : String) (w : Surroundings) (event : Inbound) : Prop :=
  ∃ reaction, (start policy).handle w event = .ok reaction ∧
    reaction.outcome.acceptedKey? = some key

def Concerns (policy : Policy) (p : Package) (resource key : String)
    (x : Surroundings × Inbound) : Prop :=
  match x.2 with
  | .subscribe request => Accepts policy key x.1 (.subscribe request)
  | .mailboxUpdate user => p = .messageSummary ∧ user = resource
  | .callUpdate external _ _ => p = .dialog ∧ external = resource
  | .channelUpdate id _ => p = .dialog ∧ id = resource
  | .timerTick _ => True
  | .diagnosticQuery => False

theorem handle_of_replaces (r : Router) (p : Package) (key : String) (w : Surroundings)
    (event : Inbound) (s : Subscription) (h : Replaces r.policy p key w event s) :
    r.handle w event = .ok (r.enroll w p s) := by
  obtain ⟨request, rfl, ha, -⟩ := h
  simp only [accepted?] at ha
  split at ha
  · simp at ha
  · next q hn =>
    split at ha
    · simp at ha
    · next t ht =>
      simp only [Option.some.injEq, Prod.mk.injEq] at ha
      obtain ⟨rfl, rfl⟩ := ha
      simp [handle, subscribe, hn, ht]

theorem accepts_iff (policy : Policy) (p : Package) (key : String) (hkey : IsKeyOf p key)
    (w : Surroundings) (event : Inbound) :
    Accepts policy key w event ↔ ∃ s, Replaces policy p key w event s := by
  constructor
  · rintro ⟨reaction, hr, hk⟩
    exact ((handled_of_handle _ w event reaction hr).acceptedKey? p key hkey).mp hk
  · rintro ⟨s, hs⟩
    have hr := handle_of_replaces (start policy) p key w event s hs
    exact ⟨_, hr, ((handled_of_handle _ w event _ hr).acceptedKey? p key hkey).mpr ⟨s, hs⟩⟩

theorem not_accepts_of_resource (policy : Policy) (p : Package) (resource other host : String)
    (port : UInt16) (hresource : ':' ∉ resource.toList) (w : Surroundings)
    (request : SubscribeRequest) (h : resourceOf? request.uri = some other)
    (hne : other ≠ resource) :
    ¬ Accepts policy (keyOf p resource host port) w (.subscribe request) := by
  intro hacc
  obtain ⟨s, asked, hask, ha, hk⟩ := (accepts_iff policy p _ ⟨_, _, _, rfl⟩ w _).mp hacc
  cases hask
  obtain ⟨key, state, last, hkey, -, rfl⟩ :=
    ofRequest_eq_ok _ _ _ _ _ (ofRequest_of_accepted? _ _ _ _ _ ha)
  have hcolon := (isResourceKey_of_resourceOf? _ _ hkey).no_colon
  have hsame : key = resource := keyOf_resource _ _ _ _ _ _ _ _ hcolon hresource hk
  rw [h, Option.some.injEq] at hkey
  exact hne (hkey.trans hsame)

/-- An entry does not see what does not concern it. -/
theorem slotStep_spared (policy : Policy) (due : Int) (p : Package) (resource key : String)
    (hkey : IsKeyOf p key) (w : Surroundings) (event : Inbound)
    (h : ¬ Concerns policy p resource key (w, event)) (held : Option Subscription)
    (hheld : ∀ s, held = some s → s.resourceKey = resource) :
    slotStep policy due p key w event held = (held, []) := by
  have htouch : ∀ q changed change, change? event = some (q, changed, change) →
      ¬ (q = p ∧ changed = resource) →
      slotStep policy due p key w event held = (held, []) := by
    intro q changed change hc hother
    rw [slotStep_updated _ _ _ _ _ _ _ _ _ _ hc]
    exact stir_spared p q resource changed change w event hc hother held hheld
  cases event with
  | subscribe request =>
    apply slotStep_subscribe
    intro s hs
    exact h ((accepts_iff policy p key hkey w _).mpr ⟨s, hs⟩)
  | mailboxUpdate user =>
    exact htouch _ _ _ rfl fun hc => h ⟨hc.1.symm, hc.2⟩
  | callUpdate external channel call =>
    exact htouch _ _ _ rfl fun hc => h ⟨hc.1.symm, hc.2⟩
  | channelUpdate id call => exact htouch _ _ _ rfl fun hc => h ⟨hc.1.symm, hc.2⟩
  | timerTick time => exact absurd trivial h
  | diagnosticQuery => exact slotStep_listed policy due p key w held

theorem dueAfter_spared (policy : Policy) (due : Int) (p : Package) (resource key : String)
    (w : Surroundings) (event : Inbound) (h : ¬ Concerns policy p resource key (w, event)) :
    dueAfter policy due event = due := by
  cases event with
  | timerTick time => exact absurd trivial h
  | _ => rfl

theorem resource_of_slot (r : Router) (h : r.Sound) (p : Package) (resource host : String)
    (port : UInt16) (hr : ':' ∉ resource.toList) (s : Subscription)
    (hs : r.slot p (keyOf p resource host port) = some s) : s.resourceKey = resource := by
  have hcolon := (h.slot p _ s hs).isResourceKey.no_colon
  exact keyOf_resource _ _ _ _ _ _ _ _ hcolon hr (indexKey_of_slot p _ s hs)

/-! ## Two runs side by side -/

/-- A run and the same run with some events left out, each of them one that may be spared. -/
inductive Thinned (spare : Surroundings × Inbound → Prop) :
    List (Surroundings × Inbound) → List (Surroundings × Inbound) → Prop
  | nil : Thinned spare [] []
  | kept (x : Surroundings × Inbound) (full thin : List (Surroundings × Inbound))
      (h : Thinned spare full thin) : Thinned spare (x :: full) (x :: thin)
  | dropped (x : Surroundings × Inbound) (full thin : List (Surroundings × Inbound))
      (hx : spare x) (h : Thinned spare full thin) : Thinned spare (x :: full) thin

/-- Nothing that settles what becomes of the entry under the key tells the routers apart. -/
structure Alike (p : Package) (key : String) (r q : Router) : Prop where
  policy : q.policy = r.policy
  due : q.nextSweep = r.nextSweep
  slot : q.slot p key = r.slot p key

variable {p : Package} {key : String} {r q : Router}

theorem Alike.kept (h : Alike p key r q) (hkey : IsKeyOf p key) (hr : r.Sound) (hq : q.Sound)
    (w : Surroundings) (event : Inbound) (a b : Reaction) (ha : Handled r w event a)
    (hb : Handled q w event b) : Alike p key a.router b.router ∧
      b.sent.filter (Notify.isFor key) = a.sent.filter (Notify.isFor key) := by
  refine ⟨⟨?_, ?_, ?_⟩, ?_⟩
  · rw [hb.policy, ha.policy, h.policy]
  · rw [hb.nextSweep, ha.nextSweep, h.policy, h.due]
  · rw [hb.slot hq p key, ha.slot hr p key, h.policy, h.due, h.slot]
  · rw [hb.heard hq p key hkey, ha.heard hr p key hkey, h.policy, h.due, h.slot]

theorem Alike.dropped (h : Alike p key r q) (hkey : IsKeyOf p key) (hr : r.Sound)
    (resource : String) (hheld : ∀ s, r.slot p key = some s → s.resourceKey = resource)
    (w : Surroundings) (event : Inbound) (hx : ¬ Concerns r.policy p resource key (w, event))
    (a : Reaction) (ha : Handled r w event a) : Alike p key a.router q ∧
      a.sent.filter (Notify.isFor key) = [] := by
  have hidle := slotStep_spared r.policy r.nextSweep p resource key hkey w event hx _ hheld
  refine ⟨⟨?_, ?_, ?_⟩, ?_⟩
  · rw [ha.policy, h.policy]
  · rw [ha.nextSweep, dueAfter_spared _ _ p resource key w event hx, h.due]
  · rw [ha.slot hr p key, hidle, h.slot]
  · rw [ha.heard hr p key hkey, hidle]

theorem journal_thinned (policy : Policy) (resource host : String) (port : UInt16)
    (hresource : ':' ∉ resource.toList) (hkey : key = keyOf p resource host port)
    (full thin : List (Surroundings × Inbound))
    (h : Thinned (fun x => ¬ Concerns policy p resource key x) full thin) (last other : Router)
    (log short : Log) (hp : r.policy = policy) (hr : r.Sound) (hq : q.Sound)
    (hrq : Alike p key r q) (hlog : r.journal full = .ok (last, log))
    (hshort : q.journal thin = .ok (other, short)) :
    Alike p key last other ∧
      short.sent.filter (Notify.isFor key) = log.sent.filter (Notify.isFor key) := by
  have hform : IsKeyOf p key := ⟨resource, host, port, hkey⟩
  -- The induction follows the deletions: both routers take an event, or only the first does.
  induction h generalizing r q log short with
  | nil =>
    simp only [journal, Except.ok.injEq, Prod.mk.injEq] at hlog hshort
    obtain ⟨rfl, rfl⟩ := hlog
    obtain ⟨rfl, rfl⟩ := hshort
    exact ⟨hrq, rfl⟩
  | kept x full thin h ih =>
    obtain ⟨w, event⟩ := x
    obtain ⟨a, later, ha, hlater, rfl⟩ := (journal_cons r w event full last log).mp hlog
    obtain ⟨b, rest, hb, hrest, rfl⟩ := (journal_cons q w event thin other short).mp hshort
    have hda := handled_of_handle r w event a ha
    have hdb := handled_of_handle q w event b hb
    obtain ⟨halike, hsent⟩ := hrq.kept hform hr hq w event a b hda hdb
    obtain ⟨hlast, hheard⟩ := ih later rest (hda.policy.trans hp) (hda.sound hr) (hdb.sound hq)
      halike hlater hrest
    refine ⟨hlast, ?_⟩
    simp only [Log.sent, List.flatMap_cons, List.filter_append] at hheard ⊢
    rw [hsent, hheard]
  | dropped x full thin hx h ih =>
    obtain ⟨w, event⟩ := x
    obtain ⟨a, later, ha, hlater, rfl⟩ := (journal_cons r w event full last log).mp hlog
    have hda := handled_of_handle r w event a ha
    have hheld : ∀ s, r.slot p key = some s → s.resourceKey = resource := by
      subst hkey
      exact resource_of_slot r hr p resource host port hresource
    obtain ⟨halike, hsent⟩ := hrq.dropped hform hr resource hheld w event (hp ▸ hx) a hda
    obtain ⟨hlast, hheard⟩ := ih later short (hda.policy.trans hp) (hda.sound hr) hq halike hlater
      hshort
    refine ⟨hlast, ?_⟩
    simp only [Log.sent, List.flatMap_cons, List.filter_append] at hheard ⊢
    rw [hsent, hheard, List.nil_append]

theorem journal_thinned_total (spare : Surroundings × Inbound → Prop)
    (full thin : List (Surroundings × Inbound)) (h : Thinned spare full thin) (last : Router)
    (log : Log) (hp : q.policy = r.policy) (hq : q.Sound)
    (hlog : r.journal full = .ok (last, log))
    (hw : ∀ x ∈ thin, 0 ≤ x.1.now ∧ x.1.now ≤ Seconds.greatest) :
    ∃ other short, q.journal thin = .ok (other, short) := by
  induction h generalizing r q log with
  | nil => exact ⟨q, [], rfl⟩
  | kept x full thin h ih =>
    obtain ⟨w, event⟩ := x
    obtain ⟨a, later, ha, hlater, rfl⟩ := (journal_cons r w event full last log).mp hlog
    obtain ⟨hlow, hhigh⟩ := hw (w, event) List.mem_cons_self
    have hsub : ∀ request, event = .subscribe request →
        ∃ reaction, q.subscribe w request = .ok reaction := by
      rintro request rfl
      exact subscribe_total r q hp w request ⟨a, ha⟩
    obtain ⟨b, hb⟩ := handle_total q w event hsub fun _ => listing_total q hq w.now hlow hhigh
    have hda := handled_of_handle r w event a ha
    have hdb := handled_of_handle q w event b hb
    obtain ⟨other, rest, hrest⟩ := ih later (by rw [hdb.policy, hda.policy, hp]) (hdb.sound hq)
      hlater fun x hx => hw x (List.mem_cons_of_mem _ hx)
    exact ⟨other, _, (journal_cons q w event thin other _).mpr ⟨b, rest, hb, hrest, rfl⟩⟩
  | dropped x full thin hx h ih =>
    obtain ⟨w, event⟩ := x
    obtain ⟨a, later, ha, hlater, rfl⟩ := (journal_cons r w event full last log).mp hlog
    have hda := handled_of_handle r w event a ha
    exact ih later (by rw [hda.policy, hp]) hq hlater hw

/-- Events that do not concern a subscriber can be left out of a run: the entry under the key ends
up the same and the same is sent for it, in the same order. The shorter run goes through wherever
the clock is not negative. A resource holds no colon (`isResourceKey_of_resourceOf?`); whom a NOTIFY
is for is read off its fields, and is what the entry under that key sent (`Handled.heard`). -/
theorem run_thinned (policy : Policy) (p : Package) (resource host : String) (port : UInt16)
    (hresource : ':' ∉ resource.toList) (full thin : List (Surroundings × Inbound))
    (h : Thinned (fun x => ¬ Concerns policy p resource (keyOf p resource host port) x) full thin)
    (last : Router) (sent : List Notify) (hfull : (start policy).run full = .ok (last, sent)) :
    (∀ other heard, (start policy).run thin = .ok (other, heard) →
      (other.registry p).get? (keyOf p resource host port) =
        (last.registry p).get? (keyOf p resource host port) ∧
      heard.filter (Notify.isFor (keyOf p resource host port)) =
        sent.filter (Notify.isFor (keyOf p resource host port))) ∧
    ((∀ x ∈ thin, 0 ≤ x.1.now ∧ x.1.now ≤ Seconds.greatest) →
      ∃ other heard, (start policy).run thin = .ok (other, heard)) := by
  obtain ⟨log, hlog, rfl⟩ := run_eq_ok _ _ _ _ hfull
  have hstart : (start policy).Sound := Holds.start _ policy
  constructor
  · intro other heard hthin
    obtain ⟨short, hshort, rfl⟩ := run_eq_ok _ _ _ _ hthin
    obtain ⟨hlast, hheard⟩ := journal_thinned policy resource host port hresource rfl full thin h
      last other log short rfl hstart hstart ⟨rfl, rfl, rfl⟩ hlog hshort
    exact ⟨hlast.slot, hheard⟩
  · intro hw
    obtain ⟨other, short, hshort⟩ := journal_thinned_total _ full thin h last log rfl hstart hlog hw
    exact ⟨other, short.sent, by rw [run_eq_journal, hshort]; rfl⟩

/-- One watcher of mailbox 100, with a watcher of mailbox 200 and its news beside it or without. -/
theorem run_thinned_watcher :
    let ask (uri host : String) : Inbound :=
      .subscribe (sampleRequest .messageSummary uri host (some 300))
    let full : List (Surroundings × Inbound) :=
      [(⟨10, fun _ => {}⟩, ask "sip:100@pbx" "10.0.0.1"),
        (⟨11, fun _ => {}⟩, ask "sip:200@pbx" "10.0.0.2"),
        (⟨12, fun _ => ⟨3, 1⟩⟩, .mailboxUpdate "200"), (⟨20, fun _ => {}⟩, .timerTick 20)]
    let thin : List (Surroundings × Inbound) :=
      [(⟨10, fun _ => {}⟩, ask "sip:100@pbx" "10.0.0.1"), (⟨20, fun _ => {}⟩, .timerTick 20)]
    let key := keyOf .messageSummary "100" "10.0.0.1" 5060
    ∃ last sent other heard, (start {}).run full = .ok (last, sent) ∧
      (start {}).run thin = .ok (other, heard) ∧
      other.mailboxes.get? key = last.mailboxes.get? key ∧
      heard.filter (Notify.isFor key) = sent.filter (Notify.isFor key) := by
  intro ask full thin key
  have hclock : ∀ x ∈ full, ({} : Policy).Admits x.1.now := by decide
  obtain ⟨last, sent, hfull⟩ := run_total {} rfl full hclock
  have hcolon : ':' ∉ "100".toList := by decide
  have hneighbour : ¬ Concerns {} .messageSummary "100" key
      (⟨11, fun _ => {}⟩, ask "sip:200@pbx" "10.0.0.2") := by
    have hread : resourceOf? "sip:200@pbx" = some "200" := by decide +kernel
    exact not_accepts_of_resource {} .messageSummary "100" "200" "10.0.0.1" 5060 hcolon _ _ hread
      (by decide)
  have hthinned : Thinned (fun x => ¬ Concerns {} .messageSummary "100" key x) full thin :=
    .kept _ _ _ (.dropped _ _ _ hneighbour (.dropped _ _ _ (by simp [Concerns])
      (.kept _ _ _ .nil)))
  obtain ⟨hsame, htotal⟩ := run_thinned {} .messageSummary "100" "10.0.0.1" 5060 hcolon full thin
    hthinned last sent hfull
  obtain ⟨other, heard, hthin⟩ := htotal (by decide)
  exact ⟨last, sent, other, heard, hfull, hthin, hsame other heard hthin⟩

end SipNotifier.Router
