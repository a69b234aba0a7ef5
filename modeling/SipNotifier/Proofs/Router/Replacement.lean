import SipNotifier.Proofs.Router.Totality
import SipNotifier.Proofs.Router.Slot

/-! Which entry a request replaces. Index keys are texts, but no two subscribers share one: the key
tells package, resource, host and port, even where the host holds colons or ends in digits. A
request therefore takes the place of an entry only if it agrees with it in all four, and leaves
every other entry of both registries as it was. -/
namespace SipNotifier
open Subscription
set_option autoImplicit false

/-! ## Keys of requests -/

namespace Subscription

theorem ofRequest_address (r : SubscribeRequest) (p : Package) (policy : Policy) (now : Int)
    (s : Subscription) (h : ofRequest r p policy now = .ok s) :
    resourceOf? r.uri = some s.resourceKey ∧ s.indexKey = keyOf p s.resourceKey r.host r.port := by
  have hp := ofRequest_package r p policy now s h
  obtain ⟨key, state, last, hkey, -, hs⟩ := ofRequest_eq_ok r p policy now s h
  rw [indexKey, hp, hs]
  exact ⟨hkey, rfl⟩

theorem indexKey_eq_iff (a b : SubscribeRequest) (p q : Package) (policy other : Policy)
    (now time : Int) (s t : Subscription) (hs : ofRequest a p policy now = .ok s)
    (ht : ofRequest b q other time = .ok t) : s.indexKey = t.indexKey ↔
      p = q ∧ s.resourceKey = t.resourceKey ∧ a.host = b.host ∧ a.port = b.port := by
  obtain ⟨hsource, hskey⟩ := ofRequest_address a p policy now s hs
  obtain ⟨htarget, htkey⟩ := ofRequest_address b q other time t ht
  rw [hskey, htkey]
  exact keyOf_inj p q _ _ _ _ _ _ (isResourceKey_of_resourceOf? _ _ hsource).no_colon
    (isResourceKey_of_resourceOf? _ _ htarget).no_colon

end Subscription

/-! ## Entries that give way -/

namespace Router

theorem negotiate_of_accepted? (policy : Policy) (now : Int) (request : SubscribeRequest)
    (p : Package) (s : Subscription) (h : accepted? policy now request = some (p, s)) :
    Package.negotiate request.event request.accept = .ok p := by
  simp only [accepted?] at h
  split at h
  · simp at h
  · next q hq =>
    split at h
    · simp at h
    · simp only [Option.some.injEq, Prod.mk.injEq] at h
      rw [hq, h.1]

/-- The request and the entry agree in all that an index key is made of. -/
structure SameSubscriber (p : Package) (e : Subscription) (request : SubscribeRequest) : Prop where
  package : Package.negotiate request.event request.accept = .ok p
  resource : resourceOf? request.uri = some e.resourceKey
  host : e.host = request.host
  port : e.port = request.port

theorem sameSubscriber_of_accepted? (policy : Policy) (now : Int) (request : SubscribeRequest)
    (p : Package) (s e : Subscription) (h : accepted? policy now request = some (p, s))
    (he : IsResourceKey e.resourceKey) (hk : s.indexKey = e.indexKey) :
    SameSubscriber p e request := by
  obtain ⟨hsource, hskey⟩ := ofRequest_address _ _ _ _ _ (ofRequest_of_accepted? _ _ _ _ _ h)
  have hcolon := (isResourceKey_of_resourceOf? _ _ hsource).no_colon
  obtain ⟨-, hresource, hhost, hport⟩ :=
    (keyOf_inj p e.package _ _ _ _ _ _ hcolon he.no_colon).mp (hskey.symm.trans hk)
  exact ⟨negotiate_of_accepted? policy now request p s h, hresource ▸ hsource, hhost.symm,
    hport.symm⟩

theorem Handled.replaced {r : Router} {w : Surroundings} {request : SubscribeRequest}
    {reaction : Reaction} (hd : Handled r w (.subscribe request) reaction) (h : r.Sound)
    (p : Package) (e : Subscription) (he : e ∈ (r.registry p).entries)
    (hgone : reaction.router.slot p e.indexKey ≠ some e) : SameSubscriber p e request := by
  have hheld := slot_indexKey h p e he
  cases hd with
  | enrolled _ q s ha =>
    rw [slot_enroll] at hgone
    split at hgone
    · next hsame =>
      have hresource := ((h.registry p).entries e he).isResourceKey
      exact sameSubscriber_of_accepted? _ _ _ _ _ _ (hsame.1 ▸ ha) hresource hsame.2
    · exact absurd hheld hgone
  | turnedDown _ outcome ha ho => exact absurd hheld hgone
  | updated _ q key change hc => simp [change?] at hc

/-- Two requests make the same index key only if they agree in package, resource, host and port,
whatever these are. So no request to a router in any state that it reaches takes the place of the
entry of another subscriber. -/
theorem indexKeys_apart :
    (∀ (a b : SubscribeRequest) (p q : Package) (policy other : Policy) (now time : Int)
      (s t : Subscription), ofRequest a p policy now = .ok s → ofRequest b q other time = .ok t →
      (s.indexKey = t.indexKey ↔
        p = q ∧ s.resourceKey = t.resourceKey ∧ a.host = b.host ∧ a.port = b.port)) ∧
    ∀ (policy : Policy) (events : List (Surroundings × Inbound)) (last : Router)
      (sent : List Notify), (start policy).run events = .ok (last, sent) →
      ∀ w request reaction, last.handle w (.subscribe request) = .ok reaction →
        ∀ p, ∀ e ∈ (last.registry p).entries,
          (reaction.router.registry p).get? e.indexKey ≠ some e → SameSubscriber p e request := by
  constructor
  · intro a b p q policy other now time s t hs ht
    exact indexKey_eq_iff a b p q policy other now time s t hs ht
  · intro policy events last sent hrun w request reaction hr p e he hgone
    obtain ⟨log, hlog, -⟩ := run_eq_ok _ _ _ _ hrun
    have hsound := journal_sound policy events last log hlog
    exact (handled_of_handle last w _ reaction hr).replaced hsound p e he hgone

/-- Two watchers of one resource, the host of the one being the host and port of the other run
together, and what the second finds when it comes. -/
theorem indexKeys_apart_colons :
    let ask (host : String) (port : UInt16) : SubscribeRequest :=
      { sampleRequest .dialog "sip:park-7@pbx" host (some 300) with port := port }
    let first : List (Surroundings × Inbound) :=
      [(⟨10, fun _ => {}⟩, .subscribe (ask "2001:db8::1" 5060))]
    (∃ s t, ofRequest (ask "2001:db8::1" 5060) .dialog {} 10 = .ok s ∧
      ofRequest (ask "2001:db8::1:50" 60) .dialog {} 20 = .ok t ∧ s.indexKey ≠ t.indexKey) ∧
    ∃ last sent reaction, (start {}).run first = .ok (last, sent) ∧
      last.handle ⟨20, fun _ => {}⟩ (.subscribe (ask "2001:db8::1:50" 60)) = .ok reaction ∧
      ∀ e ∈ last.dialogs.entries, (reaction.router.registry .dialog).get? e.indexKey = some e := by
  intro ask first
  have hseven : resourceOf? "sip:park-7@pbx" = some "7" := by decide +kernel
  have hread (host : String) (port : UInt16) : resourceOf? (ask host port).uri = some "7" := hseven
  constructor
  · obtain ⟨s, hs⟩ : ∃ s, ofRequest (ask "2001:db8::1" 5060) .dialog {} 10 = .ok s :=
      ⟨_, by rw [ofRequest, hread]; rfl⟩
    obtain ⟨t, ht⟩ : ∃ t, ofRequest (ask "2001:db8::1:50" 60) .dialog {} 20 = .ok t :=
      ⟨_, by rw [ofRequest, hread]; rfl⟩
    refine ⟨s, t, hs, ht, ?_⟩
    intro he
    have hparts := (indexKeys_apart.1 _ _ _ _ _ _ _ _ s t hs ht).mp he
    exact absurd hparts.2.2.2 (by decide)
  · obtain ⟨last, log, hrun, hlog, hseen⟩ := run_of_seen (start {}) first
      (fun r _ => (r.policy, r.dialogs.entries.map Subscription.host)) ({}, ["2001:db8::1"])
      (by decide +kernel)
    obtain ⟨hpolicy, hhosts⟩ := Prod.mk.inj hseen
    obtain ⟨reaction, hr⟩ := handle_total_of_admits last (journal_sound _ _ _ _ hlog)
      (by rw [hpolicy]; exact (Policy.validate_eq_ok_iff {}).mp rfl) ⟨20, fun _ => {}⟩
      (by rw [hpolicy]; decide) (.subscribe (ask "2001:db8::1:50" 60))
    refine ⟨last, log.sent, reaction, hrun, hr, ?_⟩
    intro e he
    apply Decidable.byContradiction
    intro hgone
    have hsame := indexKeys_apart.2 {} first last _ hrun _ _ reaction hr .dialog e he hgone
    have hhost : e.host ∈ last.dialogs.entries.map Subscription.host := List.mem_map_of_mem he
    rw [hhosts, hsame.host] at hhost
    exact absurd hhost (by decide)

end Router
end SipNotifier
