import Mathlib.Data.List.Nodup
import SipNotifier.Proofs.Router.Totality

/-! What a request does, from its headers to what stands in the registry. The headers name a package,
the URI a resource and the policy a lifetime; a request that fails at one of the first two leaves the
router as it was. Of the others each sends one NOTIFY and puts one entry where the one under its key
stood, or behind all others. -/
namespace SipNotifier
open Subscription
set_option autoImplicit false

/-! ## Headers -/

namespace Package

/-- The pairs of an event and a media type that are answered. -/
def supported : List (String × String) :=
  [("message-summary", "application/simple-message-summary"),
    ("dialog", "application/dialog-info+xml")]

theorem mem_supported (p : Package) : (p.name, p.mediaType) ∈ supported := by cases p <;> decide

theorem negotiate_own (p : Package) : negotiate p.name p.mediaType = .ok p := by cases p <;> rfl

theorem negotiate_unsupported (event accept : String) (h : (event, accept) ∉ supported) :
    negotiate event accept = .error ⟨event, accept⟩ := by
  have hnone : all.find? (fun p => p.name == event && p.mediaType == accept) = none := by
    refine List.find?_eq_none.mpr fun p _ hp => ?_
    simp only [Bool.and_eq_true, beq_iff_eq] at hp
    exact h (hp.1 ▸ hp.2 ▸ mem_supported p)
  rw [negotiate, hnone]

theorem of_mem_supported (event accept : String) (h : (event, accept) ∈ supported) :
    ∃ p : Package, event = p.name ∧ accept = p.mediaType := by
  simp only [supported, List.mem_cons, Prod.mk.injEq, List.not_mem_nil, or_false] at h
  rcases h with ⟨rfl, rfl⟩ | ⟨rfl, rfl⟩
  · exact ⟨.messageSummary, rfl, rfl⟩
  · exact ⟨.dialog, rfl, rfl⟩

end Package

/-- The user whose resource the URI names. -/
def Uri.user? (uri : String) : Option String :=
  match Uri.parse uri with
  | .ok u => u.userinfo.map fun i => i.name
  | .error _ => none

theorem resourceOf?_eq (uri : String) :
    resourceOf? uri = (Uri.user? uri).map fun user => String.ofList (Uri.dropTag user.toList) := by
  simp only [resourceOf?, Uri.user?]
  cases Uri.parse uri with
  | error fault => rfl
  | ok u => simp [Uri.resourceKey?, Function.comp_def]

theorem Policy.granted_eq_none_iff (policy : Policy) (requested : Option Int) :
    policy.granted requested = none ↔ requested = some 0 := by
  cases requested with
  | none => simp [granted]
  | some t =>
    simp only [granted, Option.some.injEq]
    split
    · next ht => simp [ht]
    · next ht => split <;> simp [ht]

/-! ## Entries -/

namespace Registry

/-- The entries once one is stored: it stands where the one under its key stood, or last. -/
inductive Placed (s : Subscription) : List Subscription → List Subscription → Prop
  | replaced (before after : List Subscription) (old : Subscription)
      (hk : old.indexKey = s.indexKey) (hb : ∀ e ∈ before, e.indexKey ≠ s.indexKey)
      (ha : ∀ e ∈ after, e.indexKey ≠ s.indexKey) :
      Placed s (before ++ old :: after) (before ++ s :: after)
  | added (entries : List Subscription) (h : ∀ e ∈ entries, e.indexKey ≠ s.indexKey) :
      Placed s entries (entries ++ [s])

theorem Placed.of_head {s : Subscription} {es : List Subscription} (old : Subscription)
    (rest : List Subscription) (hk : old.indexKey = s.indexKey) (h : Placed s (old :: rest) es) :
    es = s :: rest := by
  generalize hheld : old :: rest = held at h
  cases h with
  | added _ hfree => exact absurd hk (hfree old (hheld ▸ List.mem_cons_self))
  | replaced before after found hfound hb ha =>
    cases before with
    | nil => rw [(List.cons.inj hheld).2, List.nil_append]
    | cons e before => exact absurd hk ((List.cons.inj hheld).1 ▸ hb e List.mem_cons_self)

theorem map_replace_far (s : Subscription) (es : List Subscription)
    (h : ∀ e ∈ es, e.indexKey ≠ s.indexKey) :
    (es.map fun e => if e.indexKey = s.indexKey then s else e) = es :=
  (List.map_congr_left fun e he => if_neg (h e he)).trans (List.map_id es)

theorem placed_upsert (r : Registry) (s : Subscription) (hn : r.keys.Nodup) :
    Placed s r.entries (r.upsert s).entries := by
  rw [upsert]
  cases hold : r.get? s.indexKey with
  | none =>
    refine .added r.entries fun e he hkey => ?_
    simpa [hkey] using List.find?_eq_none.mp hold e he
  | some old =>
    obtain ⟨hmem, hkey⟩ := get?_mem r _ old hold
    obtain ⟨before, after, hsplit⟩ := List.append_of_mem hmem
    rw [keys, hsplit, List.map_append, List.map_cons, List.nodup_middle, List.nodup_cons,
      List.mem_append, not_or] at hn
    obtain ⟨⟨hbefore, hafter⟩, -⟩ := hn
    -- Keys are apart, so what is found is all that stands under the key.
    have hb : ∀ e ∈ before, e.indexKey ≠ s.indexKey := fun e he hek =>
      hbefore (List.mem_map.mpr ⟨e, he, hek.trans hkey.symm⟩)
    have ha : ∀ e ∈ after, e.indexKey ≠ s.indexKey := fun e he hek =>
      hafter (List.mem_map.mpr ⟨e, he, hek.trans hkey.symm⟩)
    simp only [hsplit, List.map_append, List.map_cons, map_replace_far s before hb,
      map_replace_far s after ha, if_pos hkey]
    exact .replaced before after old hkey hb ha

end Registry

namespace Router

/-! ## Requests -/

/-- The first body for a resource, from what is known of it now. -/
def firstBody (p : Package) (w : Surroundings) (uri key : String) : String :=
  match p with
  | .messageSummary => (w.mail key).summary
  | .dialog => Dialog.document 0 uri none

/-- The entry that a request leaves behind. -/
def newEntry (policy : Policy) (w : Surroundings) (p : Package) (request : SubscribeRequest)
    (key : String) : Subscription where
  kind := match p with
    | .messageSummary => .mailbox
    | .dialog => .dialog 1
  resourceKey := key
  host := request.host
  port := request.port
  requestUri := request.uri
  fromHeader := request.fromHeader
  toHeader := localHeader request
  callId := request.callId
  contact := request.contact
  state := if request.expires = some 0 then .terminated none else .active
  expiresAt := match policy.granted request.expires with
    | none => 0
    | some lifetime => w.now + lifetime
  body := firstBody p w request.uri key
  pending := false

/-- The answer to a request: it goes where the request came from, with the addresses the other way
round. -/
def firstNotify (w : Surroundings) (p : Package) (request : SubscribeRequest) (key : String) :
    Notify where
  method := "NOTIFY"
  uri := request.contact
  host := request.host
  port := request.port
  callId := request.callId
  fromHeader := localHeader request
  toHeader := request.fromHeader
  contact := "<" ++ request.uri ++ ">"
  event := request.event
  subscriptionState := if request.expires = some 0 then "terminated" else "active"
  contentType := request.accept
  body := firstBody p w request.uri key

/-- The router has taken the request for a resource of a package. -/
structure Enrolled (r : Router) (w : Surroundings) (p : Package) (request : SubscribeRequest)
    (key : String) (reaction : Reaction) : Prop where
  outcome : reaction.outcome = .accepted (keyOf p key request.host request.port)
    (if request.expires = some 0 then .terminated none else .active)
  sent : reaction.sent = [firstNotify w p request key]
  placed : Registry.Placed (newEntry r.policy w p request key) (r.registry p).entries
    (reaction.router.registry p).entries
  others : ∀ q, q ≠ p → reaction.router.registry q = r.registry q
  package : (reaction.router.registry p).package = (r.registry p).package
  policy : reaction.router.policy = r.policy
  due : reaction.router.nextSweep = r.nextSweep

theorem opened_eq (s : Subscription) (w : Surroundings) (p : Package) (hk : s.kind = .start p) :
    (s.opened w.mail).1 =
      { s with kind := s.kind.next, body := firstBody p w s.requestUri s.resourceKey
               pending := false } := by
  change (s.render .subscribed w.mail).1.flush.1 = _
  cases p with
  | messageSummary =>
    have hrender : (s.render .subscribed w.mail).1 =
        { s with body := (w.mail s.resourceKey).summary, pending := true } := by
      rw [render, hk]
      rfl
    rw [hrender, flush_of_waiting _ (summary_ne_empty _) rfl, hk]
    rfl
  | dialog =>
    have hrender : (s.render .subscribed w.mail).1 =
        { s with kind := .dialog 1, body := Dialog.document 0 s.requestUri none
                 pending := true } := by
      rw [render, hk]
      rfl
    have hbody := document_ne_empty 0 s.requestUri none
    rw [hrender, flush_of_waiting _ hbody rfl, hk]
    rfl

theorem opened_of_entry (s : Subscription) (mail : String → Mailbox.Counts) (t : Subscription)
    (h : (s.opened mail).1 = t) : s.opened mail = (t, [t.record]) := by
  rw [← h, ← (opened_told s mail).1]

theorem lease_granted (policy : Policy) (now : Int) (requested : Option Int)
    (hfits : ∀ t, policy.granted requested = some t → Seconds.Fits (now + t)) :
    lease (policy.granted requested) now =
      .ok (if requested = some 0 then .terminated none else .active,
        match policy.granted requested with
        | none => 0
        | some lifetime => now + lifetime) := by
  cases hg : policy.granted requested with
  | none =>
    have hzero : requested = some 0 := (policy.granted_eq_none_iff requested).mp hg
    rw [lease, if_pos hzero]
  | some t =>
    have hsome : requested ≠ some 0 := fun hz => by
      rw [(policy.granted_eq_none_iff requested).mpr hz] at hg
      cases hg
    rw [if_neg hsome, lease, (Seconds.add_eq_ok_iff now t _).mpr ⟨rfl, hfits t hg⟩]
    rfl

theorem ofRequest_opened (policy : Policy) (w : Surroundings) (p : Package)
    (request : SubscribeRequest) (key : String) (hkey : resourceOf? request.uri = some key)
    (he : request.event = p.name) (ha : request.accept = p.mediaType)
    (hfits : ∀ t, policy.granted request.expires = some t → Seconds.Fits (w.now + t)) :
    ∃ s, ofRequest request p policy w.now = .ok s ∧
      s.opened w.mail = (newEntry policy w p request key, [firstNotify w p request key]) := by
  have hrecord : (newEntry policy w p request key).record = firstNotify w p request key := by
    have hpackage : (newEntry policy w p request key).package = p := by cases p <;> rfl
    have hheader : (newEntry policy w p request key).state.header =
        if request.expires = some 0 then "terminated" else "active" := by
      simp only [newEntry]
      split <;> rfl
    rw [record, hpackage, hheader, ← he, ← ha]
    rfl
  refine ⟨_, by rw [ofRequest, hkey, lease_granted policy w.now request.expires hfits], ?_⟩
  rw [← hrecord]
  refine opened_of_entry _ w.mail _ ?_
  rw [opened_eq _ w p rfl]
  cases p <;> rfl

theorem indexKey_newEntry (policy : Policy) (w : Surroundings) (p : Package)
    (request : SubscribeRequest) (key : String) :
    (newEntry policy w p request key).indexKey = keyOf p key request.host request.port := by
  cases p <;> rfl

theorem enrolled_subscribe (r : Router) (hn : ∀ p, (r.registry p).keys.Nodup) (w : Surroundings)
    (p : Package) (request : SubscribeRequest) (key : String)
    (he : request.event = p.name) (ha : request.accept = p.mediaType)
    (hkey : resourceOf? request.uri = some key)
    (hfits : ∀ t, r.policy.granted request.expires = some t → Seconds.Fits (w.now + t)) :
    ∃ reaction, r.subscribe w request = .ok reaction ∧ Enrolled r w p request key reaction := by
  obtain ⟨s, hs, hopened⟩ := ofRequest_opened r.policy w p request key hkey he ha hfits
  refine ⟨r.enroll w p s, by rw [subscribe, he, ha, Package.negotiate_own]; simp only [hs], ?_⟩
  have hentry := congrArg Prod.fst hopened
  have hsent := congrArg Prod.snd hopened
  have hregistry : (r.enroll w p s).router.registry p =
      (r.registry p).upsert (newEntry r.policy w p request key) := by
    rw [registry_enroll, if_pos rfl, hentry]
  constructor
  · change Outcome.accepted (s.opened w.mail).1.indexKey (s.opened w.mail).1.state = _
    rw [hentry, indexKey_newEntry]
    rfl
  · exact hsent
  · rw [hregistry]
    exact Registry.placed_upsert _ _ (hn p)
  · intro q hq
    rw [registry_enroll, if_neg hq]
  · rw [hregistry, Registry.upsert]
    split <;> rfl
  · cases p <;> rfl
  · cases p <;> rfl

/-- A request is rejected exactly if its headers are none of the two pairs, and else discarded exactly
if its URI names no user; both leave the router as it was and send nothing. Any other is taken. The
registries are maps: no key stands in one twice. -/
theorem subscribe_exact (r : Router) (hn : ∀ p, (r.registry p).keys.Nodup) (w : Surroundings)
    (request : SubscribeRequest)
    (hfits : ∀ t, r.policy.granted request.expires = some t → Seconds.Fits (w.now + t)) :
    ∃ reaction, r.handle w (.subscribe request) = .ok reaction ∧
      ((∃ cause, reaction.outcome = .rejected cause) ↔
        (request.event, request.accept) ∉ Package.supported) ∧
      (reaction.outcome = .discarded ↔
        (request.event, request.accept) ∈ Package.supported ∧ Uri.user? request.uri = none) ∧
      ((∃ cause, reaction.outcome = .rejected cause) ∨ reaction.outcome = .discarded →
        reaction.router = r ∧ reaction.sent = []) ∧
      ∀ p : Package, request.event = p.name → request.accept = p.mediaType →
        ∀ user, Uri.user? request.uri = some user →
          Enrolled r w p request (String.ofList (Uri.dropTag user.toList)) reaction := by
  by_cases hpair : (request.event, request.accept) ∈ Package.supported
  · obtain ⟨p, he, ha⟩ := Package.of_mem_supported _ _ hpair
    cases huser : Uri.user? request.uri with
    | none =>
      have hkey : resourceOf? request.uri = none := by rw [resourceOf?_eq, huser, Option.map_none]
      have hs : ofRequest request p r.policy w.now = .error (.noResource request.uri) := by
        rw [ofRequest, hkey]
      refine ⟨⟨r, .discarded, []⟩, ?_, by simp [hpair], by simp [hpair], by simp, by simp⟩
      rw [handle, subscribe, he, ha, Package.negotiate_own]
      simp only [hs]
    | some user =>
      have hkey : resourceOf? request.uri = some (String.ofList (Uri.dropTag user.toList)) := by
        rw [resourceOf?_eq, huser, Option.map_some]
      obtain ⟨reaction, hr, henrolled⟩ := enrolled_subscribe r hn w p request _ he ha hkey hfits
      have haccepted := henrolled.outcome
      refine ⟨reaction, hr, by simp [hpair, haccepted], by simp [haccepted], by simp [haccepted], ?_⟩
      intro q hq _ other hother
      obtain rfl := Package.name_injective q p (hq.symm.trans he)
      obtain rfl := Option.some.inj hother
      exact henrolled
  · refine ⟨⟨r, .rejected ⟨request.event, request.accept⟩, []⟩, ?_, by simp [hpair], by simp [hpair],
      by simp, ?_⟩
    · rw [handle, subscribe, Package.negotiate_unsupported _ _ hpair]
    · intro p he ha
      exact absurd (he ▸ ha ▸ p.mem_supported) hpair

/-- A subscription that is renewed keeps its place in front of another. -/
theorem subscribe_exact_renewed :
    let w : Surroundings := ⟨1000, fun _ => ⟨3, 1⟩⟩
    let request := sampleRequest .messageSummary "sip:100@pbx" "10.0.0.1" (some 300)
    let old := newEntry {} ⟨900, fun _ => {}⟩ .messageSummary request "100"
    let other := newEntry {} ⟨950, fun _ => {}⟩ .messageSummary request "200"
    let r : Router := { start {} with mailboxes := ⟨.messageSummary, [old, other]⟩ }
    ∃ reaction, r.handle w (.subscribe request) = .ok reaction ∧
      reaction.sent = [firstNotify w .messageSummary request "100"] ∧
      reaction.router.mailboxes.entries =
        [newEntry {} w .messageSummary request "100", other] := by
  intro w request old other r
  have hn : ∀ p, (r.registry p).keys.Nodup := by
    intro p
    cases p <;> decide
  have hfits : ∀ t, r.policy.granted request.expires = some t → Seconds.Fits (w.now + t) := by
    intro t ht
    obtain rfl : 300 = t := Option.some.inj ht
    decide
  have huser : Uri.user? request.uri = some "100" := by decide +kernel
  obtain ⟨reaction, hr, -, -, -, htaken⟩ := subscribe_exact r hn w request hfits
  obtain ⟨-, hsent, hplaced, -⟩ := htaken .messageSummary rfl rfl "100" huser
  have hkey : String.ofList (Uri.dropTag "100".toList) = "100" := by decide +kernel
  rw [hkey] at hsent hplaced
  exact ⟨reaction, hr, hsent, hplaced.of_head old [other] rfl⟩

end Router
end SipNotifier
