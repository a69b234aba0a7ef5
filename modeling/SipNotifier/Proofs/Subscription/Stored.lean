import SipNotifier.Proofs.ResourceKey
import SipNotifier.Proofs.Subscription.Delivery

/-! What every stored subscription is like, however it came about. A request makes a subscription
that waits and has no body; the render that follows gives it one, and it never loses it again. -/
namespace SipNotifier.Subscription
set_option autoImplicit false

/-! ## New subscriptions -/

theorem ofRequest_eq_ok (r : SubscribeRequest) (p : Package) (policy : Policy) (now : Int)
    (s : Subscription) (h : ofRequest r p policy now = .ok s) :
    ∃ key state last, resourceOf? r.uri = some key ∧
      lease (policy.granted r.expires) now = .ok (state, last) ∧
      s = { kind := .start p, resourceKey := key, host := r.host, port := r.port
            requestUri := r.uri, fromHeader := r.fromHeader, toHeader := localHeader r
            callId := r.callId, contact := r.contact, state := state, expiresAt := last
            body := "", pending := true } := by
  simp only [ofRequest] at h
  split at h
  · simp at h
  · next key hkey =>
    split at h
    · simp at h
    · next state last hlease =>
      simp only [Except.ok.injEq] at h
      exact ⟨key, state, last, hkey, hlease, h.symm⟩

theorem ofRequest_package (r : SubscribeRequest) (p : Package) (policy : Policy) (now : Int)
    (s : Subscription) (h : ofRequest r p policy now = .ok s) : s.package = p := by
  obtain ⟨key, state, last, -, -, rfl⟩ := ofRequest_eq_ok r p policy now s h
  cases p <;> rfl

theorem ofRequest_resource (r : SubscribeRequest) (p : Package) (policy : Policy) (now : Int)
    (s : Subscription) (h : ofRequest r p policy now = .ok s) :
    resourceOf? s.requestUri = some s.resourceKey := by
  obtain ⟨key, state, last, hkey, -, rfl⟩ := ofRequest_eq_ok r p policy now s h
  exact hkey

theorem ofRequest_pending (r : SubscribeRequest) (p : Package) (policy : Policy) (now : Int)
    (s : Subscription) (h : ofRequest r p policy now = .ok s) : s.pending = true := by
  obtain ⟨key, state, last, -, -, rfl⟩ := ofRequest_eq_ok r p policy now s h
  rfl

theorem lease_eq_ok (lifetime : Option Int) (now : Int) (state : State) (last : Int)
    (h : lease lifetime now = .ok (state, last)) :
    (lifetime = none ∧ state = .terminated none ∧ last = 0) ∨
      ∃ t, lifetime = some t ∧ state = .active ∧ last = now + t ∧ Seconds.Fits (now + t) := by
  cases lifetime with
  | none =>
    simp only [lease, Except.ok.injEq, Prod.mk.injEq] at h
    exact Or.inl ⟨rfl, h.1.symm, h.2.symm⟩
  | some t =>
    simp only [lease] at h
    cases ha : Seconds.add now t with
    | error cause => rw [ha] at h; simp [Except.map] at h
    | ok sum =>
      rw [ha] at h
      simp only [Except.map, Except.ok.injEq, Prod.mk.injEq] at h
      obtain ⟨hsum, hfits⟩ := (Seconds.add_eq_ok_iff now t sum).mp ha
      exact Or.inr ⟨t, rfl, h.1.symm, by rw [← h.2, hsum], hfits⟩

/-! ## What rendering and flushing change -/

theorem summary_ne_empty (c : Mailbox.Counts) : c.summary ≠ "" := by
  simp only [Mailbox.Counts.summary]
  split
  · intro h
    have hlast := (String.append_eq_empty_iff.mp h).2
    simp at hlast
  · simp

theorem document_ne_empty (version : Nat) (entity : String) (element : Option Dialog.Element) :
    Dialog.document version entity element ≠ "" := by
  intro h
  have hlast := (String.append_eq_empty_iff.mp h).2
  simp at hlast

/-- The subscription with nothing left to send. -/
def told (s : Subscription) : Subscription := { s with pending := false }

/-- The last NOTIFY of a subscription whose lifetime has run out. -/
def farewell (s : Subscription) : Notify :=
  { s.record with subscriptionState := "terminated;reason=timeout" }

def Kind.next : Kind → Kind
  | .mailbox => .mailbox
  | .dialog version => .dialog (version + 1)

theorem send_fields (s : Subscription) : ∃ waits, s.send.1 = { s with pending := waits } := by
  by_cases h : s.body = ""
  · have hs : s.send = (s, none) := by simp [send, h]
    exact ⟨s.pending, by rw [hs]⟩
  · exact ⟨false, by rw [send_of_body s h]⟩

theorem flush_of_body (s : Subscription) (h : s.body ≠ "") :
    s.flush = (s.told, if s.pending then some s.record else none) := by
  cases hp : s.pending with
  | true =>
    rw [flush, hp, if_pos rfl, notify, send_of_body s h]
    rfl
  | false =>
    have htold : s.told = s := by rw [told, ← hp]
    rw [flush, hp, if_neg (by decide), if_neg (by decide), htold]

theorem expire_of_body (s : Subscription) (h : s.body ≠ "") : s.expire.2 = some s.farewell :=
  congrArg Prod.snd (send_of_body { s with expiresAt := 0, state := .timedOut, pending := true } h)

/-- There is a body to send. -/
def hasBody (s : Subscription) : Bool := s.body != ""

theorem flush_of_blank (s : Subscription) (h : s.body = "") : s.flush = (s, none) := by
  simp only [flush, notify, send, h]
  split <;> rfl

theorem expire_of_blank (s : Subscription) (h : s.body = "") : s.expire.2 = none := by
  simp [expire, notify, send, h]

theorem flush_sent (s : Subscription) :
    s.flush.2 = if s.pending && s.hasBody then some s.record else none := by
  by_cases h : s.body = ""
  · simp [flush_of_blank s h, hasBody, h]
  · simp [flush_of_body s h, hasBody, h]

theorem expire_sent (s : Subscription) :
    s.expire.2 = if s.hasBody then some s.farewell else none := by
  by_cases h : s.body = ""
  · simp [expire_of_blank s h, hasBody, h]
  · simp [expire_of_body s h, hasBody, h]

theorem isExpired_iff (s : Subscription) (now : Int) :
    s.isExpired now = true ↔ s.expiresAt ≠ 0 ∧ s.expiresAt ≤ now := by
  simp [isExpired]

theorem flush_fields (s : Subscription) : ∃ waits, s.flush.1 = { s with pending := waits } := by
  simp only [flush]
  split
  · exact send_fields s
  · exact ⟨s.pending, rfl⟩

theorem render_fields (s : Subscription) (change : Change) (mail : String → Mailbox.Counts) :
    ∃ body waits, body ≠ "" ∧ (s.render change mail).1 =
      { s with kind := s.kind.next, body := body, pending := waits } := by
  simp only [render]
  split
  · next hk => exact ⟨_, true, summary_ne_empty _, by rw [hk]; rfl⟩
  · next version hk =>
    split
    · obtain ⟨waits, hw⟩ := flush_fields { s with
        kind := .dialog (version + 1)
        body := Dialog.document version s.requestUri (s.element? change)
        pending := true }
      exact ⟨_, waits, document_ne_empty _ _ _, by rw [hw, hk]; rfl⟩
    · exact ⟨_, true, document_ne_empty _ _ _, by rw [hk]; rfl⟩

/-! ## Stored subscriptions -/

/-- What holds of each entry of the package's registry. -/
structure Stored (p : Package) (s : Subscription) : Prop where
  package : s.package = p
  resource : resourceOf? s.requestUri = some s.resourceKey
  body : s.body ≠ ""
  life : s.state = .active ∨ s.state = .terminated none ∧ s.expiresAt = 0
  fits : s.expiresAt ≤ Seconds.greatest
  version : s.kind ≠ .dialog 0

theorem Stored.render (p : Package) (s : Subscription) (change : Change)
    (mail : String → Mailbox.Counts) (h : Stored p s) : Stored p (s.render change mail).1 := by
  have hp := package_of_identity _ _ (render_delivers s change mail).same
  obtain ⟨body, waits, hb, hr⟩ := render_fields s change mail
  rw [hr] at hp ⊢
  exact ⟨hp.trans h.package, h.resource, hb, h.life, h.fits, by cases s.kind <;> simp [Kind.next]⟩

theorem Stored.flush (p : Package) (s : Subscription) (h : Stored p s) : Stored p s.flush.1 := by
  obtain ⟨waits, hw⟩ := flush_fields s
  rw [hw]
  exact ⟨h.package, h.resource, h.body, h.life, h.fits, h.version⟩

/-- The first render of a new subscription and its first flush. -/
def opened (s : Subscription) (mail : String → Mailbox.Counts) : Subscription × List Notify :=
  let (rendered, early) := s.render .subscribed mail
  let (flushed, late) := rendered.flush
  (flushed, early.toList ++ late.toList)

theorem opened_eq_perform (s : Subscription) (mail : String → Mailbox.Counts) :
    s.opened mail = s.perform [.render .subscribed mail, .flush] := by
  simp [opened, perform, Operation.apply]

theorem opened_fields (s : Subscription) (mail : String → Mailbox.Counts) :
    ∃ body waits, body ≠ "" ∧
      (s.opened mail).1 = { s with kind := s.kind.next, body := body, pending := waits } := by
  obtain ⟨body, waits, hb, hr⟩ := render_fields s .subscribed mail
  obtain ⟨still, hf⟩ := flush_fields (s.render .subscribed mail).1
  refine ⟨body, still, hb, ?_⟩
  change (s.render .subscribed mail).1.flush.1 = _
  rw [hf, hr]

theorem opened_identity (s : Subscription) (mail : String → Mailbox.Counts) :
    (s.opened mail).1.identity = s.identity := by
  rw [opened_eq_perform]
  exact perform_identity _ s

theorem flush_of_waiting (s : Subscription) (hb : s.body ≠ "") (hp : s.pending = true) :
    s.flush = ({ s with pending := false }, some s.record) := by
  rw [flush_of_body s hb, if_pos hp]
  rfl

theorem render_subscribed (s : Subscription) (mail : String → Mailbox.Counts) :
    ∃ t : Subscription, s.render .subscribed mail = (t, none) ∧ t.body ≠ "" ∧ t.pending = true := by
  have hnone : s.element? .subscribed = none := rfl
  simp only [render, hnone]
  split
  · exact ⟨_, rfl, summary_ne_empty _, rfl⟩
  · next version hk =>
    refine ⟨_, rfl, ?_, rfl⟩
    exact document_ne_empty version s.requestUri none

/-- A new subscription sends one NOTIFY, and that is all there is to tell. -/
theorem opened_told (s : Subscription) (mail : String → Mailbox.Counts) :
    (s.opened mail).2 = [(s.opened mail).1.record] ∧ (s.opened mail).1.pending = false := by
  obtain ⟨t, ht, hb, hp⟩ := render_subscribed s mail
  have ho : s.opened mail = ({ t with pending := false }, [t.record]) := by
    rw [opened, ht]
    simp [flush_of_waiting t hb hp]
  rw [ho]
  exact ⟨rfl, rfl⟩

theorem Stored.opened (r : SubscribeRequest) (p : Package) (policy : Policy) (now : Int)
    (s : Subscription) (mail : String → Mailbox.Counts) (h : ofRequest r p policy now = .ok s) :
    Stored p (s.opened mail).1 := by
  obtain ⟨key, state, last, hkey, hlease, hs⟩ := ofRequest_eq_ok r p policy now s h
  obtain ⟨body, waits, hb, ho⟩ := opened_fields s mail
  have hp := package_of_identity _ _ (opened_identity s mail)
  rw [ho, hs] at hp
  rw [ho, hs]
  have hlife := lease_eq_ok _ _ _ _ hlease
  constructor
  · rw [hp]
    cases p <;> rfl
  · exact hkey
  · exact hb
  · rcases hlife with ⟨-, hs, hl⟩ | ⟨t, -, hs, -, -⟩
    · exact Or.inr ⟨hs, hl⟩
    · exact Or.inl hs
  · rcases hlife with ⟨-, -, hl⟩ | ⟨t, -, -, hl, hfits⟩
    · simp only [hl]
      decide
    · simp only [hl]
      exact hfits.2
  · cases p <;> simp [Kind.start, Kind.next]

/-! ## What is sent names its subscription -/

theorem resource_of_identity (s t : Subscription) (h : s.identity = t.identity)
    (hr : resourceOf? t.requestUri = some t.resourceKey) :
    resourceOf? s.requestUri = some s.resourceKey := by
  have huri := congrArg requestUri h
  have hkey := congrArg resourceKey h
  simp only [identity] at huri hkey
  rw [huri, hkey, hr]

theorem Delivers.key? (s : Subscription) (o : Subscription × Option Notify) (d : Delivers s o)
    (h : resourceOf? s.requestUri = some s.resourceKey) (n : Notify) (hn : o.2 = some n) :
    n.key? = some s.indexKey := by
  obtain ⟨rfl, -, -⟩ := d.sent n hn
  rw [key?_record o.1 (resource_of_identity _ _ d.same h), d.indexKey]

theorem key?_of_mem_opened (s : Subscription) (mail : String → Mailbox.Counts)
    (h : resourceOf? s.requestUri = some s.resourceKey) (n : Notify)
    (hn : n ∈ (s.opened mail).2) : n.key? = some s.indexKey := by
  have hd := render_delivers s .subscribed mail
  simp only [opened, List.mem_append, Option.mem_toList] at hn
  rcases hn with hn | hn
  · exact hd.key? s _ h n hn
  · have hrendered := resource_of_identity _ _ hd.same h
    rw [(flush_delivers _).key? _ _ hrendered n hn, hd.indexKey]

theorem Stored.isResourceKey (p : Package) (s : Subscription) (h : Stored p s) :
    IsResourceKey s.resourceKey :=
  isResourceKey_of_resourceOf? _ _ h.resource

end SipNotifier.Subscription
