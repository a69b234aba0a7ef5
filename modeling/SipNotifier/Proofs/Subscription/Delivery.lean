import SipNotifier.Subscription

/-! What the operations on a subscription deliver. Each of them changes only the state, the end, the
body, the version and whether the body waits; each either sends the record of the fields it leaves
behind and waits for nothing, or sends nothing and then never stops waiting. Along any sequence of
operations the last NOTIFY is therefore the record of the present fields whenever nothing waits. -/
namespace SipNotifier.Subscription
set_option autoImplicit false

/-! ## Sequences of operations -/

/-- Ends the subscription if its lifetime has run out. -/
def checkExpiry (s : Subscription) (now : Int) : Subscription × Option Notify :=
  if s.isExpired now then s.expire else (s, none)

inductive Operation where
  | render (change : Change) (mail : String → Mailbox.Counts)
  | flush
  | notify (forced : Option State)
  | checkExpiry (now : Int)

def Operation.apply (s : Subscription) : Operation → Subscription × Option Notify
  | .render change mail => s.render change mail
  | .flush => s.flush
  | .notify forced => s.notify forced
  | .checkExpiry now => s.checkExpiry now

/-- The subscription after all operations, and everything they sent. -/
def perform (s : Subscription) : List Operation → Subscription × List Notify
  | [] => (s, [])
  | op :: ops =>
    let (next, out) := op.apply s
    let (last, sent) := next.perform ops
    (last, out.toList ++ sent)

/-! ## What one operation does -/

/-- The fields that are set at the start for good. All others are blank. -/
def identity (s : Subscription) : Subscription :=
  { s with
    kind := .start s.package, state := .active, expiresAt := 0, body := "", pending := false }

theorem identity_package (s : Subscription) : s.identity.package = s.package := by
  cases h : s.kind with
  | mailbox => simp [identity, package, h, Kind.start, Kind.package]
  | dialog version => simp [identity, package, h, Kind.start, Kind.package]

theorem package_of_identity (s t : Subscription) (h : s.identity = t.identity) :
    s.package = t.package := by
  rw [← identity_package s, h, identity_package t]

theorem indexKey_of_identity (s t : Subscription) (h : s.identity = t.identity) :
    s.indexKey = t.indexKey := by
  have hr := congrArg resourceKey h
  have hh := congrArg host h
  have hn := congrArg port h
  simp only [identity] at hr hh hn
  rw [indexKey, indexKey, package_of_identity s t h, hr, hh, hn]

/-- An outcome of an operation: what is sent is the record of the fields left behind, and a
subscription that waits goes on waiting until something is sent. -/
structure Delivers (s : Subscription) (o : Subscription × Option Notify) : Prop where
  same : o.1.identity = s.identity
  sent : ∀ n, o.2 = some n → n = o.1.record ∧ o.1.body ≠ "" ∧ o.1.pending = false
  quiet : o.2 = none → o.1.pending = false → s.pending = false ∧ o.1.record = s.record

theorem Delivers.idle (s : Subscription) : Delivers s (s, none) where
  same := rfl
  sent := by simp
  quiet := fun _ h => ⟨h, rfl⟩

theorem Delivers.of_waiting (s t : Subscription) (o : Subscription × Option Notify)
    (hid : t.identity = s.identity) (hp : t.pending = true) (h : Delivers t o) :
    Delivers s o where
  same := h.same.trans hid
  sent := h.sent
  quiet := by
    intro hn hq
    rw [(h.quiet hn hq).1] at hp
    exact absurd hp (by decide)

theorem Delivers.indexKey (s : Subscription) (o : Subscription × Option Notify)
    (d : Delivers s o) : o.1.indexKey = s.indexKey :=
  indexKey_of_identity _ _ d.same

theorem Delivers.waits (s : Subscription) (o : Subscription × Option Notify) (d : Delivers s o)
    (hn : o.2 = none) (hp : s.pending = true) : o.1.pending = true := by
  cases hq : o.1.pending with
  | true => rfl
  | false =>
    rw [(d.quiet hn hq).1] at hp
    exact absurd hp (by decide)

theorem send_of_body (s : Subscription) (h : s.body ≠ "") :
    s.send = ({ s with pending := false }, some s.record) := by
  have hb : s.body.isEmpty = false := by simpa using h
  rw [send, hb]
  rfl

theorem send_delivers (s : Subscription) : Delivers s s.send := by
  by_cases h : s.body = ""
  · have hs : s.send = (s, none) := by simp [send, h]
    rw [hs]
    exact Delivers.idle s
  · rw [send_of_body s h]
    constructor
    · rfl
    · intro n hn
      simp only [Option.some.injEq] at hn
      subst hn
      exact ⟨rfl, h, rfl⟩
    · intro hn
      simp at hn

theorem notify_delivers (s : Subscription) (forced : Option State) :
    Delivers s (s.notify forced) := by
  cases forced with
  | none => exact send_delivers s
  | some state => exact Delivers.of_waiting s _ _ (by rfl) (by rfl) (send_delivers _)

theorem flush_delivers (s : Subscription) : Delivers s s.flush := by
  simp only [flush]
  split
  · exact notify_delivers s none
  · exact Delivers.idle s

theorem render_delivers (s : Subscription) (change : Change) (mail : String → Mailbox.Counts) :
    Delivers s (s.render change mail) := by
  simp only [render]
  split
  · exact Delivers.of_waiting s _ _ (by rfl) (by rfl) (Delivers.idle _)
  · next version hk =>
    -- The document moves the version on, which is no part of the identity.
    have hid : ∀ body, { s with
        kind := .dialog (version + 1), body := body, pending := true }.identity = s.identity := by
      intro body
      simp [identity, package, hk, Kind.start, Kind.package]
    split
    · exact Delivers.of_waiting s _ _ (hid _) (by rfl) (flush_delivers _)
    · exact Delivers.of_waiting s _ _ (hid _) (by rfl) (Delivers.idle _)

theorem expire_delivers (s : Subscription) : Delivers s s.expire :=
  Delivers.of_waiting s { s with expiresAt := 0, state := .timedOut, pending := true } _ (by rfl)
    (by rfl) (send_delivers _)

theorem apply_delivers (s : Subscription) (op : Operation) : Delivers s (op.apply s) := by
  cases op with
  | render change mail => exact render_delivers s change mail
  | flush => exact flush_delivers s
  | notify forced => exact notify_delivers s forced
  | checkExpiry now =>
    simp only [Operation.apply, checkExpiry]
    split
    · exact expire_delivers s
    · exact Delivers.idle s

/-! ## What a sequence of operations does -/

/-- Where nothing waits, the last NOTIFY of the history is the record of the present fields. -/
def Settled (history : List Notify) (s : Subscription) : Prop :=
  s.pending = false → history.getLast? = some s.record

theorem Settled.of_waiting (history : List Notify) (s : Subscription) (h : s.pending = true) :
    Settled history s := by
  intro hq
  rw [hq] at h
  exact absurd h (by decide)

theorem Settled.step (history : List Notify) (s : Subscription)
    (o : Subscription × Option Notify) (h : Settled history s) (d : Delivers s o) :
    Settled (history ++ o.2.toList) o.1 := by
  intro hq
  cases hn : o.2 with
  | none =>
    obtain ⟨hs, hr⟩ := d.quiet hn hq
    simpa [hr] using h hs
  | some n =>
    obtain ⟨rfl, -, -⟩ := d.sent n hn
    simp

theorem perform_settled (ops : List Operation) (history : List Notify) (s : Subscription)
    (h : Settled history s) : Settled (history ++ (s.perform ops).2) (s.perform ops).1 := by
  -- The history grows by what each operation sends, so it has to vary with the subscription.
  induction ops generalizing history s with
  | nil => simpa [perform] using h
  | cons op ops ih =>
    have hstep := Settled.step history s _ h (apply_delivers s op)
    have hrest := ih _ _ hstep
    rwa [List.append_assoc] at hrest

theorem perform_identity (ops : List Operation) (s : Subscription) :
    (s.perform ops).1.identity = s.identity := by
  induction ops generalizing s with
  | nil => rfl
  | cons op ops ih => exact (ih _).trans (apply_delivers s op).same

theorem perform_waits (ops : List Operation) (s : Subscription) (hn : (s.perform ops).2 = [])
    (hp : s.pending = true) : (s.perform ops).1.pending = true := by
  induction ops generalizing s with
  | nil => exact hp
  | cons op ops ih =>
    simp only [perform, List.append_eq_nil_iff, Option.toList_eq_nil_iff] at hn
    exact ih _ hn.2 ((apply_delivers s op).waits s _ hn.1 hp)

/-- Everything a subscription ever sends has a body and is a record of it in some state. -/
theorem mem_perform (ops : List Operation) (s : Subscription) (n : Notify)
    (h : n ∈ (s.perform ops).2) :
    ∃ t : Subscription, t.identity = s.identity ∧ n = t.record ∧ t.body ≠ "" := by
  induction ops generalizing s with
  | nil => simp [perform] at h
  | cons op ops ih =>
    have hd := apply_delivers s op
    simp only [perform, List.mem_append, Option.mem_toList] at h
    rcases h with h | h
    · obtain ⟨hr, hb, -⟩ := hd.sent n h
      exact ⟨_, hd.same, hr, hb⟩
    · obtain ⟨t, ht, hr, hb⟩ := ih _ h
      exact ⟨t, ht.trans hd.same, hr, hb⟩

end SipNotifier.Subscription
