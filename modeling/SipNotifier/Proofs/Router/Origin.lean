import SipNotifier.Proofs.Router.Delivery

/-! Where the entry under a key comes from. A request sets some fields of its subscription for good
(`Subscription.identity`), so what it settles there (`Lasting`) is true of the entry, and of everything
that is sent for the key, until the next request is accepted for it (`journal_speaks`). -/
namespace SipNotifier.Router
open Subscription
set_option autoImplicit false

/-! ## One event -/

/-- A property of the fields that are set at the start for good. -/
def Lasting (P : Subscription → Prop) : Prop := ∀ s t, t.identity = s.identity → P s → P t

theorem lasting_field {α : Type} (field : Subscription → α) (h : ∀ s, field s.identity = field s)
    (a : α) : Lasting fun s => field s = a := by
  intro s t hsame hs
  rw [← h t, hsame, h s, hs]

/-- The entry, if there is one, has the property, and all that was sent is the record of such an
entry. -/
structure Speaks (P : Subscription → Prop) (held : Option Subscription) (sent : List Notify) :
    Prop where
  held : ∀ s, held = some s → P s
  sent : ∀ n ∈ sent, ∃ s, P s ∧ n = s.record

variable {P : Subscription → Prop}

theorem speaks_opened (hP : Lasting P) (s : Subscription) (hs : P s)
    (mail : String → Mailbox.Counts) : Speaks P (some (s.opened mail).1) (s.opened mail).2 := by
  rw [opened_eq_perform]
  constructor
  · intro t ht
    exact Option.some.inj ht ▸ hP s _ (perform_identity _ s) hs
  · intro n hn
    obtain ⟨t, ht, hrecord, -⟩ := mem_perform _ s n hn
    exact ⟨t, hP s t ht hs, hrecord⟩

theorem speaks_of_delivers (hP : Lasting P) {s : Subscription} (hs : P s)
    {o : Subscription × Option Notify} (h : Delivers s o) : Speaks P (some o.1) o.2.toList := by
  have hlater := hP s o.1 h.same hs
  constructor
  · intro t ht
    exact Option.some.inj ht ▸ hlater
  · intro n hn
    exact ⟨o.1, hlater, (h.sent n (Option.mem_toList.mp hn)).1⟩

variable {policy : Policy} {due : Int} {p : Package} {key : String} {w : Surroundings}
  {event : Inbound}

theorem speaks_slotStep (hP : Lasting P) (held : Option Subscription)
    (hheld : ∀ s, held = some s → P s) (hrep : ∀ s, ¬ Replaces policy p key w event s) :
    Speaks P (slotStep policy due p key w event held).1 (slotStep policy due p key w event held).2 := by
  cases held with
  | none =>
    rw [slotStep_none _ _ _ _ _ _ hrep]
    exact ⟨by simp, by simp⟩
  | some s =>
    rcases slotStep_some policy due p key w event s hrep with ⟨o, ho, he⟩ | he
    · rw [he]
      exact speaks_of_delivers hP (hheld s rfl) ho
    · rw [he]
      exact ⟨by simp, (speaks_of_delivers hP (hheld s rfl) (expire_delivers s)).sent⟩

variable {r : Router} {reaction : Reaction}

theorem Handled.speaks (hd : Handled r w event reaction) (h : r.Sound) (hkey : IsKeyOf p key)
    (hP : Lasting P) (hheld : ∀ s, r.slot p key = some s → P s)
    (hquiet : reaction.outcome.acceptedKey? ≠ some key) :
    Speaks P (reaction.router.slot p key) (reaction.sent.filter (Notify.isFor key)) := by
  have hrep : ∀ s, ¬ Replaces r.policy p key w event s := fun s hs =>
    hquiet ((hd.acceptedKey? p key hkey).mpr ⟨s, hs⟩)
  rw [hd.slot h p key, hd.heard h p key hkey]
  exact speaks_slotStep hP _ hheld hrep

/-- A request that is accepted for the key settles the new entry. -/
theorem Handled.speaks_starts (hd : Handled r w event reaction) (h : r.Sound) (hkey : IsKeyOf p key)
    (ha : reaction.outcome.acceptedKey? = some key) :
    ∃ request s, event = .subscribe request ∧ ofRequest request p r.policy w.now = .ok s ∧
      ∀ P, Lasting P → P s →
        Speaks P (reaction.router.slot p key) (reaction.sent.filter (Notify.isFor key)) := by
  obtain ⟨s, hreplaces⟩ := (hd.acceptedKey? p key hkey).mp ha
  rw [hd.slot h p key, hd.heard h p key hkey, slotStep_replaced _ _ _ _ _ _ s _ hreplaces]
  obtain ⟨request, hevent, haccepted, -⟩ := hreplaces
  exact ⟨request, s, hevent, ofRequest_of_accepted? _ _ _ _ _ haccepted,
    fun P hP hs => speaks_opened hP s hs w.mail⟩

/-! ## Runs -/

theorem journal_policy {policy : Policy} {last : Router} {events : List (Surroundings × Inbound)}
    {log : Log} (hrun : (start policy).journal events = .ok (last, log)) : last.policy = policy :=
  journal_keeps (fun _ r => r.policy = policy) (fun _ _ _ _ _ hr hd => hd.policy.trans hr) events []
    log _ last rfl hrun

theorem journal_speaks {last : Router} {events : List (Surroundings × Inbound)} {log : Log}
    (hrun : r.journal events = .ok (last, log)) (h : r.Sound) (hkey : IsKeyOf p key)
    (hP : Lasting P) (hheld : ∀ s, r.slot p key = some s → P s)
    (hquiet : ∀ z ∈ log, z.2.outcome.acceptedKey? ≠ some key) :
    Speaks P (last.slot p key) (log.sent.filter (Notify.isFor key)) := by
  refine (journal_keeps_while (fun z => z.2.outcome.acceptedKey? ≠ some key)
    (fun seen r => Speaks P (r.slot p key) (seen.sent.filter (Notify.isFor key))) ?_
    events log r last hrun h ⟨hheld, by simp [Log.sent]⟩ hquiet).2
  intro seen r w event reaction hsound hbefore hnow hd
  have hnext := hd.speaks hsound hkey hP hbefore.held hnow
  refine ⟨hnext.held, fun n hn => ?_⟩
  simp only [Log.sent, List.flatMap_append, List.flatMap_cons, List.flatMap_nil, List.append_nil,
    List.filter_append, List.mem_append] at hn
  exact hn.elim (hbefore.sent n) (hnext.sent n)

/-- From a request that is accepted for the key to the next one, all that is sent for it is the record of
an entry that the request has settled. -/
theorem heard_of_request {policy : Policy} {last : Router} {events : List (Surroundings × Inbound)}
    {before between after : Log} {x : (Surroundings × Inbound) × Reaction}
    (hlog : (start policy).journal events = .ok (last, before ++ x :: (between ++ after)))
    (hkey : IsKeyOf p key) (haccepted : x.2.outcome.acceptedKey? = some key)
    (hquiet : ∀ z ∈ between, z.2.outcome.acceptedKey? ≠ some key) :
    ∃ request s, x.1.2 = .subscribe request ∧ ofRequest request p policy x.1.1.now = .ok s ∧
      ∀ P, Lasting P → P s →
        ∀ n ∈ (Log.sent (x :: between)).filter (Notify.isFor key), ∃ t, P t ∧ n = t.record := by
  obtain ⟨r, hbefore, hd, hafter⟩ := journal_at _ _ _ _ _ _ hlog
  have hsound := journal_sound policy _ r before hbefore
  obtain ⟨request, s, hrequest, hs, hstart⟩ := hd.speaks_starts hsound hkey haccepted
  obtain ⟨mid, hbetween, -⟩ := journal_split _ _ _ _ _ hafter
  rw [journal_policy hbefore] at hs
  refine ⟨request, s, hrequest, hs, fun P hP hp n hn => ?_⟩
  have hfirst := hstart P hP hp
  have hlater := journal_speaks hbetween (hd.sound hsound) hkey hP hfirst.held hquiet
  rw [Log.sent, List.flatMap_cons, List.filter_append, List.mem_append] at hn
  exact hn.elim (hfirst.sent n) (hlater.sent n)

/-- A request that is accepted for the key, and one event more, each of which the key hears of. -/
theorem heard_twice (policy : Policy) (key : String) (first second : Surroundings × Inbound)
    (h : ((start policy).journal [first, second]).toOption.map (fun o =>
      o.2.map fun z => (z.2.outcome.acceptedKey?, z.2.sent.map Notify.key?)) =
        some [(some key, [some key]), (none, [some key])]) :
    ∃ last x y n m, (start policy).run [first, second] = .ok (last, [n, m]) ∧
      (start policy).journal [first, second] = .ok (last, [x, y]) ∧ x.1 = first ∧
      x.2.outcome.acceptedKey? = some key ∧ (∀ z ∈ [y], z.2.outcome.acceptedKey? ≠ some key) ∧
      Notify.isFor key n = true ∧ Notify.isFor key m = true ∧
      (Log.sent [x, y]).filter (Notify.isFor key) = [n, m] := by
  obtain ⟨last, log, hrun, hlog, hseen⟩ := run_of_seen (start policy) [first, second]
    (fun _ log => log.map fun z => (z.2.outcome.acceptedKey?, z.2.sent.map Notify.key?)) _ h
  have hinputs := journal_inputs _ _ _ _ hlog
  simp only [List.map_eq_cons_iff, List.map_eq_nil_iff, Prod.mk.injEq] at hseen
  obtain ⟨x, _, rfl, ⟨hx, n, _, hxn, hn, rfl⟩, y, _, rfl, ⟨hy, m, _, hym, hm, rfl⟩, rfl⟩ := hseen
  have hsent : Log.sent [x, y] = [n, m] := by simp [Log.sent, hxn, hym]
  have hfirst : Notify.isFor key n = true := by simp [Notify.isFor, hn]
  have hsecond : Notify.isFor key m = true := by simp [Notify.isFor, hm]
  rw [hsent] at hrun
  refine ⟨last, x, y, n, m, hrun, hlog, (List.cons.inj hinputs).1, hx, by simp [hy], hfirst, hsecond,
    ?_⟩
  rw [hsent]
  simp [hfirst, hsecond]

end SipNotifier.Router
