import SipNotifier.Proofs.Registry.Entries
import SipNotifier.Router.Basic

/-! What one event does to the router. `Handled` lists the cases once, guards included, and
`handled_of_handle` finds the case of an event that was handled. From it come what stays true of
every entry (`Handled.keeps`), when the next sweep is due (`Handled.nextSweep`), and, by induction
over a run, what stays true of every reachable router (`journal_keeps`). -/
namespace SipNotifier.Router
set_option autoImplicit false

def start (policy : Policy) : Router := { policy := policy }

/-! ## The cases -/

/-- The package and the subscription of a request that is accepted. -/
def accepted? (policy : Policy) (now : Int) (request : SubscribeRequest) :
    Option (Package × Subscription) :=
  match Package.negotiate request.event request.accept with
  | .error _ => none
  | .ok p =>
    match Subscription.ofRequest request p policy now with
    | .error _ => none
    | .ok s => some (p, s)

/-- The registry, the resource and the change of an event that lets watchers render. -/
def change? : Inbound → Option (Package × String × Subscription.Change)
  | .mailboxUpdate user => some (.messageSummary, user, .mailbox)
  | .callUpdate external channel call => some (.dialog, external, .call call channel)
  | .channelUpdate id call => some (.dialog, id, .call call none)
  | _ => none

inductive Handled (r : Router) (w : Surroundings) : Inbound → Reaction → Prop
  | enrolled (request : SubscribeRequest) (p : Package) (s : Subscription)
      (h : accepted? r.policy w.now request = some (p, s)) :
      Handled r w (.subscribe request) (r.enroll w p s)
  | turnedDown (request : SubscribeRequest) (outcome : Outcome)
      (h : accepted? r.policy w.now request = none)
      (ho : ∀ key state, outcome ≠ .accepted key state) :
      Handled r w (.subscribe request) ⟨r, outcome, []⟩
  | updated (event : Inbound) (p : Package) (key : String) (change : Subscription.Change)
      (h : change? event = some (p, key, change)) :
      Handled r w event (r.update w p key change)
  | swept (time : Int) (h : r.nextSweep ≤ time) :
      Handled r w (.timerTick time)
        ⟨{ (r.sweep time).1 with nextSweep := Seconds.addClamped time r.policy.sweepInterval },
          .ticked true, (r.sweep time).2⟩
  | ignored (time : Int) (h : time < r.nextSweep) :
      Handled r w (.timerTick time) ⟨r, .ticked false, []⟩
  | listed (text : String) (h : r.listing w.now = .ok text) :
      Handled r w .diagnosticQuery ⟨r, .listed text, []⟩

theorem ofRequest_of_accepted? (policy : Policy) (now : Int) (request : SubscribeRequest)
    (p : Package) (s : Subscription) (h : accepted? policy now request = some (p, s)) :
    Subscription.ofRequest request p policy now = .ok s := by
  simp only [accepted?] at h
  split at h
  · simp at h
  · split at h
    · simp at h
    · next hs =>
      simp only [Option.some.injEq, Prod.mk.injEq] at h
      obtain ⟨rfl, rfl⟩ := h
      exact hs

theorem handled_of_subscribe (r : Router) (w : Surroundings) (request : SubscribeRequest)
    (reaction : Reaction) (h : r.subscribe w request = .ok reaction) :
    Handled r w (.subscribe request) reaction := by
  simp only [subscribe] at h
  split at h
  · next cause hp =>
    simp only [Except.ok.injEq] at h
    subst h
    exact .turnedDown request _ (by simp [accepted?, hp]) (by simp)
  · next p hp =>
    split at h
    · next uri hs =>
      simp only [Except.ok.injEq] at h
      subst h
      exact .turnedDown request _ (by simp [accepted?, hp, hs]) (by simp)
    · simp at h
    · next s hs =>
      simp only [Except.ok.injEq] at h
      subst h
      exact .enrolled request p s (by simp [accepted?, hp, hs])

theorem handled_of_tick (r : Router) (w : Surroundings) (time : Int) :
    Handled r w (.timerTick time) (r.tick time) := by
  simp only [tick]
  split
  · next ht => exact .ignored time ht
  · next ht => exact .swept time (by omega)

theorem handled_of_handle (r : Router) (w : Surroundings) (event : Inbound) (reaction : Reaction)
    (h : r.handle w event = .ok reaction) : Handled r w event reaction := by
  cases event with
  | subscribe request => exact handled_of_subscribe r w request reaction h
  | mailboxUpdate user =>
    simp only [handle, Except.ok.injEq] at h
    exact h ▸ .updated _ _ _ _ rfl
  | callUpdate external channel call =>
    simp only [handle, Except.ok.injEq] at h
    exact h ▸ .updated _ _ _ _ rfl
  | channelUpdate id call =>
    simp only [handle, Except.ok.injEq] at h
    exact h ▸ .updated _ _ _ _ rfl
  | timerTick time =>
    simp only [handle, Except.ok.injEq] at h
    exact h ▸ handled_of_tick r w time
  | diagnosticQuery =>
    simp only [handle] at h
    cases hl : r.listing w.now with
    | error cause => simp [hl, Except.map] at h
    | ok text =>
      simp only [hl, Except.map, Except.ok.injEq] at h
      exact h ▸ .listed text hl

/-! ## The registries afterwards -/

theorem registry_setRegistry (r : Router) (p q : Package) (entries : Registry) :
    (r.setRegistry p entries).registry q = if q = p then entries else r.registry q := by
  cases p <;> cases q <;> rfl

theorem registry_enroll (r : Router) (w : Surroundings) (p q : Package) (s : Subscription) :
    (r.enroll w p s).router.registry q =
      if q = p then (r.registry p).upsert (s.opened w.mail).1 else r.registry q :=
  registry_setRegistry r p q _

theorem registry_update (r : Router) (w : Surroundings) (p q : Package) (key : String)
    (change : Subscription.Change) :
    (r.update w p key change).router.registry q =
      if q = p then ((r.registry p).update key change w.mail).1 else r.registry q :=
  registry_setRegistry r p q _

theorem registry_sweep (r : Router) (time : Int) (p : Package) :
    (r.sweep time).1.registry p = ((r.registry p).sweep time).1.flush.1 := by
  cases p <;> rfl

theorem Handled.policy {r : Router} {w : Surroundings} {event : Inbound} {reaction : Reaction}
    (h : Handled r w event reaction) : reaction.router.policy = r.policy := by
  cases h with
  | enrolled request p s h => cases p <;> rfl
  | turnedDown request outcome h ho => rfl
  | updated event p key change h => cases p <;> rfl
  | swept time h => rfl
  | ignored time h => rfl
  | listed text h => rfl

def dueAfter (policy : Policy) (due : Int) : Inbound → Int
  | .timerTick time => if time < due then due else Seconds.addClamped time policy.sweepInterval
  | _ => due

theorem Handled.nextSweep {r : Router} {w : Surroundings} {event : Inbound} {reaction : Reaction}
    (h : Handled r w event reaction) :
    reaction.router.nextSweep = dueAfter r.policy r.nextSweep event := by
  cases h with
  | enrolled request p s h => cases p <;> rfl
  | turnedDown request outcome h ho => rfl
  | updated event p key change h =>
    cases event <;> simp only [change?, reduceCtorEq, Option.some.injEq] at h <;>
      cases p <;> rfl
  | swept time h => simp [dueAfter, Int.not_lt.mpr h]
  | ignored time h => simp [dueAfter, h]
  | listed text h => rfl

/-! ## Facts about every entry -/

/-- Both registries are in order, and each of their entries has the property. -/
structure Holds (P : Package → Subscription → Prop) (r : Router) : Prop where
  registry : ∀ p, (r.registry p).Holds (P p)

theorem Holds.start (P : Package → Subscription → Prop) (policy : Policy) :
    (start policy).Holds P := by
  constructor
  intro p
  cases p <;> exact ⟨List.nodup_nil, by simp [Router.start, Router.registry]⟩

/-- A property of every entry lasts if a render and a flush keep it and each new entry has it. It
may change with the step, as a bound does that grows. -/
theorem Handled.keeps {r : Router} {w : Surroundings} {event : Inbound} {reaction : Reaction}
    {P Q : Package → Subscription → Prop} (hd : Handled r w event reaction) (h : r.Holds P)
    (hpq : ∀ p s, P p s → Q p s)
    (hrender : ∀ p s change, P p s → Q p (s.render change w.mail).1)
    (hflush : ∀ p s, P p s → Q p s.flush.1)
    (hnew : ∀ request p s, Subscription.ofRequest request p r.policy w.now = .ok s →
      Q p (s.opened w.mail).1) : reaction.router.Holds Q := by
  have hsame : r.Holds Q := ⟨fun p => (h.registry p).mono (hpq p)⟩
  cases hd with
  | enrolled request p s ha =>
    constructor
    intro q
    rw [registry_enroll]
    split
    · next hq =>
      subst hq
      exact (hsame.registry q).upsert _ (hnew request q s (ofRequest_of_accepted? _ _ _ _ _ ha))
    · exact hsame.registry q
  | turnedDown request outcome ha ho => exact hsame
  | updated event p key change hc =>
    constructor
    intro q
    rw [registry_update]
    split
    · next hq =>
      subst hq
      have hdelivers := Registry.refresh_delivers key change w.mail
      rw [Registry.update_eq_forEach]
      refine (h.registry q).forEach _ (fun s => (hdelivers s).indexKey) ?_
      intro s hs
      simp only [Registry.refresh]
      split
      · exact hrender q s change hs
      · exact hpq q s hs
    · exact hsame.registry q
  | swept time ht =>
    constructor
    intro q
    change ((r.sweep time).1.registry q).Holds (Q q)
    rw [registry_sweep]
    exact ((h.registry q).sweep time).forEach _ Subscription.flush_indexKey (hflush q)
  | ignored time ht => exact hsame
  | listed text hl => exact hsame

/-! ## Runs -/

/-- What a run met, one entry for each event: what was around it, and the reaction. -/
abbrev Log := List ((Surroundings × Inbound) × Reaction)

/-- The router after a run of events, with the log of the run. -/
def journal (r : Router) :
    List (Surroundings × Inbound) → Except Seconds.Overflow (Router × Log)
  | [] => .ok (r, [])
  | (w, event) :: rest => do
    let reaction ← r.handle w event
    let (last, later) ← reaction.router.journal rest
    return (last, ((w, event), reaction) :: later)

def Log.sent (log : Log) : List Notify := log.flatMap fun entry => entry.2.sent

theorem journal_cons (r : Router) (w : Surroundings) (event : Inbound)
    (rest : List (Surroundings × Inbound)) (last : Router) (log : Log) :
    r.journal ((w, event) :: rest) = .ok (last, log) ↔
      ∃ reaction later, r.handle w event = .ok reaction ∧
        reaction.router.journal rest = .ok (last, later) ∧
        log = ((w, event), reaction) :: later := by
  simp only [journal]
  cases hr : r.handle w event with
  | error cause => simp [bind, Except.bind]
  | ok reaction =>
    cases hl : reaction.router.journal rest with
    | error cause => simp [bind, Except.bind, hl]
    | ok o =>
      obtain ⟨router, later⟩ := o
      simp [bind, Except.bind, pure, Except.pure, hl, eq_comm, and_assoc]

theorem run_eq_journal (r : Router) (events : List (Surroundings × Inbound)) :
    r.run events = (r.journal events).map fun o => (o.1, o.2.sent) := by
  induction events generalizing r with
  | nil => rfl
  | cons x rest ih =>
    obtain ⟨w, event⟩ := x
    simp only [run, journal]
    cases hr : r.handle w event with
    | error cause => rfl
    | ok reaction =>
      simp only [bind, Except.bind, ih]
      cases reaction.router.journal rest with
      | error cause => rfl
      | ok o => rfl

theorem run_eq_ok (r last : Router) (events : List (Surroundings × Inbound)) (sent : List Notify)
    (h : r.run events = .ok (last, sent)) :
    ∃ log, r.journal events = .ok (last, log) ∧ sent = log.sent := by
  rw [run_eq_journal] at h
  cases hj : r.journal events with
  | error cause => simp [hj, Except.map] at h
  | ok o =>
    simp only [hj, Except.map, Except.ok.injEq, Prod.mk.injEq] at h
    exact ⟨o.2, by rw [← h.1], h.2.symm⟩

theorem journal_inputs (r last : Router) (events : List (Surroundings × Inbound)) (log : Log)
    (h : r.journal events = .ok (last, log)) : log.map Prod.fst = events := by
  induction events generalizing r log with
  | nil =>
    simp only [journal, Except.ok.injEq, Prod.mk.injEq] at h
    rw [← h.2]
    rfl
  | cons x rest ih =>
    obtain ⟨w, event⟩ := x
    obtain ⟨reaction, later, -, hl, rfl⟩ := (journal_cons r w event rest last log).mp h
    rw [List.map_cons, ih _ _ hl]

/-- A run goes through the router that stands at any place of its log. -/
theorem journal_split (r last : Router) (events : List (Surroundings × Inbound))
    (before after : Log) (h : r.journal events = .ok (last, before ++ after)) :
    ∃ mid, r.journal (before.map Prod.fst) = .ok (mid, before) ∧
      mid.journal (after.map Prod.fst) = .ok (last, after) := by
  induction before generalizing r events with
  | nil =>
    have hinputs := journal_inputs r last events _ h
    rw [List.nil_append] at h hinputs
    exact ⟨r, rfl, by rw [hinputs, h]⟩
  | cons entry before ih =>
    cases events with
    | nil => simp [journal] at h
    | cons x rest =>
      obtain ⟨w, event⟩ := x
      obtain ⟨reaction, later, hr, hl, he⟩ := (journal_cons r w event rest last _).mp h
      rw [List.cons_append, List.cons.injEq] at he
      obtain ⟨rfl, rfl⟩ := he
      obtain ⟨mid, hmid, hlast⟩ := ih reaction.router rest hl
      exact ⟨mid, (journal_cons r w event _ mid _).mpr ⟨reaction, before, hr, hmid, rfl⟩, hlast⟩

/-- An event of the log was handled by the router that the events in front of it lead to. -/
theorem journal_at (r last : Router) (events : List (Surroundings × Inbound))
    (before after : Log) (x : (Surroundings × Inbound) × Reaction)
    (h : r.journal events = .ok (last, before ++ x :: after)) :
    ∃ mid, r.journal (before.map Prod.fst) = .ok (mid, before) ∧ Handled mid x.1.1 x.1.2 x.2 ∧
      x.2.router.journal (after.map Prod.fst) = .ok (last, after) := by
  obtain ⟨⟨w, event⟩, reaction⟩ := x
  obtain ⟨mid, hmid, hrest⟩ := journal_split r last events before _ h
  obtain ⟨_, _, hr, hafter, hsame⟩ := (journal_cons mid w event _ last _).mp hrest
  simp only [List.cons.injEq, Prod.mk.injEq, true_and] at hsame
  obtain ⟨rfl, rfl⟩ := hsame
  exact ⟨mid, hmid, handled_of_handle mid w event reaction hr, hafter⟩

/-- What every handled event keeps, given the log so far, holds after a run. -/
theorem journal_keeps (I : Log → Router → Prop)
    (hstep : ∀ log r w event reaction, I log r → Handled r w event reaction →
      I (log ++ [((w, event), reaction)]) reaction.router)
    (events : List (Surroundings × Inbound)) (log later : Log) (r last : Router) (h : I log r)
    (hrun : r.journal events = .ok (last, later)) : I (log ++ later) last := by
  induction events generalizing log later r with
  | nil =>
    simp only [journal, Except.ok.injEq, Prod.mk.injEq] at hrun
    obtain ⟨rfl, rfl⟩ := hrun
    rwa [List.append_nil]
  | cons x rest ih =>
    obtain ⟨w, event⟩ := x
    obtain ⟨reaction, more, hr, hl, rfl⟩ := (journal_cons r w event rest last later).mp hrun
    have hnext := hstep log r w event reaction h (handled_of_handle r w event reaction hr)
    have hlast := ih _ more reaction.router hnext hl
    rwa [List.append_assoc] at hlast

/-! ## Stored entries -/

/-- Every entry is as it is stored. -/
abbrev Sound (r : Router) : Prop := r.Holds Subscription.Stored

theorem Handled.sound {r : Router} {w : Surroundings} {event : Inbound} {reaction : Reaction}
    (hd : Handled r w event reaction) (h : r.Sound) : reaction.router.Sound :=
  hd.keeps h (fun _ _ hs => hs) (fun p s change hs => hs.render p s change w.mail)
    (fun p s hs => hs.flush p s)
    fun request p s hs => Subscription.Stored.opened request p r.policy w.now s w.mail hs

theorem journal_sound (policy : Policy) (events : List (Surroundings × Inbound)) (last : Router)
    (log : Log) (h : (start policy).journal events = .ok (last, log)) : last.Sound :=
  journal_keeps (fun _ r => r.Sound) (fun _ _ _ _ _ hs hd => hd.sound hs) events [] log _ last
    (Holds.start _ policy) h

/-- What every handled event of some kind keeps, given the log so far, holds after a run from a sound
router that meets no event of another kind. -/
theorem journal_keeps_while (Q : (Surroundings × Inbound) × Reaction → Prop) (I : Log → Router → Prop)
    (hstep : ∀ log r w event reaction, r.Sound → I log r → Q ((w, event), reaction) →
      Handled r w event reaction → I (log ++ [((w, event), reaction)]) reaction.router)
    (events : List (Surroundings × Inbound)) (log : Log) (r last : Router)
    (hrun : r.journal events = .ok (last, log)) (hr : r.Sound) (h : I [] r)
    (hlog : ∀ z ∈ log, Q z) : last.Sound ∧ I log last := by
  have hkeeps := journal_keeps (fun seen r => (∀ z ∈ seen, Q z) → r.Sound ∧ I seen r)
    (by
      intro seen r w event reaction hseen hd hall
      obtain ⟨hsound, hbefore⟩ := hseen fun z hz => hall z (List.mem_append_left _ hz)
      have hnow := hall ((w, event), reaction) (by simp)
      exact ⟨hd.sound hsound, hstep seen r w event reaction hsound hbefore hnow hd⟩)
    events [] log r last (fun _ => ⟨hr, h⟩) hrun
  rw [List.nil_append] at hkeeps
  exact hkeeps hlog

/-! ## Runs to look at -/

/-- A request with the headers of a package, in a dialog that is always the same. -/
def sampleRequest (p : Package) (uri host : String) (expires : Option Int) : SubscribeRequest :=
  ⟨p.name, p.mediaType, uri, "<sip:bob@pbx>;tag=b0b", "<sip:100@pbx>", "cid-1",
    "<sip:bob@198.51.100.7:5060>", expires, host, 5060, none⟩

theorem journal_log {r last other : Router} {events : List (Surroundings × Inbound)} {log log' : Log}
    (h : r.journal events = .ok (last, log)) (h' : r.journal events = .ok (other, log')) :
    log = log' := by
  rw [h, Except.ok.injEq, Prod.mk.injEq] at h'
  exact h'.2

/-- A run has an outcome if something can be seen of it. -/
theorem run_of_seen {α : Type} (r : Router) (events : List (Surroundings × Inbound))
    (see : Router → Log → α) (seen : α)
    (h : (r.journal events).toOption.map (fun o => see o.1 o.2) = some seen) :
    ∃ last log, r.run events = .ok (last, log.sent) ∧ r.journal events = .ok (last, log) ∧
      see last log = seen := by
  rw [run_eq_journal]
  cases hlog : r.journal events with
  | error cause =>
    rw [hlog] at h
    cases h
  | ok o =>
    rw [hlog] at h
    exact ⟨o.1, o.2, rfl, rfl, Option.some.inj h⟩

end SipNotifier.Router
