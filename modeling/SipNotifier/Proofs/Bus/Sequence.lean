import SipNotifier.Bus
import SipNotifier.Proofs.Router.Steps

/-! The bus one event at a time. Each event that a line or a tick stands for contributes what its
reaction writes: a query the listing of the router that it finds, every other event its NOTIFYs. -/
namespace SipNotifier.Bus
set_option autoImplicit false

/-! ## Events in sequence -/

/-- The router after the events, and everything written. -/
def serve (r : Router) :
    List (Surroundings × Inbound) → Except Seconds.Overflow (Router × List Outbound)
  | [] => .ok (r, [])
  | (w, event) :: rest => do
    let reaction ← r.handle w event
    let (last, others) ← serve reaction.router rest
    return (last, written reaction ++ others)

theorem serve_cons (r last : Router) (w : Surroundings) (event : Inbound)
    (rest : List (Surroundings × Inbound)) (out : List Outbound) :
    serve r ((w, event) :: rest) = .ok (last, out) ↔
      ∃ reaction others, r.handle w event = .ok reaction ∧
        serve reaction.router rest = .ok (last, others) ∧ out = written reaction ++ others := by
  rw [serve]
  cases hr : r.handle w event with
  | error cause => simp [bind, Except.bind]
  | ok reaction =>
    cases hs : serve reaction.router rest with
    | error cause => simp [bind, Except.bind, hs]
    | ok o =>
      simp only [bind, Except.bind, pure, Except.pure, hs, Except.ok.injEq]
      constructor
      · rintro ⟨⟩
        exact ⟨reaction, o.2, rfl, hs, rfl⟩
      · rintro ⟨_, others, rfl, hs', rfl⟩
        rw [hs, Except.ok.injEq] at hs'
        rw [hs']

theorem serve_append (r last : Router) (a b : List (Surroundings × Inbound)) (out : List Outbound) :
    serve r (a ++ b) = .ok (last, out) ↔
      ∃ mid early late, serve r a = .ok (mid, early) ∧ serve mid b = .ok (last, late) ∧
        out = early ++ late := by
  induction a generalizing r out with
  | nil =>
    constructor
    · exact fun h => ⟨r, [], out, rfl, h, rfl⟩
    · rintro ⟨_, _, late, ⟨⟩, hb, rfl⟩
      exact hb
  | cons x a ih =>
    obtain ⟨w, event⟩ := x
    rw [List.cons_append, serve_cons]
    constructor
    · rintro ⟨reaction, others, hr, hs, rfl⟩
      obtain ⟨mid, early, late, ha, hb, rfl⟩ := (ih reaction.router others).mp hs
      exact ⟨mid, _, late, (serve_cons r mid w event a _).mpr ⟨reaction, early, hr, ha, rfl⟩, hb,
        (List.append_assoc ..).symm⟩
    · rintro ⟨mid, early, late, ha, hb, rfl⟩
      obtain ⟨reaction, others, hr, hs, rfl⟩ := (serve_cons r mid w event a early).mp ha
      exact ⟨reaction, others ++ late, hr, (ih reaction.router _).mpr ⟨mid, others, late, hs, hb, rfl⟩,
        List.append_assoc ..⟩

theorem serve_concat {r mid : Router} {fed : List (Surroundings × Inbound)} {out : List Outbound}
    {w : Surroundings} {event : Inbound} {reaction : Router.Reaction}
    (h : serve r fed = .ok (mid, out)) (hr : mid.handle w event = .ok reaction) :
    serve r (fed ++ [(w, event)]) = .ok (reaction.router, out ++ written reaction) := by
  have hone : serve mid [(w, event)] = .ok (reaction.router, written reaction) :=
    (serve_cons mid _ w event [] _).mpr ⟨reaction, [], hr, rfl, (List.append_nil _).symm⟩
  exact (serve_append r _ fed _ _).mpr ⟨mid, out, _, h, hone, rfl⟩

theorem serve_error {r mid : Router} {fed : List (Surroundings × Inbound)} {out : List Outbound}
    {w : Surroundings} {event : Inbound} {cause : Seconds.Overflow}
    (h : serve r fed = .ok (mid, out)) (hr : mid.handle w event = .error cause)
    (rest : List (Surroundings × Inbound)) :
    serve r (fed ++ (w, event) :: rest) = .error cause := by
  induction fed generalizing r out with
  | nil =>
    cases h
    simp [serve, hr, bind, Except.bind]
  | cons x fed ih =>
    obtain ⟨v, first⟩ := x
    obtain ⟨reaction, others, hfirst, hs, rfl⟩ := (serve_cons r mid v first fed out).mp h
    have hrest := ih hs
    simp [serve, hfirst, hrest, bind, Except.bind]

/-- A failure stands, whatever comes behind it. -/
theorem serve_error_mono {r : Router} {fed longer : List (Surroundings × Inbound)}
    {cause : Seconds.Overflow} (h : serve r fed = .error cause) (hfed : fed <+: longer) :
    serve r longer = .error cause := by
  obtain ⟨rest, rfl⟩ := hfed
  induction fed generalizing r with
  | nil => cases h
  | cons x fed ih =>
    obtain ⟨w, event⟩ := x
    cases hr : r.handle w event with
    | error first =>
      simp only [serve, hr, bind, Except.bind, Except.error.injEq] at h
      simp [serve, hr, h, bind, Except.bind]
    | ok reaction =>
      cases hs : serve reaction.router fed with
      | error later =>
        simp only [serve, hr, hs, bind, Except.bind, Except.error.injEq] at h
        subst h
        simp [serve, hr, ih hs, bind, Except.bind]
      | ok o => simp [serve, hr, hs, bind, Except.bind, pure, Except.pure] at h

/-! ## What an event contributes -/

theorem handle_query (r : Router) (w : Surroundings) (text : String)
    (h : r.listing w.now = .ok text) :
    r.handle w .diagnosticQuery = .ok ⟨r, .listed text, []⟩ := by
  simp [Router.handle, h, Except.map]

theorem written_query (r : Router) (w : Surroundings) (reaction : Router.Reaction)
    (h : r.handle w .diagnosticQuery = .ok reaction) :
    ∃ text, r.listing w.now = .ok text ∧ reaction.router = r ∧
      written reaction = [.diagnostics text] := by
  cases Router.handled_of_handle r w _ reaction h with
  | updated _ p key change hc => simp [Router.change?] at hc
  | listed text hl => exact ⟨text, hl, rfl, rfl⟩

theorem subscribe_unlisted (r : Router) (w : Surroundings) (request : SubscribeRequest)
    (reaction : Router.Reaction) (h : r.subscribe w request = .ok reaction) (text : String) :
    reaction.outcome ≠ .listed text := by
  intro hlisted
  simp only [Router.subscribe] at h
  split at h
  · cases h
    cases hlisted
  · split at h
    · cases h
      cases hlisted
    · cases h
    · cases h
      cases hlisted

theorem written_event (r : Router) (w : Surroundings) (event : Inbound)
    (reaction : Router.Reaction) (h : r.handle w event = .ok reaction)
    (he : event ≠ .diagnosticQuery) : written reaction = reaction.sent.map .notify := by
  cases Router.handled_of_handle r w event reaction h with
  | turnedDown request outcome ha ho =>
    have hlisted := subscribe_unlisted r w request _ h
    cases outcome with
    | listed text => exact absurd rfl (hlisted text)
    | _ => rfl
  | listed text hl => exact absurd rfl he
  | _ => rfl

/-- The NOTIFY of an outbound event. -/
def notify? : Outbound → Option Notify
  | .notify n => some n
  | .diagnostics _ => none

theorem notify?_written (r : Router) (w : Surroundings) (event : Inbound)
    (reaction : Router.Reaction) (h : r.handle w event = .ok reaction) :
    (written reaction).filterMap notify? = reaction.sent := by
  by_cases he : event = .diagnosticQuery
  · subst he
    cases Router.handled_of_handle r w _ reaction h with
    | updated _ p key change hc => simp [Router.change?] at hc
    | listed text hl => rfl
  · rw [written_event r w event reaction h he, List.filterMap_map]
    exact List.filterMap_some

theorem run_of_serve (r last : Router) (fed : List (Surroundings × Inbound)) (out : List Outbound)
    (h : serve r fed = .ok (last, out)) : r.run fed = .ok (last, out.filterMap notify?) := by
  induction fed generalizing r out with
  | nil =>
    simp only [serve, Except.ok.injEq, Prod.mk.injEq] at h
    rw [← h.1, ← h.2]
    rfl
  | cons x rest ih =>
    obtain ⟨w, event⟩ := x
    obtain ⟨reaction, others, hr, hs, rfl⟩ := (serve_cons r last w event rest out).mp h
    have hrest := ih reaction.router others hs
    rw [List.filterMap_append, notify?_written r w event reaction hr]
    simp [Router.run, hr, hrest, bind, Except.bind, pure, Except.pure]

/-! ## Lines and ticks -/

/-- The events that inputs stand for, each with what it finds around it. -/
def events (fed : List (Surroundings × Input)) : List (Surroundings × Inbound) :=
  fed.filterMap fun x => x.2.event?.map fun e => (x.1, e)

theorem run_eq_serve (r : Router) (fed : List (Surroundings × Input)) :
    run r fed = serve r (events fed) := by
  induction fed generalizing r with
  | nil => rfl
  | cons x rest ih =>
    obtain ⟨w, input⟩ := x
    cases he : input.event? with
    | none =>
      have hevents : events ((w, input) :: rest) = events rest := by simp [events, he]
      rw [hevents, ← ih r]
      cases hrun : run r rest with
      | error cause => simp [run, step, he, hrun, bind, Except.bind]
      | ok o => simp [run, step, he, hrun, bind, Except.bind, pure, Except.pure]
    | some event =>
      have hevents : events ((w, input) :: rest) = (w, event) :: events rest := by simp [events, he]
      rw [hevents]
      simp only [run, step, he, serve]
      cases r.handle w event with
      | error cause => rfl
      | ok reaction =>
        simp only [Except.map, bind, Except.bind, ih reaction.router]

/-- The inputs that stand for an event, which blank lines and lines that do not decode do not. -/
def effective (inputs : List Input) : List Input := inputs.filter fun i => i.event?.isSome

theorem length_effective (inputs : List Input) :
    (effective inputs).length = (inputs.filterMap Input.event?).length := by
  induction inputs with
  | nil => rfl
  | cons input rest ih => cases he : input.event? <;> simpa [effective, he] using ih

theorem events_zip (ws : List Surroundings) (inputs : List Input) :
    events (ws.zip (effective inputs)) = ws.zip (inputs.filterMap Input.event?) := by
  induction inputs generalizing ws with
  | nil => simp [effective, events]
  | cons input rest ih =>
    cases he : input.event? with
    | none =>
      have hsame : effective (input :: rest) = effective rest := by simp [effective, he]
      rw [hsame, ih ws, List.filterMap_cons_none he]
    | some event =>
      have hsame : effective (input :: rest) = input :: effective rest := by simp [effective, he]
      rw [hsame, List.filterMap_cons_some he]
      cases ws with
      | nil => simp [events]
      | cons w ws => simpa [events, he] using ih ws

end SipNotifier.Bus
