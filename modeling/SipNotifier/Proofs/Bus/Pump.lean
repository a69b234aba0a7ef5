import SipNotifier.Proofs.Bus.Framing
import SipNotifier.Proofs.Bus.Ledger

/-! The pump against the sequence of its inputs. Whatever the schedule and whatever room the queue
has, a pump that has come to its end without a failure has written what the inputs that it read lead
to one after the other. It reads all of them unless it is asked to shut down. -/
namespace SipNotifier.Bus
set_option autoImplicit false

/-! ## Whole schedules -/

def Pump.Move.met? : Pump.Move → Option Surroundings
  | .turn w => some w
  | _ => none

/-- What the turns of a schedule find around them. -/
def met (moves : List Pump.Move) : List Surroundings := moves.filterMap Pump.Move.met?

/-- What the loop has taken of its inputs. -/
def Pump.read (p : Pump) (inputs : List Input) : List Input :=
  inputs.take (inputs.length - p.inputs.length)

/-- The inputs that stand for an event, each with what the task finds in the turn it takes it. -/
def fed (moves : List Pump.Move) (inputs : List Input) : List (Surroundings × Input) :=
  (met moves).zip (effective inputs)

variable {router : Router} {inputs : List Input} {ws : List Surroundings} {p q last : Pump}

theorem read_eq {read : List Input} (h : read ++ p.inputs = inputs) : p.read inputs = read := by
  simp [Pump.read, ← h]

theorem zip_append_left (ws : List Surroundings) (a b : List Inbound) :
    ws.zip a <+: ws.zip (a ++ b) := by
  induction ws generalizing a with
  | nil => exact List.prefix_rfl
  | cons w ws ih =>
    cases a with
    | nil => exact List.nil_prefix
    | cons e a => exact List.cons_prefix_cons.mpr ⟨rfl, ih a⟩

theorem Failed.moved {m : Pump.Move} (h : Failed router inputs ws p) (hm : Moved p m q) :
    Failed router inputs (ws ++ m.met?.toList) q := by
  obtain ⟨cause, read, hs, hread, hserve⟩ := h
  -- The loop may still read on, up to a command that the task is needed for.
  obtain ⟨more, hmore⟩ := hm.inputs
  have hlater : serve router (ws.zip ((read ++ more).filterMap Input.event?)) = .error cause := by
    rw [List.filterMap_append]
    exact serve_error_mono hserve (zip_append_left ws _ _)
  have hall : (read ++ more) ++ q.inputs = inputs := by rw [List.append_assoc, hmore, hread]
  have hnot (hruns : p.task.status = .running) : False := by
    rw [hs] at hruns
    cases hruns
  cases hm with
  | handled w e rest reaction hruns => exact (hnot hruns).elim
  | listed w ticket rest text hruns => exact (hnot hruns).elim
  | stopped w rest hruns => exact (hnot hruns).elim
  | failed w c rest e cause hruns => exact (hnot hruns).elim
  | _ => exact ⟨cause, _, hs, hall, by simpa [Pump.Move.met?] using hlater⟩

theorem Kept.moved {m : Pump.Move} (h : Kept router inputs ws p) (hm : Moved p m q) :
    Kept router inputs (ws ++ m.met?.toList) q ∨ Failed router inputs (ws ++ m.met?.toList) q := by
  cases m with
  | turn w => exact h.turn hm
  | loop => exact Or.inl (by simpa [Pump.Move.met?] using h.loop hm)
  | interrupt => exact Or.inl (by simpa [Pump.Move.met?] using h.interrupt hm)
  | push => exact Or.inl (by simpa [Pump.Move.met?] using h.push hm)
  | write => exact Or.inl (by simpa [Pump.Move.met?] using h.write hm)

theorem kept_run (moves : List Pump.Move)
    (h : Kept router inputs ws p ∨ Failed router inputs ws p) (hrun : p.run? moves = some last) :
    Kept router inputs (ws ++ met moves) last ∨ Failed router inputs (ws ++ met moves) last := by
  -- What the turns have met so far grows along the run, so it is generalised.
  induction moves generalizing ws p with
  | nil =>
    cases hrun
    simpa [met] using h
  | cons m moves ih =>
    obtain ⟨q, hstep, hrest⟩ := Option.bind_eq_some_iff.mp hrun
    have hm := moved_of_step? p q m hstep
    have hmet : ws ++ met (m :: moves) = (ws ++ m.met?.toList) ++ met moves := by
      cases hw : m.met? <;> simp [met, hw]
    rw [hmet]
    refine ih ?_ hrest
    rcases h with hkept | hfailed
    · exact hkept.moved hm
    · exact Or.inr (hfailed.moved hm)

/-! ## The end -/

theorem turn?_eq_none_iff (w : Surroundings) : p.turn? w = none ↔
    ¬ (p.task.status = .running ∧ p.task.queue ≠ [] ∧ p.outbox = []) := by
  rw [Pump.turn?]
  split
  · next h => simp [h]
  · next h => simp [h]

theorem push?_eq_none_iff : p.push? = none ↔ p.outbox = [] := by
  unfold Pump.push?
  split
  · next ho => simp [ho]
  · next n rest ho => simp [ho]

theorem write?_eq_none_iff : p.write? = none ↔ p.channel = [] := by
  unfold Pump.write?
  split
  · next hc => simp [hc]
  · next e rest hc => simp [hc]

/-- A pump in which no party can move is closed, and everything is written. -/
theorem Kept.closed (h : Kept router inputs ws p) (hends : ∀ m, p.step? m = none) :
    p.place = .closed ∧ p.Over ∧ p.channel = [] := by
  have hloop : p.loop? = none := hends .loop
  have ho : p.outbox = [] := push?_eq_none_iff.mp (hends .push)
  have hc : p.channel = [] := write?_eq_none_iff.mp (hends .write)
  -- A task that runs has an empty queue here, or else it could take a turn.
  have hidle (hs : p.task.status = .running) : p.task.queue = [] := by
    have hturn := (turn?_eq_none_iff _).mp (hends (.turn ⟨0, fun _ => {}⟩))
    exact Classical.byContradiction fun hq => hturn ⟨hs, hq, ho⟩
  cases hp : p.place with
  | reading =>
    simp only [Pump.loop?, hp] at hloop
    cases hloop
  | sending c =>
    obtain ⟨hs, -⟩ := h.stage.at hp
    have hroom : p.task.queue.length < p.task.capacity := by
      rw [hidle hs]
      exact h.room
    have hsend := (Router.Task.enqueue?_eq_some_iff c).mpr ⟨hs, hroom, rfl⟩
    simp only [Pump.loop?, hp, Pump.send?, hsend] at hloop
    cases hloop
  | awaiting ticket =>
    obtain ⟨hs, ⟨hwaits, -⟩ | ⟨-, -, text, htext⟩⟩ := h.stage.at hp
    · exact absurd (hidle hs) hwaits.ne_nil
    · simp only [Pump.loop?, hp, Pump.receive?, htext] at hloop
      cases hloop
  | joining =>
    rcases h.stage.at hp with ⟨hs, hwaits⟩ | hover
    · exact absurd (hidle hs) hwaits.ne_nil
    · simp only [Pump.loop?, hp, Pump.join?, hover.1] at hloop
      cases hloop
  | closed => exact ⟨rfl, h.stage.at hp, hc⟩
  | _ => exact (h.stage.at hp).elim

theorem step?_of_closed (hp : p.place = .closed) (hover : p.Over) (hc : p.channel = [])
    (m : Pump.Move) : p.step? m = none := by
  obtain ⟨hs, -, ho⟩ := hover
  cases m with
  | loop => simp [Pump.step?, Pump.loop?, hp]
  | interrupt => simp [Pump.step?, Pump.interrupt?, hp]
  | turn w => exact (turn?_eq_none_iff w).mpr (by simp [hs])
  | push => exact push?_eq_none_iff.mpr ho
  | write => exact write?_eq_none_iff.mpr hc

/-- At its end the pump has come to what the sequence of what was read comes to, or both have
failed. -/
theorem ended (router : Router) (capacity : Nat) (inputs : List Input) (moves : List Pump.Move)
    (last : Pump) (hrun : (Pump.start router capacity inputs).run? moves = some last)
    (hends : ∀ m, last.step? m = none) :
    last.read inputs ++ last.inputs = inputs ∧
    ((∃ emitted, run router (fed moves (last.read inputs)) = .ok (last.task.router, emitted) ∧
        last.output = output emitted ∧ last.place = .closed ∧
        (effective (last.read inputs)).length ≤ (met moves).length) ∨
      ∃ cause, last.task.status = .failed cause ∧
        run router (fed moves (last.read inputs)) = .error cause) := by
  have hevents (read : List Input) : events (fed moves read) =
      (met moves).zip (read.filterMap Input.event?) := events_zip _ _
  rcases kept_run moves (Or.inl (Kept.start router capacity inputs)) hrun with hkept | hfailed
  · obtain ⟨hp, ⟨hs, hq, ho⟩, hc⟩ := hkept.closed hends
    obtain ⟨seen, emitted, haccount⟩ := hkept.account
    obtain ⟨read, hread⟩ := hkept.left
    have hseen : read.filterMap Input.event? = seen := by
      rw [haccount.read hread]
      simp [Place.event?, hp, hq]
    have hdue : last.due = [] := by simp [Pump.due, Pump.owed, hp, ho, hc]
    have hserved := haccount.served
    have henough := haccount.enough
    rw [hdue, List.append_nil] at hserved
    rw [read_eq hread, run_eq_serve, hevents, hseen, length_effective, hseen]
    exact ⟨hread, Or.inl ⟨emitted, hserved, haccount.output, hp, henough⟩⟩
  · obtain ⟨cause, read, hs, hread, hserve⟩ := hfailed
    rw [read_eq hread, run_eq_serve, hevents]
    exact ⟨hread, Or.inr ⟨cause, hs, hserve⟩⟩

/-- What the sequence gets through no schedule of it fails at. -/
theorem ended_of_run (router : Router) (capacity : Nat) (inputs : List Input)
    (moves : List Pump.Move) (last : Pump)
    (hrun : (Pump.start router capacity inputs).run? moves = some last)
    (hends : ∀ m, last.step? m = none) {final : Router} {emitted : List Outbound}
    (hemitted : run router (fed moves (last.read inputs)) = .ok (final, emitted)) :
    last.output = output emitted ∧ last.task.router = final := by
  obtain ⟨-, ⟨emitted', hemitted', houtput, -⟩ | ⟨cause, -, herror⟩⟩ :=
    ended router capacity inputs moves last hrun hends
  · rw [hemitted] at hemitted'
    cases hemitted'
    exact ⟨houtput, rfl⟩
  · rw [hemitted] at herror
    cases herror

/-- Unless it is asked to shut down, the loop leaves no input unread. -/
theorem drained (moves : List Pump.Move) (hrun : p.run? moves = some last)
    (hmoves : Pump.Move.interrupt ∉ moves) (hp : p.place.Leaving → p.inputs = [])
    (hlast : last.place.Leaving) : last.inputs = [] := by
  induction moves generalizing p with
  | nil =>
    cases hrun
    exact hp hlast
  | cons m moves ih =>
    obtain ⟨q, hstep, hrest⟩ := Option.bind_eq_some_iff.mp hrun
    obtain ⟨hm, hmoves⟩ := List.ne_and_not_mem_of_not_mem_cons hmoves
    exact ih hrest hmoves ((moved_of_step? p q m hstep).drained hm.symm hp)

/-! ## Shutting down early -/

theorem unread_of_past (moves : List Pump.Move) (hrun : p.run? moves = some last)
    (hp : p.place.Past) : last.inputs = p.inputs := by
  induction moves generalizing p with
  | nil =>
    cases hrun
    rfl
  | cons m moves ih =>
    obtain ⟨q, hstep, hrest⟩ := Option.bind_eq_some_iff.mp hrun
    obtain ⟨hq, hinputs⟩ := (moved_of_step? p q m hstep).past hp
    exact (ih hrest hq).trans hinputs

/-- What was unread when the loop was asked to shut down stays unread. -/
theorem unread_of_interrupt (before after : List Pump.Move)
    (hrun : p.run? (before ++ .interrupt :: after) = some last) :
    ∃ q, p.run? before = some q ∧ q.place = .reading ∧ last.inputs = q.inputs := by
  induction before generalizing p with
  | nil =>
    obtain ⟨q, hstep, hrest⟩ := Option.bind_eq_some_iff.mp hrun
    cases moved_of_step? p q _ hstep with
    | interrupted hp =>
      have hunread := unread_of_past after hrest trivial
      exact ⟨p, rfl, hp, hunread⟩
  | cons m before ih =>
    obtain ⟨q, hstep, hrest⟩ := Option.bind_eq_some_iff.mp hrun
    obtain ⟨asked, hbefore, hreading, hinputs⟩ := ih hrest
    exact ⟨asked, Option.bind_eq_some_iff.mpr ⟨q, hstep, hbefore⟩, hreading, hinputs⟩

/-- A bus that is asked to shut down before its first input writes nothing. -/
theorem silent_of_interrupt (router : Router) (capacity : Nat) (inputs : List Input)
    (moves : List Pump.Move) (last : Pump)
    (hrun : (Pump.start router capacity inputs).run? (.interrupt :: moves) = some last)
    (hends : ∀ m, last.step? m = none) :
    last.place = .closed ∧ last.output = [] ∧ last.task.router = router := by
  obtain ⟨_, ⟨⟩, -, hinputs⟩ := unread_of_interrupt [] moves hrun
  have hunread : last.inputs = inputs := hinputs
  obtain ⟨hread, hended⟩ := ended router capacity inputs _ last hrun hends
  have hnone : last.read inputs = [] := by simpa [hunread] using hread
  simp only [hnone, fed, effective, List.filter_nil, List.zip_nil_right, run] at hended
  rcases hended with ⟨emitted, hemitted, houtput, hp, -⟩ | ⟨cause, -, ⟨⟩⟩
  cases hemitted
  exact ⟨hp, houtput, rfl⟩

/-! ## The sequence -/

/-- An event in a run stands between what the events in front of it lead to and what those behind
it lead to. -/
theorem run_at (r last : Router) (fed pre post : List (Surroundings × Input)) (w : Surroundings)
    (input : Input) (event : Inbound) (emitted : List Outbound)
    (hrun : run r fed = .ok (last, emitted)) (hfed : fed = pre ++ (w, input) :: post)
    (he : input.event? = some event) :
    ∃ mid early reaction late, run r pre = .ok (mid, early) ∧
      mid.handle w event = .ok reaction ∧ run reaction.router post = .ok (last, late) ∧
      emitted = early ++ (written reaction ++ late) := by
  have hevents : events fed = events pre ++ (w, event) :: events post := by
    simp [hfed, events, he]
  rw [run_eq_serve, hevents] at hrun
  obtain ⟨mid, early, rest, hpre, hpost, rfl⟩ := (serve_append r last _ _ emitted).mp hrun
  obtain ⟨reaction, late, hr, hlate, rfl⟩ := (serve_cons mid last w event _ rest).mp hpost
  exact ⟨mid, early, reaction, late, run_eq_serve r pre ▸ hpre, hr,
    run_eq_serve reaction.router post ▸ hlate, rfl⟩

theorem fed_isSome (moves : List Pump.Move) (inputs : List Input) (x : Surroundings × Input)
    (hx : x ∈ fed moves inputs) : ∃ event, x.2.event? = some event := by
  have hmem := (List.of_mem_zip hx).2
  exact Option.isSome_iff_exists.mp (List.mem_filter.mp hmem).2

theorem zip_fst (ws : List Surroundings) (inputs : List Input) :
    ((ws.zip inputs).map Prod.fst).zip inputs = ws.zip inputs := by
  induction ws generalizing inputs with
  | nil => rfl
  | cons w ws ih => cases inputs <;> simp [ih]

theorem effective_insert (before after : List Input) (text : String)
    (h : Text.trim text.toList = [] ∨
      ∃ cause, Inbound.decode (String.ofList (Text.trim text.toList)) = .error cause) :
    effective (before ++ .line text :: after) = effective (before ++ after) := by
  have hnone : (Input.line text).event? = none := by
    simp only [Input.event?, readLine]
    rcases h with hblank | ⟨cause, herror⟩
    · simp [hblank, Except.toOption]
    · split
      · rfl
      · rw [herror]
        rfl
  simp [effective, hnone]

/-- Every schedule ends, and one that ends without a failure has closed the bus. What is written
then are the encodings of what the router emits that is given the ticks and the lines that decode
one after the other. Those are all that were read, which are all inputs, or the ones that had been
read when the loop was asked to shut down. -/
theorem pump_sequential (router : Router) (capacity : Nat) (inputs : List Input)
    (moves : List Pump.Move) (last : Pump)
    (hrun : (Pump.start router capacity inputs).run? moves = some last)
    (hends : ∀ m, last.step? m = none) (hsafe : ∀ cause, last.task.status ≠ .failed cause) :
    let read := last.read inputs
    let sequence := fed moves read
    Acc (fun q p => ∃ m, p.step? m = some q) (Pump.start router capacity inputs) ∧
    read ++ last.inputs = inputs ∧
    (Pump.Move.interrupt ∉ moves → read = inputs) ∧
    (∀ before after, moves = before ++ .interrupt :: after →
      ∃ asked, (Pump.start router capacity inputs).run? before = some asked ∧
        asked.place = .reading ∧ last.inputs = asked.inputs) ∧
    ∃ emitted,
      run router sequence = .ok (last.task.router, emitted) ∧
      last.output = output emitted ∧
      lines? last.output = some (emitted.map Outbound.encode) ∧
      last.place = .closed ∧
      sequence.map Prod.snd = effective read ∧
      router.run (events sequence) = .ok (last.task.router, emitted.filterMap notify?) ∧
      (∀ pre w input post, sequence = pre ++ (w, input) :: post →
        ∃ mid early event reaction late,
          run router pre = .ok (mid, early) ∧
          input.event? = some event ∧ mid.handle w event = .ok reaction ∧
          run reaction.router post = .ok (last.task.router, late) ∧
          emitted = early ++ (written reaction ++ late) ∧
          (event = .diagnosticQuery → reaction.router = mid ∧
            ∃ text, mid.listing w.now = .ok text ∧ written reaction = [.diagnostics text]) ∧
          (event ≠ .diagnosticQuery → written reaction = reaction.sent.map .notify)) ∧
      (∀ text : String, ∃ lines, lines? text.toUTF8.data.toList = some lines) ∧
      (∀ before after text, (Text.trim text.toList = [] ∨
          ∃ cause, Inbound.decode (String.ofList (Text.trim text.toList)) = .error cause) →
        effective (before ++ .line text :: after) = effective (before ++ after)) ∧
      ∀ capacity' inputs' moves' last',
        (Pump.start router capacity' inputs').run? moves' = some last' →
        (∀ m, last'.step? m = none) → effective (last'.read inputs') = effective read →
        (fed moves' (last'.read inputs')).map Prod.fst = sequence.map Prod.fst →
        last'.output = last.output ∧ last'.task.router = last.task.router := by
  intro read sequence
  obtain ⟨hread, hemitted | ⟨cause, hfailed, -⟩⟩ :=
    ended router capacity inputs moves last hrun hends
  case inr => exact absurd hfailed (hsafe cause)
  obtain ⟨emitted, hemitted, houtput, hp, henough⟩ := hemitted
  refine ⟨moves_end.apply _, hread, ?all, ?unread, emitted, hemitted, houtput, ?lines, hp, ?taken,
    ?router, ?within, ?text, ?skipped, ?same⟩
  case all =>
    intro hmoves
    have hstart : (Pump.start router capacity inputs).place.Leaving →
        (Pump.start router capacity inputs).inputs = [] := nofun
    have hnone := drained moves hrun hmoves hstart (by rw [hp]; trivial)
    rwa [hnone, List.append_nil] at hread
  case unread =>
    rintro before after rfl
    exact unread_of_interrupt before after hrun
  case lines => rw [houtput, lines?_output]
  case taken => exact List.map_snd_zip henough
  case router => exact run_of_serve router _ _ emitted (run_eq_serve router sequence ▸ hemitted)
  case within =>
    intro pre w input post hsequence
    obtain ⟨event, he⟩ := fed_isSome moves read (w, input) (by
      change (w, input) ∈ sequence
      simp [hsequence])
    obtain ⟨mid, early, reaction, late, hpre, hr, hlate, hsplit⟩ :=
      run_at router _ sequence pre post w input event emitted hemitted hsequence he
    refine ⟨mid, early, event, reaction, late, hpre, he, hr, hlate, hsplit, ?query, ?other⟩
    case query =>
      rintro rfl
      obtain ⟨text, hl, hsame, hone⟩ := written_query mid w reaction hr
      exact ⟨hsame, text, hl, hone⟩
    case other => exact written_event mid w event reaction hr
  case text =>
    intro text
    rw [toList_toUTF8]
    exact ⟨_, lines?_utf8 text⟩
  case skipped => exact fun before after text h => effective_insert before after text h
  case same =>
    intro capacity' inputs' moves' last' hrun' hends' heffective hmet
    have hfed : fed moves' (last'.read inputs') = sequence := by
      rw [fed, ← zip_fst, ← fed, hmet, heffective]
      exact zip_fst _ _
    obtain ⟨houtput', hrouter⟩ :=
      ended_of_run router capacity' inputs' moves' last' hrun' hends' (by rw [hfed]; exact hemitted)
    exact ⟨houtput'.trans houtput.symm, hrouter⟩

/-- One slot, one watcher, two lines that are no events, a query, and a tick that ends the watcher
while the shutdown waits for room. -/
theorem pump_sequential_one_slot :
    let w : Surroundings := ⟨1000, fun _ => {}⟩
    let request := Router.sampleRequest .messageSummary "sip:42@pbx" "10.0.0.1" (some 300)
    let router := ((Router.start {}).handle w (.subscribe request)).toOption.elim (Router.start {})
      Router.Reaction.router
    let inputs : List Input := [.tick 1000, .line "not json", .line " ",
      .line "\x7b\"type\":\"diagnostic_query\"\x7d", .tick 2000]
    let moves : List Pump.Move := [.loop, .loop, .turn w, .loop, .loop, .loop, .loop, .turn w, .loop,
      .write, .loop, .loop, .loop, .turn w, .push, .loop, .turn w, .loop, .write]
    ∃ last emitted, (Pump.start router 0 inputs).run? moves = some last ∧
      (∀ m, last.step? m = none) ∧ (∀ cause, last.task.status ≠ .failed cause) ∧
      run router (fed moves inputs) = .ok (last.task.router, emitted) ∧
      lines? last.output = some (emitted.map Outbound.encode) ∧ emitted.length = 2 := by
  intro w request router inputs moves
  obtain ⟨last, hrun⟩ : ∃ last, (Pump.start router 0 inputs).run? moves = some last :=
    Option.isSome_iff_exists.mp (by decide +kernel)
  have hend : ((Pump.start router 0 inputs).run? moves).any (fun p =>
      decide (p.place = .closed ∧ p.task.status = .stopped ∧ p.task.queue = [] ∧ p.outbox = [] ∧
        p.channel = [])) = true := by decide +kernel
  rw [hrun, Option.any_some, decide_eq_true_eq] at hend
  obtain ⟨hp, hs, hq, ho, hc⟩ := hend
  have hends := step?_of_closed hp ⟨hs, hq, ho⟩ hc
  have hsafe (cause : Seconds.Overflow) : last.task.status ≠ .failed cause := by
    rw [hs]
    nofun
  obtain ⟨-, -, hread, -, emitted, hemitted, -, hlines, -⟩ :=
    pump_sequential router 0 inputs moves last hrun hends hsafe
  rw [hread (by simp [moves])] at hemitted
  have htwo : (run router (fed moves inputs)).toOption.map (fun o => o.2.length) = some 2 := by
    decide +kernel
  rw [hemitted] at htwo
  exact ⟨last, emitted, hrun, hends, hsafe, hemitted, hlines, Option.some.inj htwo⟩

end SipNotifier.Bus
