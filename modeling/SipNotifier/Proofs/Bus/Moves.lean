import SipNotifier.Bus.Pump
import SipNotifier.Proofs.Bus.Sequence
import SipNotifier.Proofs.Router.Schedule

/-! The moves of the pump. `Moved` lists them once, guards included. No schedule of moves goes on for
ever, and only a request to shut down makes the loop leave inputs unread. -/
namespace SipNotifier

/-- The event that a command is sent for. -/
def Router.Command.event? : Router.Command → Option Inbound
  | .event e => some e
  | .listing _ => some .diagnosticQuery
  | .shutdown => none

namespace Bus
set_option autoImplicit false

/-! ## The moves -/

inductive Moved (p : Pump) : Pump.Move → Pump → Prop
  | ended (hp : p.place = .reading) (hi : p.inputs = []) :
      Moved p .loop { p with place := .sending .shutdown }
  | skipped (input : Input) (rest : List Input) (hp : p.place = .reading)
      (hi : p.inputs = input :: rest) (he : input.event? = none) :
      Moved p .loop { p with inputs := rest }
  | asked (input : Input) (rest : List Input) (hp : p.place = .reading)
      (hi : p.inputs = input :: rest) (he : input.event? = some .diagnosticQuery) :
      Moved p .loop { p with
        inputs := rest, place := .sending (.listing p.task.nextTicket)
        task := { p.task with nextTicket := p.task.nextTicket + 1 } }
  | taken (input : Input) (rest : List Input) (e : Inbound) (hp : p.place = .reading)
      (hi : p.inputs = input :: rest) (he : input.event? = some e) (hne : e ≠ .diagnosticQuery) :
      Moved p .loop { p with inputs := rest, place := .sending (.event e) }
  | sent (c : Router.Command) (hp : p.place = .sending c) (hs : p.task.status = .running)
      (hroom : p.task.queue.length < p.task.capacity) :
      Moved p .loop { p with
        task := { p.task with queue := p.task.queue ++ [c] }, place := .behind c }
  | cutOff (c : Router.Command) (hp : p.place = .sending c) (hs : p.task.status ≠ .running) :
      Moved p .loop { p with place := .lost (lostWith c) }
  | answered (ticket : Nat) (text : String) (hp : p.place = .awaiting ticket)
      (hl : p.task.replies.lookup ticket = some text) :
      Moved p .loop { p with place := .reading, channel := p.channel ++ [.diagnostics text] }
  | unanswered (ticket : Nat) (hp : p.place = .awaiting ticket)
      (hl : p.task.replies.lookup ticket = none) (hs : p.task.status ≠ .running) :
      Moved p .loop { p with place := .lost .noReply }
  | closed (hp : p.place = .joining) (hs : p.task.status = .stopped) :
      Moved p .loop { p with place := .closed }
  | broken (cause : Seconds.Overflow) (hp : p.place = .joining)
      (hs : p.task.status = .failed cause) : Moved p .loop { p with place := .broken cause }
  | interrupted (hp : p.place = .reading) : Moved p .interrupt { p with place := .sending .shutdown }
  | handled (w : Surroundings) (e : Inbound) (rest : List Router.Command)
      (reaction : Router.Reaction) (hs : p.task.status = .running) (ho : p.outbox = [])
      (hq : p.task.queue = .event e :: rest) (hr : p.task.router.handle w e = .ok reaction) :
      Moved p (.turn w) { p with
        task := { p.task with
          queue := rest, router := reaction.router, sent := p.task.sent ++ reaction.sent }
        outbox := reaction.sent }
  | listed (w : Surroundings) (ticket : Nat) (rest : List Router.Command) (text : String)
      (hs : p.task.status = .running) (ho : p.outbox = [])
      (hq : p.task.queue = .listing ticket :: rest)
      (hl : p.task.router.listing w.now = .ok text) :
      Moved p (.turn w) { p with
        task := { p.task with queue := rest, replies := p.task.replies ++ [(ticket, text)] } }
  | stopped (w : Surroundings) (rest : List Router.Command) (hs : p.task.status = .running)
      (ho : p.outbox = []) (hq : p.task.queue = .shutdown :: rest) :
      Moved p (.turn w) { p with task := p.task.finish .stopped }
  | failed (w : Surroundings) (c : Router.Command) (rest : List Router.Command) (e : Inbound)
      (cause : Seconds.Overflow) (hs : p.task.status = .running) (ho : p.outbox = [])
      (hq : p.task.queue = c :: rest) (hc : c.event? = some e)
      (hr : p.task.router.handle w e = .error cause) :
      Moved p (.turn w) { p with task := p.task.finish (.failed cause) }
  | pushed (n : Notify) (rest : List Notify) (ho : p.outbox = n :: rest) :
      Moved p .push { p with outbox := rest, channel := p.channel ++ [.notify n] }
  | written (e : Outbound) (rest : List Outbound) (hc : p.channel = e :: rest) :
      Moved p .write { p with channel := rest, output := p.output ++ output [e] }

theorem moved_take (p : Pump) (hp : p.place = .reading) : Moved p .loop p.take := by
  unfold Pump.take
  split
  · next hi => exact .ended hp hi
  · next input rest hi =>
    split
    · next he => exact .skipped input rest hp hi he
    · next he => exact .asked input rest hp hi he
    · next e hne he => exact .taken input rest e hp hi he (fun h => hne (h ▸ rfl))

theorem moved_loop (p q : Pump) (h : p.loop? = some q) : Moved p .loop q := by
  unfold Pump.loop? at h
  split at h
  · next hp =>
    cases h
    exact moved_take p hp
  · next c hp =>
    unfold Pump.send? at h
    split at h
    · next t ht =>
      obtain ⟨hs, hroom, rfl⟩ := (Router.Task.enqueue?_eq_some_iff c).mp ht
      cases h
      exact .sent c hp hs hroom
    · split at h
      · cases h
      · next hs =>
        cases h
        exact .cutOff c hp hs
  · next ticket hp =>
    unfold Pump.receive? at h
    split at h
    · next text hl =>
      cases h
      exact .answered ticket text hp hl
    · next hl =>
      split at h
      · cases h
      · next hs =>
        cases h
        exact .unanswered ticket hp hl hs
  · next hp =>
    unfold Pump.join? at h
    split at h
    · cases h
    · next hs =>
      cases h
      exact .closed hp hs
    · next cause hs =>
      cases h
      exact .broken cause hp hs
  · cases h

theorem moved_turn (p q : Pump) (w : Surroundings) (h : p.turn? w = some q) :
    Moved p (.turn w) q := by
  unfold Pump.turn? at h
  split at h
  case isFalse => cases h
  case isTrue hguard =>
    obtain ⟨hs, hne, ho⟩ := hguard
    obtain ⟨c, rest, hq⟩ := List.exists_cons_of_ne_nil hne
    have hturn : p.task.turn w = ({ p.task with queue := rest } : Router.Task).carryOut w c := by
      simp only [Router.Task.turn, hs, hq]
    rw [hturn] at h
    obtain ⟨task, inputs, place, outbox, channel, output⟩ := p
    cases ho
    cases c with
    | event e =>
      cases hr : task.router.handle w e with
      | ok reaction =>
        simp only [Router.Task.carryOut, hr, List.drop_left, Option.some.injEq] at h
        exact h ▸ .handled w e rest reaction hs rfl hq hr
      | error cause =>
        simp only [Router.Task.carryOut, hr, Router.Task.finish, List.drop_length,
          Option.some.injEq] at h
        exact h ▸ .failed w _ rest e cause hs rfl hq rfl hr
    | listing ticket =>
      cases hl : task.router.listing w.now with
      | ok text =>
        simp only [Router.Task.carryOut, hl, List.drop_length, Option.some.injEq] at h
        exact h ▸ .listed w ticket rest text hs rfl hq hl
      | error cause =>
        have hr : task.router.handle w .diagnosticQuery = .error cause := by
          simp [Router.handle, hl, Except.map]
        simp only [Router.Task.carryOut, hl, Router.Task.finish, List.drop_length,
          Option.some.injEq] at h
        exact h ▸ .failed w _ rest _ cause hs rfl hq rfl hr
    | shutdown =>
      simp only [Router.Task.carryOut, Router.Task.finish, List.drop_length,
        Option.some.injEq] at h
      exact h ▸ .stopped w rest hs rfl hq

theorem moved_of_step? (p q : Pump) (m : Pump.Move) (h : p.step? m = some q) : Moved p m q := by
  cases m with
  | loop => exact moved_loop p q h
  | interrupt =>
    simp only [Pump.step?, Pump.interrupt?] at h
    split at h
    · next hp =>
      cases h
      exact .interrupted hp
    · cases h
  | turn w => exact moved_turn p q w h
  | push =>
    simp only [Pump.step?, Pump.push?] at h
    split at h
    · cases h
    · next n rest ho =>
      cases h
      exact .pushed n rest ho
  | write =>
    simp only [Pump.step?, Pump.write?] at h
    split at h
    · cases h
    · next e rest hc =>
      cases h
      exact .written e rest hc

/-! ## What is left of the inputs -/

/-- The loop takes no more inputs. -/
def Place.Past : Place → Prop
  | .sending .shutdown | .joining | .closed | .lost _ | .broken _ => True
  | _ => False

/-- The loop takes no more inputs, and has not lost the task. -/
def Place.Leaving : Place → Prop
  | .sending .shutdown | .joining | .closed => True
  | _ => False

variable {p q : Pump} {m : Pump.Move}

theorem Moved.inputs (h : Moved p m q) : q.inputs <:+ p.inputs := by
  cases h with
  | skipped input rest hp hi he => exact hi ▸ List.suffix_cons input rest
  | asked input rest hp hi he => exact hi ▸ List.suffix_cons input rest
  | taken input rest e hp hi he hne => exact hi ▸ List.suffix_cons input rest
  | _ => exact List.suffix_rfl

theorem Moved.past (h : Moved p m q) (hp : p.place.Past) :
    q.place.Past ∧ q.inputs = p.inputs := by
  cases h with
  | ended hreading hi => exact ⟨trivial, rfl⟩
  | skipped input rest hreading hi he => exact (hreading ▸ hp).elim
  | asked input rest hreading hi he => exact (hreading ▸ hp).elim
  | taken input rest e hreading hi he hne => exact (hreading ▸ hp).elim
  | sent c hsending hs hroom =>
    rw [hsending] at hp
    cases c with
    | shutdown => exact ⟨trivial, rfl⟩
    | _ => exact hp.elim
  | cutOff c hsending hs => exact ⟨trivial, rfl⟩
  | answered ticket text hawaiting hl => exact (hawaiting ▸ hp).elim
  | unanswered ticket hawaiting hl hs => exact ⟨trivial, rfl⟩
  | closed hjoining hs => exact ⟨trivial, rfl⟩
  | broken cause hjoining hs => exact ⟨trivial, rfl⟩
  | interrupted hreading => exact ⟨trivial, rfl⟩
  | _ => exact ⟨hp, rfl⟩

/-- As long as nothing asks the loop to shut down, it goes on to the end of the inputs. -/
theorem Moved.drained (h : Moved p m q) (hm : m ≠ .interrupt)
    (hp : p.place.Leaving → p.inputs = []) (hq : q.place.Leaving) : q.inputs = [] := by
  cases h with
  | ended hreading hi => exact hi
  | skipped input rest hreading hi he =>
    rw [hreading] at hq
    exact hq.elim
  | asked input rest hreading hi he => exact hq.elim
  | taken input rest e hreading hi he hne => exact hq.elim
  | sent c hsending hs hroom =>
    cases c with
    | shutdown => exact hp (hsending ▸ trivial)
    | _ => exact hq.elim
  | cutOff c hsending hs => exact hq.elim
  | answered ticket text hawaiting hl => exact hq.elim
  | unanswered ticket hawaiting hl hs => exact hq.elim
  | closed hjoining hs => exact hp (hjoining ▸ trivial)
  | broken cause hjoining hs => exact hq.elim
  | interrupted hreading => exact absurd rfl hm
  | _ => exact hp hq

/-! ## Schedules end -/

/-- What the loop has still to go through before it takes the next input or is closed. -/
def Place.rank : Place → Nat
  | .sending (.listing _) => 5
  | .sending (.event _) => 4
  | .awaiting _ => 4
  | .reading => 3
  | .sending .shutdown => 2
  | .joining => 1
  | _ => 0

/-- The loop's work, then the task's, then the writer's. An event can fill the outbox with any
number of NOTIFYs, so that only the order of the three makes it fall. -/
def Pump.weight (p : Pump) : Nat × Nat × Nat :=
  (3 * p.inputs.length + p.place.rank, p.task.queue.length, 2 * p.outbox.length + p.channel.length)

/-- What the task has to do comes second to what the loop has to do, and so on. -/
abbrev Lighter : Nat × Nat × Nat → Nat × Nat × Nat → Prop :=
  Prod.Lex (· < ·) (Prod.Lex (· < ·) (· < ·))

theorem Moved.lighter (h : Moved p m q) : Lighter q.weight p.weight := by
  cases h with
  | ended hp hi => exact .left _ _ (by simp [hp, Place.rank])
  | skipped input rest hp hi he => exact .left _ _ (by simp [hi])
  | asked input rest hp hi he =>
    refine .left _ _ ?_
    simp only [hp, hi, Place.rank, List.length_cons]
    omega
  | taken input rest e hp hi he hne =>
    refine .left _ _ ?_
    simp only [hp, hi, Place.rank, List.length_cons]
    omega
  | sent c hp hs hroom => exact .left _ _ (by cases c <;> simp [hp, Place.rank, Place.behind])
  | cutOff c hp hs => exact .left _ _ (by cases c <;> simp [hp, Place.rank])
  | answered ticket text hp hl => exact .left _ _ (by simp [hp, Place.rank])
  | unanswered ticket hp hl hs => exact .left _ _ (by simp [hp, Place.rank])
  | closed hp hs => exact .left _ _ (by simp [hp, Place.rank])
  | broken cause hp hs => exact .left _ _ (by simp [hp, Place.rank])
  | interrupted hp => exact .left _ _ (by simp [hp, Place.rank])
  | handled w e rest reaction hs ho hq hr => exact .right _ (.left _ _ (by simp [hq]))
  | listed w ticket rest text hs ho hq hl => exact .right _ (.left _ _ (by simp [hq]))
  | stopped w rest hs ho hq => exact .right _ (.left _ _ (by simp [hq, Router.Task.finish]))
  | failed w c rest e cause hs ho hq hc hr =>
    exact .right _ (.left _ _ (by simp [hq, Router.Task.finish]))
  | pushed n rest ho =>
    refine .right _ (.right _ ?_)
    simp only [ho, List.length_cons, List.length_append, List.length_nil]
    omega
  | written e rest hc => exact .right _ (.right _ (by simp [hc]))

/-- No schedule goes on for ever. -/
theorem moves_end : WellFounded fun q p : Pump => ∃ m, p.step? m = some q := by
  have hlighter : WellFounded Lighter :=
    (Prod.lex Nat.lt_wfRel (Prod.lex Nat.lt_wfRel Nat.lt_wfRel)).wf
  refine Subrelation.wf ?_ (InvImage.wf Pump.weight hlighter)
  rintro q p ⟨m, h⟩
  exact (moved_of_step? p q m h).lighter

end Bus
end SipNotifier
