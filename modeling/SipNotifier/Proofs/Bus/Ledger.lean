import SipNotifier.Proofs.Bus.Moves

/-! What every schedule keeps. An event is in one place at a time: in the task's past, in the queue,
in the loop's hand or among the inputs. What the past has emitted is in one place too: in the output,
in the channel, in the outbox or in an answer that the loop has not taken yet. The channel is fed
from two sides, but an answer is given only once the outbox is empty, and the loop then brings
nothing else before it has taken the answer. -/
namespace SipNotifier.Bus
set_option autoImplicit false

/-! ## Events on their way -/

/-- The event that the loop holds. -/
def Place.event? : Place → Option Inbound
  | .sending c => c.event?
  | _ => none

namespace Pump

/-- The events that the task has still to see, the next one first. -/
def waiting (p : Pump) : List Inbound :=
  p.task.queue.filterMap Router.Command.event? ++ p.place.event?.toList ++
    p.inputs.filterMap Input.event?

/-- The answer that the loop has still to take. -/
def owed (p : Pump) : List Outbound :=
  match p.place with
  | .awaiting ticket => ((p.task.replies.lookup ticket).map .diagnostics).toList
  | _ => []

/-- What has still to be written for the task's past, in order. -/
def due (p : Pump) : List Outbound := p.channel ++ p.outbox.map .notify ++ p.owed

end Pump

theorem event?_behind (c : Router.Command) : (Place.behind c).event? = none := by
  cases c <;> rfl

/-! ## The queue -/

def Plain (queue : List Router.Command) : Prop :=
  ∀ c ∈ queue, ∃ e, c = .event e ∧ e ≠ .diagnosticQuery

/-- The command stands behind events that are no queries. -/
def EndsWith (last : Router.Command) (queue : List Router.Command) : Prop :=
  ∃ events, Plain events ∧ queue = events ++ [last]

theorem Plain.head {e : Inbound} {rest : List Router.Command} (h : Plain (.event e :: rest)) :
    e ≠ .diagnosticQuery := by
  obtain ⟨_, ⟨⟩, hne⟩ := h _ List.mem_cons_self
  exact hne

theorem Plain.tail {c : Router.Command} {rest : List Router.Command} (h : Plain (c :: rest)) :
    Plain rest := fun d hd => h d (List.mem_cons_of_mem _ hd)

theorem Plain.concat {queue : List Router.Command} {e : Inbound} (h : Plain queue)
    (he : e ≠ .diagnosticQuery) : Plain (queue ++ [.event e]) := by
  intro c hc
  rcases List.mem_append.mp hc with hold | hlast
  · exact h c hold
  · exact ⟨e, List.mem_singleton.mp hlast, he⟩

variable {last : Router.Command} {e : Inbound} {rest queue : List Router.Command}

theorem EndsWith.ne_nil (h : EndsWith last queue) : queue ≠ [] := by
  obtain ⟨events, -, rfl⟩ := h
  exact List.append_ne_nil_of_right_ne_nil _ (List.cons_ne_nil _ _)

theorem EndsWith.event (h : EndsWith last (.event e :: rest)) (hlast : ∀ e', last ≠ .event e') :
    e ≠ .diagnosticQuery ∧ EndsWith last rest := by
  obtain ⟨events, hplain, hq⟩ := h
  cases events with
  | nil =>
    cases hq
    exact absurd rfl (hlast e)
  | cons c events =>
    cases hq
    exact ⟨hplain.head, events, hplain.tail, rfl⟩

theorem EndsWith.alone {c : Router.Command} (h : EndsWith last (c :: rest))
    (hc : ∀ e, c ≠ .event e) : c = last ∧ rest = [] := by
  obtain ⟨events, hplain, hq⟩ := h
  cases events with
  | nil =>
    cases hq
    exact ⟨rfl, rfl⟩
  | cons d events =>
    cases hq
    obtain ⟨e, he, -⟩ := hplain c List.mem_cons_self
    exact absurd he (hc e)

/-! ## Where the loop stands -/

namespace Pump

def Ready (p : Pump) : Router.Command → Prop
  | .event e => e ≠ .diagnosticQuery
  | .listing ticket => ticket < p.task.nextTicket ∧ p.task.replies.lookup ticket = none
  | .shutdown => True

/-- The query waits in the queue, or it was the last command and has been answered. -/
def Asked (p : Pump) (ticket : Nat) : Prop :=
  (EndsWith (.listing ticket) p.task.queue ∧ ticket < p.task.nextTicket ∧
    p.task.replies.lookup ticket = none) ∨
  (p.task.queue = [] ∧ p.outbox = [] ∧ ∃ text, p.task.replies.lookup ticket = some text)

/-- The task has stopped and left nothing behind. -/
def Over (p : Pump) : Prop :=
  p.task.status = .stopped ∧ p.task.queue = [] ∧ p.outbox = []

def At (p : Pump) : Place → Prop
  | .reading => p.task.status = .running ∧ Plain p.task.queue
  | .sending c => p.task.status = .running ∧ Plain p.task.queue ∧ p.Ready c
  | .awaiting ticket => p.task.status = .running ∧ p.Asked ticket
  | .joining => (p.task.status = .running ∧ EndsWith .shutdown p.task.queue) ∨ p.Over
  | .closed => p.Over
  | .lost _ => False
  | .broken _ => False

def Stage (p : Pump) : Prop := p.At p.place

theorem Stage.at {p : Pump} {place : Place} (h : p.Stage) (hp : p.place = place) : p.At place :=
  hp ▸ h

end Pump

/-- The accounts of the events and of what they have emitted. The task has seen one event in each
turn, and it has had one more turn once it has stopped. -/
structure Account (router : Router) (events : List Inbound) (ws : List Surroundings) (p : Pump)
    (seen : List Inbound) (emitted : List Outbound) : Prop where
  events : events = seen ++ p.waiting
  served : serve router (ws.zip seen) = .ok (p.task.router, emitted ++ p.due)
  output : p.output = output emitted
  enough : seen.length ≤ ws.length
  level : p.task.status = .running → ws.length = seen.length

structure Kept (router : Router) (inputs : List Input) (ws : List Surroundings) (p : Pump) :
    Prop where
  stage : p.Stage
  drawn : ∀ reply ∈ p.task.replies, reply.1 < p.task.nextTicket
  room : 0 < p.task.capacity
  left : p.inputs <:+ inputs
  account : ∃ seen emitted, Account router (inputs.filterMap Input.event?) ws p seen emitted

/-- The task has failed where the sequence of what was read fails. -/
def Failed (router : Router) (inputs : List Input) (ws : List Surroundings) (p : Pump) : Prop :=
  ∃ cause read, p.task.status = .failed cause ∧ read ++ p.inputs = inputs ∧
    serve router (ws.zip (read.filterMap Input.event?)) = .error cause

variable {router : Router} {inputs : List Input} {ws : List Surroundings} {p q : Pump}
  {events seen : List Inbound} {emitted : List Outbound} {w : Surroundings}

theorem Kept.start (router : Router) (capacity : Nat) (inputs : List Input) :
    Kept router inputs [] (Pump.start router capacity inputs) where
  stage := ⟨rfl, by simp [Plain, Pump.start, Router.Task.spawn]⟩
  drawn := by simp [Pump.start, Router.Task.spawn]
  room := Nat.le_max_right capacity 1
  left := List.suffix_rfl
  account := ⟨[], [], rfl, rfl, rfl, Nat.le_refl _, fun _ => rfl⟩

/-- The loop has read the events that were seen and those that are under way. -/
theorem Account.read {read : List Input}
    (h : Account router (inputs.filterMap Input.event?) ws p seen emitted)
    (hread : read ++ p.inputs = inputs) : read.filterMap Input.event? =
      seen ++ (p.task.queue.filterMap Router.Command.event? ++ p.place.event?.toList) := by
  have hevents := h.events
  rw [← hread, List.filterMap_append, Pump.waiting, ← List.append_assoc] at hevents
  exact List.append_cancel_right hevents

/-! ## Moves without a turn -/

theorem Account.carry (h : Account router events ws p seen emitted)
    (hwaiting : q.waiting = p.waiting) (hdue : q.due = p.due) (houtput : q.output = p.output)
    (hrouter : q.task.router = p.task.router)
    (hstatus : q.task.status = .running → p.task.status = .running) :
    Account router events ws q seen emitted where
  events := by rw [hwaiting]; exact h.events
  served := by rw [hrouter, hdue]; exact h.served
  output := houtput.trans h.output
  enough := h.enough
  level := fun hs => h.level (hstatus hs)

theorem Kept.carry (h : Kept router inputs ws p) (hleft : q.inputs <:+ p.inputs) (hstage : q.Stage)
    (hreplies : q.task.replies = p.task.replies) (hnext : p.task.nextTicket ≤ q.task.nextTicket)
    (hcapacity : q.task.capacity = p.task.capacity) (hrouter : q.task.router = p.task.router)
    (hstatus : q.task.status = p.task.status) (houtput : q.output = p.output)
    (hwaiting : q.waiting = p.waiting) (hdue : q.due = p.due) : Kept router inputs ws q where
  stage := hstage
  drawn := by
    rw [hreplies]
    exact fun reply hreply => Nat.lt_of_lt_of_le (h.drawn reply hreply) hnext
  room := hcapacity ▸ h.room
  left := hleft.trans h.left
  account := by
    obtain ⟨seen, emitted, haccount⟩ := h.account
    exact ⟨seen, emitted, haccount.carry hwaiting hdue houtput hrouter fun hs => hstatus ▸ hs⟩

theorem Kept.unanswered (h : Kept router inputs ws p) :
    p.task.replies.lookup p.task.nextTicket = none := by
  apply Router.lookup_of_notMem
  intro hmem
  obtain ⟨reply, hreply, heq⟩ := List.mem_map.mp hmem
  exact absurd heq (Nat.ne_of_lt (h.drawn reply hreply))

/-- The loop turns to the shutdown, at the end of the inputs or in front of it. -/
theorem Kept.leave (h : Kept router inputs ws p) (hp : p.place = .reading) :
    Kept router inputs ws { p with place := .sending .shutdown } := by
  obtain ⟨hs, hplain⟩ := h.stage.at hp
  refine h.carry List.suffix_rfl ⟨hs, hplain, trivial⟩ rfl (Nat.le_refl _) rfl rfl rfl rfl
    ?waiting ?due
  case waiting => simp [Pump.waiting, Place.event?, Router.Command.event?, hp]
  case due => simp [Pump.due, Pump.owed, hp]

theorem Kept.loop (h : Kept router inputs ws p) (hm : Moved p .loop q) :
    Kept router inputs ws q := by
  have hnow := Nat.le_refl p.task.nextTicket
  have hleft := hm.inputs
  cases hm with
  | ended hp hi => exact h.leave hp
  | skipped input rest hp hi he =>
    have hstage : p.At .reading := h.stage.at hp
    refine h.carry hleft (hp ▸ hstage) rfl hnow rfl rfl rfl rfl ?waiting ?due
    case waiting => simp [Pump.waiting, hi, he]
    case due => simp [Pump.due, Pump.owed]
  | asked input rest hp hi he =>
    obtain ⟨hs, hplain⟩ := h.stage.at hp
    have hready := And.intro (Nat.lt_succ_self p.task.nextTicket) h.unanswered
    refine h.carry hleft ⟨hs, hplain, hready⟩ rfl (Nat.le_succ _) rfl rfl rfl rfl ?waiting ?due
    case waiting => simp [Pump.waiting, Place.event?, Router.Command.event?, hp, hi, he]
    case due => simp [Pump.due, Pump.owed, hp]
  | taken input rest e hp hi he hne =>
    obtain ⟨hs, hplain⟩ := h.stage.at hp
    refine h.carry hleft ⟨hs, hplain, hne⟩ rfl hnow rfl rfl rfl rfl ?waiting ?due
    case waiting => simp [Pump.waiting, Place.event?, Router.Command.event?, hp, hi, he]
    case due => simp [Pump.due, Pump.owed, hp]
  | sent c hp hs hroom =>
    -- The command leaves the loop's hand for the back of the queue: the events keep their order.
    obtain ⟨-, hplain, hready⟩ := h.stage.at hp
    refine h.carry hleft ?stage rfl hnow rfl rfl rfl rfl ?waiting ?due
    case stage =>
      cases c with
      | event e => exact ⟨hs, hplain.concat hready⟩
      | listing ticket => exact ⟨hs, Or.inl ⟨⟨_, hplain, rfl⟩, hready⟩⟩
      | shutdown => exact Or.inl ⟨hs, _, hplain, rfl⟩
    case waiting =>
      have hhand : (Place.sending c).event? = c.event? := rfl
      cases hc : c.event? <;> simp [Pump.waiting, hp, hc, hhand, event?_behind]
    case due =>
      cases c with
      | listing ticket => simp [Pump.due, Pump.owed, Place.behind, hp, hready.2]
      | _ => simp [Pump.due, Pump.owed, Place.behind, hp]
  | cutOff c hp hs => exact absurd (h.stage.at hp).1 hs
  | answered ticket text hp hl =>
    obtain ⟨hs, ⟨-, -, hnone⟩ | ⟨hq, ho, -⟩⟩ := h.stage.at hp
    · rw [hnone] at hl
      cases hl
    · -- With an empty outbox the answer goes behind all that was emitted before it.
      have hplain : Plain p.task.queue := by simp [Plain, hq]
      refine h.carry hleft ⟨hs, hplain⟩ rfl hnow rfl rfl rfl rfl ?waiting ?due
      case waiting => simp [Pump.waiting, Place.event?, hp]
      case due => simp [Pump.due, Pump.owed, hp, hl, ho]
  | unanswered ticket hp hl hs => exact absurd (h.stage.at hp).1 hs
  | closed hp hs =>
    rcases h.stage.at hp with ⟨hruns, -⟩ | hover
    · rw [hruns] at hs
      cases hs
    · refine h.carry hleft hover rfl hnow rfl rfl rfl rfl ?waiting ?due
      case waiting => simp [Pump.waiting, Place.event?, hp]
      case due => simp [Pump.due, Pump.owed, hp]
  | broken cause hp hs =>
    rcases h.stage.at hp with ⟨hruns, -⟩ | hover
    · rw [hruns] at hs
      cases hs
    · rw [hover.1] at hs
      cases hs

theorem Kept.interrupt (h : Kept router inputs ws p) (hm : Moved p .interrupt q) :
    Kept router inputs ws q := by
  cases hm with
  | interrupted hp => exact h.leave hp

theorem Kept.push (h : Kept router inputs ws p) (hm : Moved p .push q) :
    Kept router inputs ws q := by
  cases hm with
  | pushed n rest ho =>
    -- The loop neither has its answer nor is done, since both leave the outbox empty.
    have hne : p.outbox ≠ [] := by simp [ho]
    have hstage := h.stage
    refine h.carry List.suffix_rfl ?stage rfl (Nat.le_refl _) rfl rfl rfl rfl rfl ?due
    case stage =>
      unfold Pump.Stage at hstage ⊢
      generalize p.place = place at hstage ⊢
      cases place with
      | sending c => exact ⟨hstage.1, hstage.2.1, by cases c <;> exact hstage.2.2⟩
      | awaiting ticket =>
        obtain ⟨hs, hwaits | ⟨-, hempty, -⟩⟩ := hstage
        · exact ⟨hs, Or.inl hwaits⟩
        · exact absurd hempty hne
      | joining =>
        rcases hstage with hleaving | ⟨-, -, hempty⟩
        · exact Or.inl hleaving
        · exact absurd hempty hne
      | closed => exact absurd hstage.2.2 hne
      | _ => exact hstage
    case due => simp [Pump.due, Pump.owed, ho]

theorem Kept.write (h : Kept router inputs ws p) (hm : Moved p .write q) :
    Kept router inputs ws q := by
  obtain ⟨seen, emitted, haccount⟩ := h.account
  cases hm with
  | written e rest hc =>
    refine ⟨h.stage, h.drawn, h.room, h.left, seen, emitted ++ [e], haccount.events, ?_, ?_,
      haccount.enough, haccount.level⟩
    · rw [haccount.served]
      simp [Pump.due, Pump.owed, hc]
    · simp [haccount.output, output]

/-! ## Turns -/

theorem zip_concat (h : ws.length = seen.length) (w : Surroundings) (rest : List Inbound) :
    (ws ++ [w]).zip (seen ++ rest) = ws.zip seen ++ [w].zip rest := List.zip_append h

/-- A turn moves the first event that waits into the past, with what it emits. -/
theorem Account.turn {e : Inbound} {reaction : Router.Reaction}
    (h : Account router events ws p seen emitted) (hs : p.task.status = .running)
    (hwaiting : p.waiting = e :: q.waiting) (hr : p.task.router.handle w e = .ok reaction)
    (hrouter : q.task.router = reaction.router) (hdue : q.due = p.due ++ written reaction)
    (houtput : q.output = p.output) :
    Account router events (ws ++ [w]) q (seen ++ [e]) emitted where
  events := by
    rw [h.events, hwaiting, List.append_assoc]
    rfl
  served := by
    have hserve := serve_concat h.served hr
    rw [zip_concat (h.level hs) w [e], hrouter, hdue, ← List.append_assoc]
    exact hserve
  output := houtput.trans h.output
  enough := by
    rw [List.length_append, List.length_append, h.level hs]
    exact Nat.le_refl _
  level := fun _ => by
    rw [List.length_append, List.length_append, h.level hs]
    rfl

theorem Account.fail {read : List Input} {c : Router.Command} {cause : Seconds.Overflow}
    (h : Account router (inputs.filterMap Input.event?) ws p seen emitted)
    (hread : read ++ p.inputs = inputs) (hs : p.task.status = .running)
    (hq : p.task.queue = c :: rest) (hc : c.event? = some e)
    (hr : p.task.router.handle w e = .error cause) :
    serve router ((ws ++ [w]).zip (read.filterMap Input.event?)) = .error cause := by
  rw [h.read hread, hq, List.filterMap_cons_some hc, List.cons_append, zip_concat (h.level hs)]
  exact serve_error h.served hr _

theorem owed_of_queue (h : p.Stage) (hq : p.task.queue ≠ []) : p.owed = [] := by
  unfold Pump.owed
  split
  · next ticket hp =>
    obtain ⟨-, ⟨-, -, hnone⟩ | ⟨hempty, -⟩⟩ := h.at hp
    · rw [hnone]
      rfl
    · exact absurd hempty hq
  · rfl

/-- An event at the front of the queue is no query, and the loop stands the same once it is gone. -/
theorem stage_event (h : p.Stage) (hs : p.task.status = .running)
    (hq : p.task.queue = .event e :: rest) (task : Router.Task) (outbox : List Notify)
    (hstatus : task.status = .running) (hqueue : task.queue = rest)
    (hreplies : task.replies = p.task.replies) (hnext : task.nextTicket = p.task.nextTicket) :
    e ≠ .diagnosticQuery ∧ Pump.Stage { p with task := task, outbox := outbox } := by
  subst hqueue
  unfold Pump.Stage at h ⊢
  generalize p.place = place at h ⊢
  cases place with
  | reading =>
    obtain ⟨-, hplain⟩ := h
    rw [hq] at hplain
    exact ⟨hplain.head, hstatus, hplain.tail⟩
  | sending c =>
    obtain ⟨-, hplain, hready⟩ := h
    rw [hq] at hplain
    refine ⟨hplain.head, hstatus, hplain.tail, ?_⟩
    cases c with
    | listing ticket => exact ⟨hnext ▸ hready.1, hreplies ▸ hready.2⟩
    | _ => exact hready
  | awaiting ticket =>
    obtain ⟨-, ⟨hends, hdrawn, hnone⟩ | ⟨hempty, -⟩⟩ := h
    · rw [hq] at hends
      obtain ⟨hne, htail⟩ := hends.event (by nofun)
      exact ⟨hne, hstatus, Or.inl ⟨htail, hnext ▸ hdrawn, hreplies ▸ hnone⟩⟩
    · rw [hq] at hempty
      cases hempty
  | joining =>
    obtain ⟨-, hends⟩ | hover := h
    · rw [hq] at hends
      obtain ⟨hne, htail⟩ := hends.event (by nofun)
      exact ⟨hne, Or.inl ⟨hstatus, htail⟩⟩
    · rw [hover.1] at hs
      cases hs
  | closed =>
    rw [h.1] at hs
    cases hs
  | _ => exact h.elim

/-- A command at the front of the queue that is no event is the one that the loop waits for, and
nothing is behind it. -/
theorem stage_last {c : Router.Command} (h : p.Stage) (hq : p.task.queue = c :: rest)
    (hc : ∀ e, c ≠ .event e) :
    rest = [] ∧
      ((∃ ticket, c = .listing ticket ∧ p.place = .awaiting ticket ∧
          ticket < p.task.nextTicket ∧ p.task.replies.lookup ticket = none) ∨
        (c = .shutdown ∧ p.place = .joining)) := by
  have hplain (hplain : Plain p.task.queue) : False := by
    obtain ⟨e, he, -⟩ := hplain c (hq ▸ List.mem_cons_self)
    exact hc e he
  unfold Pump.Stage at h
  generalize p.place = place at h ⊢
  cases place with
  | reading => exact (hplain h.2).elim
  | sending d => exact (hplain h.2.1).elim
  | awaiting ticket =>
    obtain ⟨-, ⟨hends, hdrawn, hnone⟩ | ⟨hempty, -⟩⟩ := h
    · rw [hq] at hends
      obtain ⟨heq, hrest⟩ := hends.alone hc
      exact ⟨hrest, Or.inl ⟨ticket, heq, rfl, hdrawn, hnone⟩⟩
    · rw [hq] at hempty
      cases hempty
  | joining =>
    obtain ⟨-, hends⟩ | ⟨-, hempty, -⟩ := h
    · rw [hq] at hends
      obtain ⟨heq, hrest⟩ := hends.alone hc
      exact ⟨hrest, Or.inr ⟨heq, rfl⟩⟩
    · rw [hq] at hempty
      cases hempty
  | closed =>
    obtain ⟨-, hempty, -⟩ := h
    rw [hq] at hempty
    cases hempty
  | _ => exact h.elim

theorem Kept.turn (h : Kept router inputs ws p) (hm : Moved p (.turn w) q) :
    Kept router inputs (ws ++ [w]) q ∨ Failed router inputs (ws ++ [w]) q := by
  obtain ⟨seen, emitted, haccount⟩ := h.account
  cases hm with
  | handled _ e rest reaction hs ho hq hr =>
    obtain ⟨hne, hstage⟩ := stage_event h.stage hs hq { p.task with
      queue := rest, router := reaction.router, sent := p.task.sent ++ reaction.sent }
      reaction.sent hs rfl rfl rfl
    have howed := owed_of_queue h.stage (by simp [hq])
    have hwritten := written_event p.task.router w e reaction hr hne
    refine Or.inl ⟨hstage, h.drawn, h.room, h.left, seen ++ [e], emitted,
      haccount.turn hs ?waiting hr rfl ?due rfl⟩
    case waiting => simp [Pump.waiting, Router.Command.event?, hq]
    case due =>
      have hdue : p.due = p.channel := by simp [Pump.due, ho, howed]
      have howed' : Pump.owed { p with
          task := { p.task with
            queue := rest, router := reaction.router, sent := p.task.sent ++ reaction.sent }
          outbox := reaction.sent } = [] := howed
      rw [hdue, hwritten, Pump.due, howed', List.append_nil]
  | listed _ ticket rest text hs ho hq hl =>
    -- Nothing is behind the query, so its answer is the only thing owed.
    obtain ⟨rfl, ⟨_, ⟨⟩, hp, hdrawn, hnone⟩ | ⟨⟨⟩, -⟩⟩ := stage_last h.stage hq (by nofun)
    have hr := handle_query p.task.router w text hl
    have hlookup : (p.task.replies ++ [(ticket, text)]).lookup ticket = some text := by
      simp [List.lookup_append, hnone]
    refine Or.inl ⟨?stage, ?drawn, h.room, h.left, seen ++ [.diagnosticQuery], emitted,
      haccount.turn hs ?waiting hr rfl ?due rfl⟩
    case stage =>
      rw [Pump.Stage, hp]
      exact ⟨hs, Or.inr ⟨rfl, ho, text, hlookup⟩⟩
    case drawn =>
      intro reply hreply
      rcases List.mem_append.mp hreply with hold | hlast
      · exact h.drawn reply hold
      · rwa [List.mem_singleton.mp hlast]
    case waiting => simp [Pump.waiting, Router.Command.event?, hq]
    case due => simp [Pump.due, Pump.owed, written, hp, ho, hnone, hlookup]
  | stopped _ rest hs ho hq =>
    -- A turn without an event: from here on the turns are one ahead of what was seen.
    obtain ⟨rfl, ⟨_, ⟨⟩, -⟩ | ⟨-, hp⟩⟩ := stage_last h.stage hq (by nofun)
    have hlevel := haccount.level hs
    refine Or.inl ⟨?stage, h.drawn, h.room, h.left, seen, emitted, ?events, ?served, haccount.output,
      ?enough, by nofun⟩
    case stage =>
      rw [Pump.Stage, hp]
      exact Or.inr ⟨rfl, rfl, ho⟩
    case events =>
      rw [haccount.events]
      simp [Pump.waiting, Router.Command.event?, Router.Task.finish, hq]
    case served =>
      have hzip := zip_concat hlevel w []
      rw [List.append_nil, List.zip_nil_right, List.append_nil] at hzip
      rw [hzip, haccount.served]
      simp [Pump.due, Pump.owed, Router.Task.finish, hp]
    case enough =>
      rw [List.length_append, hlevel]
      exact Nat.le_add_right _ _
  | failed _ c rest e cause hs ho hq hc hr =>
    obtain ⟨read, hread⟩ := h.left
    exact Or.inr ⟨cause, read, rfl, hread, haccount.fail hread hs hq hc hr⟩

end SipNotifier.Bus
