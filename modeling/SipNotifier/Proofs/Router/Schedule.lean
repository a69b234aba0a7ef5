import SipNotifier.Proofs.Router.Serve

/-! Senders and the task take turns in any order. `Schedule` lists the steps that either side can
take, together with the commands that have got into the queue so far. What is still to come of a
task (`Task.prospect`) does not change when the task moves, so in the end it is what comes of the
whole list: the room in the queue and the order of the turns make no difference. -/
namespace SipNotifier.Router
set_option autoImplicit false

/-! ## Steps of the task -/

namespace Task

def progress (t : Task) : Progress := ⟨t.router, t.sent, t.replies⟩

/-- What comes of the task if nothing more gets into the queue. -/
def prospect (w : Surroundings) (t : Task) : Except Seconds.Overflow Progress :=
  match t.status with
  | .failed cause => .error cause
  | _ => t.progress.serve w t.queue

/-- A task that has ended leaves nothing in the queue. -/
def Tidy (t : Task) : Prop := t.status ≠ .running → t.queue = []

/-- What a turn can do. The task has failed where its prospect is that error. -/
inductive Turned (w : Surroundings) (t : Task) : Task → Prop
  | idle (h : t.status = .running → t.queue = []) : Turned w t t
  | event (e : Inbound) (rest : List Command) (reaction : Reaction) (hs : t.status = .running)
      (hq : t.queue = .event e :: rest) (hr : t.router.handle w e = .ok reaction) :
      Turned w t { t with
        queue := rest, router := reaction.router, sent := t.sent ++ reaction.sent }
  | listing (ticket : Nat) (rest : List Command) (text : String) (hs : t.status = .running)
      (hq : t.queue = .listing ticket :: rest) (hl : t.router.listing w.now = .ok text) :
      Turned w t { t with queue := rest, replies := t.replies ++ [(ticket, text)] }
  | shutdown (rest : List Command) (hs : t.status = .running) (hq : t.queue = .shutdown :: rest) :
      Turned w t (t.finish .stopped)
  | failed (cause : Seconds.Overflow) (hs : t.status = .running)
      (hf : t.progress.serve w t.queue = .error cause) : Turned w t (t.finish (.failed cause))

theorem turned_turn (w : Surroundings) (t : Task) : Turned w t (t.turn w) := by
  obtain ⟨capacity, router, status, queue, sent, replies, nextTicket⟩ := t
  cases status with
  | stopped => exact .idle (by simp)
  | failed cause => exact .idle (by simp)
  | running =>
    cases queue with
    | nil => exact .idle fun _ => rfl
    | cons c rest =>
      cases c with
      | event e =>
        cases hr : router.handle w e with
        | ok reaction =>
          simp only [turn, carryOut, hr]
          exact .event e rest reaction rfl rfl hr
        | error cause =>
          simp only [turn, carryOut, hr]
          exact .failed cause rfl (by simp [progress, Progress.serve, hr, bind, Except.bind])
      | listing ticket =>
        cases hl : router.listing w.now with
        | ok text =>
          simp only [turn, carryOut, hl]
          exact .listing ticket rest text rfl rfl hl
        | error cause =>
          simp only [turn, carryOut, hl]
          exact .failed cause rfl (by simp [progress, Progress.serve, hl, bind, Except.bind])
      | shutdown => exact .shutdown rest rfl rfl

variable {w : Surroundings} {t u : Task}

theorem Turned.prospect (h : Turned w t u) : u.prospect w = t.prospect w := by
  cases h with
  | idle h => rfl
  | event e rest reaction hs hq hr =>
    simp [Task.prospect, progress, hs, hq, Progress.serve, hr, bind, Except.bind]
  | listing ticket rest text hs hq hl =>
    simp [Task.prospect, progress, hs, hq, Progress.serve, hl, bind, Except.bind]
  | shutdown rest hs hq => simp [Task.prospect, progress, finish, hs, hq, Progress.serve]
  | failed cause hs hf => simp [Task.prospect, finish, hs, hf]

theorem Turned.tidy (h : Turned w t u) (ht : t.Tidy) : u.Tidy := by
  cases h with
  | idle h => exact ht
  | event e rest reaction hs hq hr => exact fun hends => absurd hs hends
  | listing ticket rest text hs hq hl => exact fun hends => absurd hs hends
  | shutdown rest hs hq => exact fun _ => rfl
  | failed cause hs hf => exact fun _ => rfl

theorem Turned.queue_le (h : Turned w t u) (ht : t.Tidy) :
    u.queue.length ≤ t.queue.length - 1 := by
  cases h with
  | idle h =>
    have hnone : t.queue = [] := by
      by_cases hs : t.status = .running
      · exact h hs
      · exact ht hs
    simp [hnone]
  | event e rest reaction hs hq hr => simp [hq]
  | listing ticket rest text hs hq hl => simp [hq]
  | shutdown rest hs hq => exact Nat.zero_le _
  | failed cause hs hf => exact Nat.zero_le _

theorem Turned.nextTicket (h : Turned w t u) : u.nextTicket = t.nextTicket := by
  cases h <;> rfl

theorem Turned.replies (h : Turned w t u) : t.replies <+: u.replies := by
  cases h with
  | listing ticket rest text hs hq hl => exact List.prefix_append _ _
  | _ => exact List.prefix_rfl

/-! ## Turns on end -/

variable (w)

theorem turns_queue (n : Nat) (h : t.Tidy) (hn : t.queue.length ≤ n) :
    (turns w n t).queue = [] := by
  induction n generalizing t with
  | zero => exact List.length_eq_zero_iff.mp (Nat.le_zero.mp hn)
  | succ n ih =>
    have hd := turned_turn w t
    have hle := hd.queue_le h
    exact ih (hd.tidy h) (by omega)

theorem drain_queue (h : t.Tidy) : (t.drain w).queue = [] :=
  turns_queue w _ h (Nat.le_refl _)

theorem turns_nextTicket (n : Nat) (t : Task) : (turns w n t).nextTicket = t.nextTicket := by
  induction n generalizing t with
  | zero => rfl
  | succ n ih => exact (ih _).trans (turned_turn w t).nextTicket

theorem turns_replies (n : Nat) (t : Task) : t.replies <+: (turns w n t).replies := by
  induction n generalizing t with
  | zero => exact List.prefix_rfl
  | succ n ih => exact (turned_turn w t).replies.trans (ih _)

end Task

/-! ## Steps of both sides -/

/-- A listing has a ticket of its own, drawn beforehand. -/
def Fresh (cs : List Command) (t : Task) (c : Command) : Prop :=
  ∀ ticket, c = .listing ticket → ticket < t.nextTicket ∧ ticket ∉ tickets cs

/-- The queue has taken in these commands, in this order, while the task and its senders moved. -/
inductive Schedule (w : Surroundings) (t : Task) : List Command → Task → Prop
  | start : Schedule w t [] t
  | turn (cs : List Command) (u : Task) (h : Schedule w t cs u) : Schedule w t cs (u.turn w)
  | draw (cs : List Command) (u : Task) (h : Schedule w t cs u) :
      Schedule w t cs { u with nextTicket := u.nextTicket + 1 }
  | send (cs : List Command) (u v : Task) (c : Command) (h : Schedule w t cs u)
      (hc : Fresh cs u c) (hv : u.enqueue? c = some v) : Schedule w t (cs ++ [c]) v
  /-- The task has ended but the queue is not closed yet: what gets in is dropped with it. -/
  | late (cs : List Command) (u : Task) (c : Command) (h : Schedule w t cs u)
      (hc : Fresh cs u c) (hs : u.status ≠ .running) : Schedule w t (cs ++ [c]) u

variable {w : Surroundings} {router : Router} {capacity : Nat} {cs : List Command} {t u v : Task}

theorem Schedule.turns (n : Nat) (h : Schedule w t cs u) : Schedule w t cs (Task.turns w n u) := by
  induction n generalizing u with
  | zero => exact h
  | succ n ih => exact ih (.turn cs u h)

theorem Schedule.drain (h : Schedule w t cs u) : Schedule w t cs (u.drain w) :=
  h.turns u.queue.length

theorem Task.enqueue?_eq_some_iff (c : Command) :
    u.enqueue? c = some v ↔ u.status = .running ∧ u.queue.length < u.capacity ∧
      v = { u with queue := u.queue ++ [c] } := by
  simp only [enqueue?]
  split
  · next h => simp [h, eq_comm]
  · next h =>
    rw [not_and] at h
    simp only [reduceCtorEq, false_iff]
    rintro ⟨hs, hroom, -⟩
    exact h hs hroom

/-! ## What every schedule keeps -/

/-- The task has the same to come as the router has with the whole list. -/
structure Kept (w : Surroundings) (router : Router) (cs : List Command) (t : Task) : Prop where
  prospect : t.prospect w = Progress.serve w { router := router } cs
  waits : t.status = .running → (.shutdown ∈ t.queue ↔ .shutdown ∈ cs)
  stopped : t.status = .stopped → .shutdown ∈ cs
  tidy : t.Tidy
  room : 0 < t.capacity
  once : (tickets cs).Nodup
  drawn : ∀ ticket ∈ tickets cs, ticket < t.nextTicket

theorem Kept.start (w : Surroundings) (router : Router) (capacity : Nat) :
    Kept w router [] (Task.spawn router capacity) where
  prospect := rfl
  waits := fun _ => Iff.rfl
  stopped := fun hs => by cases hs
  tidy := fun _ => rfl
  room := Nat.le_max_right capacity 1
  once := List.nodup_nil
  drawn := by simp [tickets]

theorem Kept.turned (h : Kept w router cs t) (hd : Task.Turned w t u) : Kept w router cs u := by
  have hprospect := hd.prospect.trans h.prospect
  have htidy := hd.tidy h.tidy
  cases hd with
  | idle hd => exact h
  | event e rest reaction hs hq hr =>
    have hwaits := h.waits hs
    rw [hq] at hwaits
    exact ⟨hprospect, fun _ => by simpa using hwaits, h.stopped, htidy, h.room, h.once, h.drawn⟩
  | listing ticket rest text hs hq hl =>
    have hwaits := h.waits hs
    rw [hq] at hwaits
    exact ⟨hprospect, fun _ => by simpa using hwaits, h.stopped, htidy, h.room, h.once, h.drawn⟩
  | shutdown rest hs hq =>
    have hstop : Command.shutdown ∈ cs := by
      rw [← h.waits hs, hq]
      exact List.mem_cons_self
    exact ⟨hprospect, by nofun, fun _ => hstop, htidy, h.room, h.once, h.drawn⟩
  | failed cause hs hf => exact ⟨hprospect, by nofun, by nofun, htidy, h.room, h.once, h.drawn⟩

theorem Kept.draw (h : Kept w router cs t) :
    Kept w router cs { t with nextTicket := t.nextTicket + 1 } :=
  ⟨h.prospect, h.waits, h.stopped, h.tidy, h.room, h.once,
    fun ticket ht => Nat.lt_succ_of_lt (h.drawn ticket ht)⟩

theorem tickets_concat (cs : List Command) (c : Command) :
    tickets (cs ++ [c]) = tickets cs ++ c.ticket?.toList := by
  rw [tickets, List.filterMap_append]
  cases c <;> rfl

/-- A new ticket keeps the tickets apart. -/
theorem Kept.tickets (h : Kept w router cs t) (c : Command) (hc : Fresh cs t c) :
    (Router.tickets (cs ++ [c])).Nodup ∧
      ∀ ticket ∈ Router.tickets (cs ++ [c]), ticket < t.nextTicket := by
  rw [tickets_concat]
  cases c with
  | listing ticket =>
    obtain ⟨hdrawn, hnew⟩ := hc ticket rfl
    constructor
    · refine List.nodup_append.mpr ⟨h.once, by simp [Command.ticket?], ?_⟩
      intro a ha b hb hab
      rw [List.mem_singleton.mp hb] at hab
      exact hnew (hab ▸ ha)
    · intro a ha
      rcases List.mem_append.mp ha with hold | hlast
      · exact h.drawn a hold
      · rwa [List.mem_singleton.mp hlast]
  | _ => simpa [Command.ticket?] using ⟨h.once, h.drawn⟩

theorem Kept.send (h : Kept w router cs t) (c : Command) (hc : Fresh cs t c)
    (hv : t.enqueue? c = some v) : Kept w router (cs ++ [c]) v := by
  obtain ⟨hs, -, rfl⟩ := (Task.enqueue?_eq_some_iff c).mp hv
  have hwaits := h.waits hs
  obtain ⟨honce, hdrawn⟩ := h.tickets c hc
  refine ⟨?_, ?_, ?_, ?_, h.room, honce, hdrawn⟩
  · have hprospect := h.prospect
    simp only [Task.prospect, hs] at hprospect ⊢
    change t.progress.serve w (t.queue ++ [c]) = _
    rw [Progress.serve_append, Progress.serve_append, hprospect]
    simp only [hwaits]
  · intro _
    rw [List.mem_append, List.mem_append, hwaits]
  · intro hstops
    rw [hs] at hstops
    cases hstops
  · exact fun hends => absurd hs hends

theorem Kept.late (h : Kept w router cs t) (c : Command) (hc : Fresh cs t c)
    (hs : t.status ≠ .running) : Kept w router (cs ++ [c]) t := by
  obtain ⟨honce, hdrawn⟩ := h.tickets c hc
  refine ⟨?_, fun hruns => absurd hruns hs, ?_, h.tidy, h.room, honce, hdrawn⟩
  · rw [h.prospect, Progress.serve_append]
    split
    · rfl
    · next hfree =>
      have hprospect := h.prospect
      cases ht : t.status with
      | running => exact absurd ht hs
      | stopped => exact absurd (h.stopped ht) hfree
      | failed cause =>
        simp only [Task.prospect, ht] at hprospect
        rw [← hprospect]
        rfl
  · exact fun hstops => List.mem_append_left _ (h.stopped hstops)

theorem Schedule.kept (h : Schedule w (Task.spawn router capacity) cs t) : Kept w router cs t := by
  induction h with
  | start => exact Kept.start w router capacity
  | turn cs u h ih => exact ih.turned (Task.turned_turn w u)
  | draw cs u h ih => exact ih.draw
  | send cs u v c h hc hv ih => exact ih.send c hc hv
  | late cs u c h hc hs ih => exact ih.late c hc hs

/-! ## In the end -/

theorem Kept.served (h : Kept w router cs t) (hq : t.queue = [])
    (hsafe : ∀ cause, t.status ≠ .failed cause) :
    Progress.serve w { router := router } cs = .ok t.progress := by
  rw [← h.prospect, Task.prospect]
  split
  · next cause hs => exact absurd hs (hsafe cause)
  · rw [hq]
    rfl

theorem Kept.status (h : Kept w router cs t) (hq : t.queue = [])
    (hsafe : ∀ cause, t.status ≠ .failed cause) :
    t.status = if .shutdown ∈ cs then .stopped else .running := by
  cases hs : t.status with
  | failed cause => exact absurd hs (hsafe cause)
  | stopped => rw [if_pos (h.stopped hs)]
  | running =>
    have hfree : Command.shutdown ∉ cs := by
      rw [← h.waits hs, hq]
      exact List.not_mem_nil
    rw [if_neg hfree]

theorem lookup_of_mem (replies : List (Nat × String)) (hone : (replies.map Prod.fst).Nodup)
    (ticket : Nat) (text : String) (h : (ticket, text) ∈ replies) :
    replies.lookup ticket = some text := by
  obtain ⟨before, after, rfl⟩ := List.append_of_mem h
  rw [List.lookup_eq_some_iff]
  refine ⟨before, after, rfl, ?_⟩
  intro other hother
  rw [List.map_append, List.map_cons, List.nodup_append] at hone
  have hne := hone.2.2 other.1 (List.mem_map_of_mem hother) ticket List.mem_cons_self
  simpa using Ne.symm hne

theorem lookup_of_notMem (replies : List (Nat × String)) (ticket : Nat)
    (h : ticket ∉ replies.map Prod.fst) : replies.lookup ticket = none := by
  rw [List.lookup_eq_none_iff]
  intro other hother
  have hne : ticket ≠ other.1 := fun heq => h (heq ▸ List.mem_map_of_mem hother)
  simpa using hne

section

variable (h : Kept w router cs t) (hq : t.queue = []) (hsafe : ∀ cause, t.status ≠ .failed cause)
include h hq hsafe

theorem Kept.served_front : Progress.serve w { router := router } (front cs) = .ok t.progress := by
  rw [Progress.serve_front]
  exact h.served hq hsafe

theorem Kept.replies : t.replies.map Prod.fst = Router.tickets (front cs) := by
  obtain ⟨replies, hreplies, htickets⟩ :=
    Progress.serve_tickets _ (shutdown_notMem_front cs) (h.served_front hq hsafe)
  rw [List.nil_append] at hreplies
  rw [← htickets, ← hreplies]
  rfl

theorem Kept.run : router.run (inputs w (front cs)) = .ok (t.router, t.sent) := by
  obtain ⟨sent, hrun, hsent⟩ :=
    Progress.serve_run _ (shutdown_notMem_front cs) (h.served_front hq hsafe)
  rw [List.nil_append] at hsent
  rw [hrun, ← hsent]
  rfl

theorem Kept.answered (pre post : List Command) (ticket : Nat)
    (hcs : cs = pre ++ .listing ticket :: post) (hpre : Command.shutdown ∉ pre) :
    ∃ mid sent text, router.run (inputs w pre) = .ok (mid, sent) ∧
      mid.listing w.now = .ok text ∧ t.replies.lookup ticket = some text := by
  have hfront : front cs = pre ++ .listing ticket :: front post := by
    rw [hcs, front_append pre _ hpre]
    rfl
  have hserve := h.served_front hq hsafe
  have hfree := shutdown_notMem_front cs
  rw [hfront] at hserve hfree
  obtain ⟨mid, text, hmid, ht, hmem⟩ := Progress.serve_listing pre _ ticket hfree hserve
  obtain ⟨sent, hrun, -⟩ := Progress.serve_run pre hpre hmid
  have hone : (t.replies.map Prod.fst).Nodup := by
    rw [h.replies hq hsafe]
    exact h.once.sublist ((List.takeWhile_sublist _).filterMap _)
  exact ⟨mid.router, sent, text, hrun, ht, lookup_of_mem _ hone ticket text hmem⟩

theorem Kept.unanswered (pre post : List Command) (ticket : Nat)
    (hcs : cs = pre ++ .listing ticket :: post) (hpre : Command.shutdown ∈ pre) :
    t.replies.lookup ticket = none := by
  apply lookup_of_notMem
  rw [h.replies hq hsafe, hcs, front_append_of_mem pre _ hpre]
  intro hmem
  have hone := h.once
  rw [hcs, Router.tickets, List.filterMap_append, List.nodup_append] at hone
  have hearly : ticket ∈ pre.filterMap Command.ticket? :=
    ((List.takeWhile_sublist _).filterMap _).subset hmem
  exact hone.2.2 ticket hearly ticket List.mem_cons_self rfl

end

theorem Kept.safe (h : Kept w router cs t) (p : Progress)
    (hserve : Progress.serve w { router := router } cs = .ok p) (cause : Seconds.Overflow) :
    t.status ≠ .failed cause := by
  intro hs
  have hprospect := h.prospect
  simp only [Task.prospect, hs] at hprospect
  rw [hserve] at hprospect
  cases hprospect

/-! ## Senders that wait -/

/-- A send gets in unless the task has ended. -/
theorem Schedule.submit (h : Schedule w (Task.spawn router capacity) cs t) (c : Command)
    (hc : Fresh cs t c) :
    (∃ v, t.submit w c = (v, true) ∧
        Schedule w (Task.spawn router capacity) (cs ++ [c]) v) ∨
      t.submit w c = (t.drain w, false) ∧ (t.drain w).status ≠ .running := by
  have hdrain := h.drain
  have hfresh : Fresh cs (t.drain w) c := by
    rw [Fresh, Task.drain, Task.turns_nextTicket]
    exact hc
  simp only [Task.submit]
  cases hnow : t.enqueue? c with
  | some v => exact Or.inl ⟨v, rfl, .send cs t v c h hc hnow⟩
  | none =>
    cases hlater : (t.drain w).enqueue? c with
    | some v => exact Or.inl ⟨v, rfl, .send cs _ v c hdrain hfresh hlater⟩
    | none =>
      refine Or.inr ⟨rfl, ?_⟩
      intro hruns
      have hroom : (t.drain w).queue.length < (t.drain w).capacity := by
        rw [Task.drain_queue w h.kept.tidy]
        exact hdrain.kept.room
      rw [(Task.enqueue?_eq_some_iff c).mpr ⟨hruns, hroom, rfl⟩] at hlater
      cases hlater

/-- A query draws its ticket and is sent like any other command. -/
theorem Schedule.ask (h : Schedule w (Task.spawn router capacity) cs t) :
    let asking := { t with nextTicket := t.nextTicket + 1 }
    (∃ v, asking.submit w (.listing t.nextTicket) = (v, true) ∧
        Schedule w (Task.spawn router capacity) (cs ++ [.listing t.nextTicket]) v) ∨
      asking.submit w (.listing t.nextTicket) = (asking.drain w, false) ∧
        (asking.drain w).status ≠ .running := by
  refine (Schedule.draw cs t h).submit _ ?_
  rintro ticket ⟨⟩
  exact ⟨Nat.lt_succ_self _, fun hmem => Nat.lt_irrefl _ (h.kept.drawn _ hmem)⟩

section

variable (h : Schedule w (Task.spawn router capacity) cs t)
  (hsafe : ∀ cause, (t.drain w).status ≠ .failed cause)
include h hsafe

theorem Schedule.served :
    Progress.serve w { router := router } cs = .ok (t.drain w).progress :=
  h.drain.kept.served (Task.drain_queue w h.kept.tidy) hsafe

theorem Schedule.diagnostics_ok (hfree : Command.shutdown ∉ cs) (text : String)
    (ht : (t.drain w).router.listing w.now = .ok text) : (t.diagnostics w).2 = .ok text := by
  have hserve := h.served hsafe
  rcases h.ask with ⟨v, hv, hgot⟩ | ⟨-, hends⟩
  · have hasked : Progress.serve w { router := router } (cs ++ [.listing t.nextTicket]) =
        .ok { (t.drain w).progress with
          replies := (t.drain w).replies ++ [(t.nextTicket, text)] } := by
      rw [Progress.serve_append, if_neg hfree, hserve]
      exact (Progress.serve_listing_cons _ _).mpr ⟨text, ht, rfl⟩
    obtain ⟨mid, sent, answer, hrun, hmid, hlookup⟩ := hgot.drain.kept.answered
      (Task.drain_queue w hgot.kept.tidy) (hgot.drain.kept.safe _ hasked) cs [] _ rfl hfree
    obtain ⟨_, hlast, -⟩ := Progress.serve_run cs hfree hserve
    rw [hlast] at hrun
    cases hrun
    have hsame : (t.drain w).progress.router = (t.drain w).router := rfl
    rw [hsame, ht] at hmid
    cases hmid
    simp only [Task.diagnostics, hv, hlookup]
  · have hdraw := Schedule.draw cs t h
    have hkept := hdraw.drain.kept
    have hstatus := hkept.status (Task.drain_queue w hdraw.kept.tidy) (hkept.safe _ hserve)
    rw [if_neg hfree] at hstatus
    exact absurd hstatus hends

theorem Schedule.diagnostics_error (hstop : Command.shutdown ∈ cs) :
    ∃ cause, (t.diagnostics w).2 = .error cause := by
  have hserve := h.served hsafe
  rcases h.ask with ⟨v, hv, hgot⟩ | ⟨hv, -⟩
  · have hasked : Progress.serve w { router := router } (cs ++ [.listing t.nextTicket]) =
        .ok (t.drain w).progress := by
      rw [Progress.serve_append, if_pos hstop, hserve]
    have hnone := hgot.drain.kept.unanswered (Task.drain_queue w hgot.kept.tidy)
      (hgot.drain.kept.safe _ hasked) cs [] _ rfl hstop
    exact ⟨.noReply, by simp only [Task.diagnostics, hv, hnone]⟩
  · exact ⟨.listingLost, by simp only [Task.diagnostics, hv]⟩

end

/-! ## The whole task -/

/-- Whatever the schedule, a task that is left to finish has handled the events in front of the
first shutdown, each once and in order, and has answered each listing there by the router of that
moment. What is behind the shutdown has no effect and gets no answer. The room in the queue makes no
difference. -/
theorem task_serves_in_order (w : Surroundings) (router : Router) (capacity : Nat)
    (queued : List Command) (t : Task)
    (h : Schedule w (Task.spawn router capacity) queued t)
    (hsafe : ∀ cause, (t.drain w).status ≠ .failed cause) :
    let ended := t.drain w
    ended.queue = [] ∧
    ended.status = (if .shutdown ∈ queued then .stopped else .running) ∧
    router.run (inputs w (front queued)) = .ok (ended.router, ended.sent) ∧
    (∀ pre ticket post, queued = pre ++ .listing ticket :: post → .shutdown ∉ pre →
      ∃ mid sent text, router.run (inputs w pre) = .ok (mid, sent) ∧
        mid.listing w.now = .ok text ∧ ended.replies.lookup ticket = some text) ∧
    (∀ pre ticket post, queued = pre ++ .listing ticket :: post → .shutdown ∈ pre →
      ended.replies.lookup ticket = none) ∧
    (∀ ticket text, t.replies.lookup ticket = some text →
      ended.replies.lookup ticket = some text) ∧
    (.shutdown ∉ queued → ∀ text, ended.router.listing w.now = .ok text →
      (t.diagnostics w).2 = .ok text) ∧
    (.shutdown ∈ queued → ∃ cause, (t.diagnostics w).2 = .error cause) ∧
    ∀ capacity' queued' t', Schedule w (Task.spawn router capacity') queued' t' →
      front queued' = front queued →
      (t'.drain w).router = ended.router ∧ (t'.drain w).sent = ended.sent ∧
        (t'.drain w).replies = ended.replies := by
  intro ended
  have hkept := h.drain.kept
  have hq : ended.queue = [] := Task.drain_queue w h.kept.tidy
  refine ⟨hq, hkept.status hq hsafe, hkept.run hq hsafe, ?_, ?_, ?_, ?_, ?_, ?_⟩
  · intro pre ticket post hqueued hpre
    exact hkept.answered hq hsafe pre post ticket hqueued hpre
  · intro pre ticket post hqueued hpre
    exact hkept.unanswered hq hsafe pre post ticket hqueued hpre
  · intro ticket text hanswer
    obtain ⟨later, hlater⟩ : t.replies <+: ended.replies := Task.turns_replies w _ t
    rw [← hlater, List.lookup_append, hanswer]
    rfl
  · exact fun hfree text ht => h.diagnostics_ok hsafe hfree text ht
  · exact fun hstop => h.diagnostics_error hsafe hstop
  · intro capacity' queued' t' h' hfront
    have hserve : Progress.serve w { router := router } queued' = .ok ended.progress := by
      rw [← Progress.serve_front, hfront]
      exact hkept.served_front hq hsafe
    have hother := h'.served (h'.drain.kept.safe _ hserve)
    rw [hserve, Except.ok.injEq] at hother
    injection hother with hrouter hsent hreplies
    exact ⟨hrouter.symm, hsent.symm, hreplies.symm⟩

/-- One slot, a subscriber, a query that waits for the task, a shutdown, and one event that comes too
late. -/
theorem task_serves_in_order_one_slot :
    let w : Surroundings := ⟨1000, fun _ => {}⟩
    let request := sampleRequest .dialog "sip:100@pbx" "10.0.0.1" (some 300)
    let queued : List Command := [.event (.subscribe request), .listing 0, .shutdown,
      .event (.callUpdate "100" (some "c1") { status := some "answered" })]
    ∃ t, Schedule w (Task.spawn (start {}) 0) queued t ∧
      (∀ cause, (t.drain w).status ≠ .failed cause) ∧
      (start {}).run [(w, .subscribe request)] = .ok ((t.drain w).router, (t.drain w).sent) ∧
      ∃ text, (t.drain w).replies.lookup 0 = some text := by
  intro w request queued
  -- The states are kept closed, so that only the evaluations look into them.
  let put (u : Task) (c : Command) : Task := { u with queue := u.queue ++ [c] }
  obtain ⟨idle, hidle⟩ : ∃ u, u = Task.spawn (start {}) 0 := ⟨_, rfl⟩
  obtain ⟨a, ha⟩ : ∃ u, u = (put idle (.event (.subscribe request))).turn w := ⟨_, rfl⟩
  obtain ⟨b, hb⟩ : ∃ u, u = (put { a with nextTicket := a.nextTicket + 1 } (.listing 0)).turn w :=
    ⟨_, rfl⟩
  obtain ⟨t, ht⟩ : ∃ u, u = (put b .shutdown).turn w := ⟨_, rfl⟩
  have hput (u : Task) (c : Command) (hu : u.status = .running ∧ u.queue.length < u.capacity) :
      u.enqueue? c = some (put u c) := (Task.enqueue?_eq_some_iff c).mpr ⟨hu.1, hu.2, rfl⟩
  have hfirst : Schedule w idle [.event (.subscribe request)] a := by
    have hroom : idle.status = .running ∧ idle.queue.length < idle.capacity := by
      rw [hidle]; decide
    rw [ha]
    exact .turn _ _ (.send [] idle _ _ .start (by nofun) (hput idle _ hroom))
  have hsecond : Schedule w idle [.event (.subscribe request), .listing 0] b := by
    have hroom : a.status = .running ∧ a.queue.length < a.capacity ∧ a.nextTicket = 0 := by
      rw [ha, hidle]; decide +kernel
    rw [hb]
    refine .turn _ _ (.send _ _ _ _ (.draw _ _ hfirst) ?_ (hput _ _ ⟨hroom.1, hroom.2.1⟩))
    rintro _ ⟨⟩
    exact ⟨Nat.succ_pos _, List.not_mem_nil⟩
  have hthird : Schedule w idle [.event (.subscribe request), .listing 0, .shutdown] t := by
    have hroom : b.status = .running ∧ b.queue.length < b.capacity := by
      rw [hb, ha, hidle]; decide +kernel
    rw [ht]
    exact .turn _ _ (.send _ _ _ _ hsecond (by nofun) (hput _ _ hroom))
  have hstopped : t.status = .stopped ∧ (t.drain w).status = .stopped := by
    rw [ht, hb, ha, hidle]; decide +kernel
  have hlast : Schedule w (Task.spawn (start {}) 0) queued t := by
    rw [← hidle]
    exact .late _ _ _ hthird (by nofun) (by rw [hstopped.1]; nofun)
  have hsafe : ∀ cause, (t.drain w).status ≠ .failed cause := by
    rw [hstopped.2]
    nofun
  obtain ⟨-, -, hrun, hanswered, -⟩ := task_serves_in_order w (start {}) 0 queued t hlast hsafe
  obtain ⟨mid, sent, text, -, -, htext⟩ := hanswered
    [.event (.subscribe request)] 0 _ rfl (by decide)
  exact ⟨t, hlast, hsafe, hrun, text, htext⟩

end SipNotifier.Router
