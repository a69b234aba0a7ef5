import SipNotifier.Proofs.Router.Steps
import SipNotifier.Router.Task

/-! What a list of commands comes to when they are carried out one after the other, up to the first
shutdown. What is sent, and the router in the end, are those of a run over the events in front of
the shutdown (`serve_run`); a listing there is answered by the router that the events in front of it
lead to (`serve_listing`). -/
namespace SipNotifier.Router
set_option autoImplicit false

/-! ## Commands -/

/-- The commands in front of the first shutdown. -/
def front (cs : List Command) : List Command := cs.takeWhile fun c => decide (c ≠ .shutdown)

def Command.input? (w : Surroundings) : Command → Option (Surroundings × Inbound)
  | .event e => some (w, e)
  | _ => none

def Command.ticket? : Command → Option Nat
  | .listing ticket => some ticket
  | _ => none

def inputs (w : Surroundings) (cs : List Command) : List (Surroundings × Inbound) :=
  cs.filterMap (Command.input? w)

def tickets (cs : List Command) : List Nat := cs.filterMap Command.ticket?

theorem shutdown_notMem_front (cs : List Command) : Command.shutdown ∉ front cs := by
  intro h
  have hne := List.all_eq_true.mp List.all_takeWhile _ h
  simp at hne

theorem front_append (a b : List Command) (ha : Command.shutdown ∉ a) :
    front (a ++ b) = a ++ front b := by
  refine List.takeWhile_append_of_pos ?_
  intro c hc
  have hne : c ≠ .shutdown := fun h => ha (h ▸ hc)
  simpa using hne

theorem front_append_of_mem (a b : List Command) (ha : Command.shutdown ∈ a) :
    front (a ++ b) = front a := by
  obtain ⟨pre, post, rfl, hpre⟩ := List.eq_append_cons_of_mem ha
  rw [List.append_assoc, front_append pre _ hpre, front_append pre _ hpre]
  rfl

theorem front_of_notMem (cs : List Command) (h : Command.shutdown ∉ cs) : front cs = cs := by
  have happend := front_append cs [] h
  simpa [front] using happend

/-! ## One command after the other -/

/-- What has come of the commands so far. -/
structure Progress where
  router : Router
  sent : List Notify := []
  replies : List (Nat × String) := []

namespace Progress

/-- Carries the commands out. A shutdown ends it, and so does an event or a listing that goes
wrong. -/
def serve (w : Surroundings) (p : Progress) : List Command → Except Seconds.Overflow Progress
  | [] => .ok p
  | .event e :: rest => do
    let reaction ← p.router.handle w e
    serve w { p with router := reaction.router, sent := p.sent ++ reaction.sent } rest
  | .listing ticket :: rest => do
    let text ← p.router.listing w.now
    serve w { p with replies := p.replies ++ [(ticket, text)] } rest
  | .shutdown :: _ => .ok p

variable {w : Surroundings} {p q : Progress}

theorem serve_event (e : Inbound) (rest : List Command) :
    p.serve w (.event e :: rest) = .ok q ↔ ∃ reaction, p.router.handle w e = .ok reaction ∧
      serve w { p with router := reaction.router, sent := p.sent ++ reaction.sent } rest =
        .ok q := by
  rw [serve]
  cases p.router.handle w e with
  | error cause => simp [bind, Except.bind]
  | ok reaction => simp [bind, Except.bind]

theorem serve_listing_cons (ticket : Nat) (rest : List Command) :
    p.serve w (.listing ticket :: rest) = .ok q ↔ ∃ text, p.router.listing w.now = .ok text ∧
      serve w { p with replies := p.replies ++ [(ticket, text)] } rest = .ok q := by
  rw [serve]
  cases p.router.listing w.now with
  | error cause => simp [bind, Except.bind]
  | ok text => simp [bind, Except.bind]

/-- Commands behind a shutdown make no difference. -/
theorem serve_append (w : Surroundings) (p : Progress) (a b : List Command) :
    p.serve w (a ++ b) =
      if Command.shutdown ∈ a then p.serve w a else p.serve w a >>= fun q => q.serve w b := by
  induction a generalizing p with
  | nil => simp [serve, bind, Except.bind]
  | cons c rest ih =>
    cases c with
    | event e =>
      simp only [List.cons_append, serve, List.mem_cons, reduceCtorEq, false_or]
      cases p.router.handle w e with
      | error cause => simp [bind, Except.bind]
      | ok reaction => exact ih _
    | listing ticket =>
      simp only [List.cons_append, serve, List.mem_cons, reduceCtorEq, false_or]
      cases p.router.listing w.now with
      | error cause => simp [bind, Except.bind]
      | ok text => exact ih _
    | shutdown => simp [serve]

theorem serve_front (w : Surroundings) (p : Progress) (cs : List Command) :
    p.serve w (front cs) = p.serve w cs := by
  by_cases h : Command.shutdown ∈ cs
  · obtain ⟨pre, post, rfl, hpre⟩ := List.eq_append_cons_of_mem h
    rw [front_append pre _ hpre, serve_append, serve_append, if_neg hpre, if_neg hpre]
    simp [front, serve]
  · rw [front_of_notMem cs h]

/-! ## What comes of it -/

/-- The events are handled as a run handles them. -/
theorem serve_run (cs : List Command) (hcs : Command.shutdown ∉ cs) (h : p.serve w cs = .ok q) :
    ∃ sent, p.router.run (inputs w cs) = .ok (q.router, sent) ∧ q.sent = p.sent ++ sent := by
  induction cs generalizing p with
  | nil =>
    simp only [serve, Except.ok.injEq] at h
    subst h
    exact ⟨[], rfl, (List.append_nil _).symm⟩
  | cons c rest ih =>
    have hrest : Command.shutdown ∉ rest := fun hmem => hcs (List.mem_cons_of_mem _ hmem)
    cases c with
    | event e =>
      obtain ⟨reaction, hr, hserve⟩ := (serve_event e rest).mp h
      obtain ⟨sent, hrun, hsent⟩ := ih hrest hserve
      have hinputs : inputs w (.event e :: rest) = (w, e) :: inputs w rest := rfl
      refine ⟨reaction.sent ++ sent, ?_, by rw [hsent, List.append_assoc]⟩
      simp only at hrun
      simp [hinputs, run, hr, hrun, bind, Except.bind, pure, Except.pure]
    | listing ticket =>
      obtain ⟨text, -, hserve⟩ := (serve_listing_cons ticket rest).mp h
      obtain ⟨sent, hrun, hsent⟩ := ih hrest hserve
      exact ⟨sent, hrun, hsent⟩
    | shutdown => exact absurd List.mem_cons_self hcs

theorem serve_tickets (cs : List Command) (hcs : Command.shutdown ∉ cs) (h : p.serve w cs = .ok q) :
    ∃ replies, q.replies = p.replies ++ replies ∧ replies.map Prod.fst = tickets cs := by
  induction cs generalizing p with
  | nil =>
    simp only [serve, Except.ok.injEq] at h
    subst h
    exact ⟨[], (List.append_nil _).symm, rfl⟩
  | cons c rest ih =>
    have hrest : Command.shutdown ∉ rest := fun hmem => hcs (List.mem_cons_of_mem _ hmem)
    cases c with
    | event e =>
      obtain ⟨reaction, -, hserve⟩ := (serve_event e rest).mp h
      obtain ⟨replies, hreplies, htickets⟩ := ih hrest hserve
      exact ⟨replies, hreplies, htickets⟩
    | listing ticket =>
      obtain ⟨text, -, hserve⟩ := (serve_listing_cons ticket rest).mp h
      obtain ⟨replies, hreplies, htickets⟩ := ih hrest hserve
      refine ⟨(ticket, text) :: replies, by simp [hreplies], ?_⟩
      rw [List.map_cons, htickets]
      rfl
    | shutdown => exact absurd List.mem_cons_self hcs

/-- A listing is made by the router that the commands in front of it lead to. -/
theorem serve_listing (pre post : List Command) (ticket : Nat)
    (hcs : Command.shutdown ∉ pre ++ .listing ticket :: post)
    (h : p.serve w (pre ++ .listing ticket :: post) = .ok q) :
    ∃ mid text, p.serve w pre = .ok mid ∧ mid.router.listing w.now = .ok text ∧
      (ticket, text) ∈ q.replies := by
  have hpre : Command.shutdown ∉ pre := fun hmem => hcs (List.mem_append_left _ hmem)
  have hpost : Command.shutdown ∉ post := fun hmem => hcs (by simp [hmem])
  rw [serve_append, if_neg hpre] at h
  cases hmid : p.serve w pre with
  | error cause => simp [hmid, bind, Except.bind] at h
  | ok mid =>
    simp only [hmid, bind, Except.bind] at h
    obtain ⟨text, ht, hserve⟩ := (serve_listing_cons ticket post).mp h
    obtain ⟨replies, hreplies, -⟩ := serve_tickets post hpost hserve
    exact ⟨mid, text, rfl, ht, by simp [hreplies]⟩

end Progress
end SipNotifier.Router
