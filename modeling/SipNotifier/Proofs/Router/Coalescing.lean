import SipNotifier.Proofs.Router.Enrolment
import SipNotifier.Proofs.Router.Sweep

/-! How news of a mailbox reach its watchers. An update only makes the body of a watcher anew and lets it
wait; until the next sweep nothing else touches the watcher, so every update writes over the one before
it (`Subscription.informed`). The sweep then sends the body once, either with the end of the watcher's
lifetime or by itself. -/
namespace SipNotifier
open Subscription
set_option autoImplicit false

namespace Subscription

/-! ## One watcher -/

/-- The watcher of a mailbox with a new summary, which waits. -/
def posted (s : Subscription) (w : Surroundings) : Subscription :=
  { s with body := (w.mail s.resourceKey).summary, pending := true }

/-- What an event tells a watcher of a mailbox that it neither replaces nor sweeps. -/
def informed (s : Subscription) (x : Surroundings × Inbound) : Subscription :=
  if x.2 = .mailboxUpdate s.resourceKey then s.posted x.1 else s

theorem informed_fields (s : Subscription) (x : Surroundings × Inbound) :
    ∃ body waits, s.informed x = { s with body := body, pending := waits } := by
  simp only [informed]
  split
  · exact ⟨_, _, rfl⟩
  · exact ⟨s.body, s.pending, rfl⟩

theorem foldl_informed_fields (events : List (Surroundings × Inbound)) (s : Subscription) :
    ∃ body waits, events.foldl informed s = { s with body := body, pending := waits } := by
  induction events generalizing s with
  | nil => exact ⟨s.body, s.pending, rfl⟩
  | cons x events ih =>
    obtain ⟨body, waits, hx⟩ := s.informed_fields x
    obtain ⟨last, still, hrest⟩ := ih (s.informed x)
    exact ⟨last, still, by rw [List.foldl_cons, hrest, hx]⟩

theorem foldl_informed_spared (events : List (Surroundings × Inbound)) (s : Subscription)
    (h : ∀ x ∈ events, x.2 ≠ .mailboxUpdate s.resourceKey) : events.foldl informed s = s := by
  induction events with
  | nil => rfl
  | cons x events ih =>
    have hx : s.informed x = s := if_neg (h x List.mem_cons_self)
    rw [List.foldl_cons, hx]
    exact ih fun y hy => h y (List.mem_cons_of_mem x hy)

/-- Of all updates the last one counts. -/
theorem foldl_informed_last (before after : List (Surroundings × Inbound)) (w : Surroundings)
    (s : Subscription) (h : ∀ x ∈ after, x.2 ≠ .mailboxUpdate s.resourceKey) :
    (before ++ (w, .mailboxUpdate s.resourceKey) :: after).foldl informed s = s.posted w := by
  obtain ⟨body, waits, hbefore⟩ := foldl_informed_fields before s
  have hnews : ({ s with body := body, pending := waits } : Subscription).informed
      (w, .mailboxUpdate s.resourceKey) = s.posted w := if_pos rfl
  rw [List.foldl_append, hbefore, List.foldl_cons, hnews]
  exact foldl_informed_spared after (s.posted w) h

/-- What a sweep tells a watcher of a mailbox with a new summary. -/
def tidings (s : Subscription) (body : String) (time : Int) : Notify :=
  { s.record with
    body := body
    subscriptionState :=
      if s.expiresAt ≠ 0 ∧ s.expiresAt ≤ time then "terminated;reason=timeout" else s.state.header }

end Subscription

namespace Router

theorem sweepSlot_posted (s : Subscription) (w : Surroundings) (time : Int) :
    (sweepSlot time (some (s.posted w))).2 = [s.tidings (w.mail s.resourceKey).summary time] := by
  have hbody : (s.posted w).body ≠ "" := summary_ne_empty _
  by_cases hend : s.expiresAt ≠ 0 ∧ s.expiresAt ≤ time
  · have hexpired : (s.posted w).isExpired time = true := (isExpired_iff _ _).mpr hend
    rw [sweepSlot, if_pos hexpired, expire_of_body _ hbody, tidings, if_pos hend]
    rfl
  · have hlive : ¬ (s.posted w).isExpired time = true := fun h => hend ((isExpired_iff _ _).mp h)
    rw [sweepSlot, if_neg hlive, flush_of_waiting _ hbody rfl, tidings, if_neg hend]
    rfl

/-! ## Between two sweeps -/

/-- The event neither sweeps nor has a request for the mailbox accepted. -/
structure Undisturbed (user : String) (x : (Surroundings × Inbound) × Reaction) : Prop where
  unswept : x.2.outcome ≠ .ticked true
  unreplaced : ∀ request, x.1.2 = .subscribe request →
    request.event = Package.messageSummary.name → resourceOf? request.uri = some user →
      x.2.outcome.acceptedKey? = none

theorem event_of_accepted? (policy : Policy) (now : Int) (request : SubscribeRequest) (p : Package)
    (s : Subscription) (h : accepted? policy now request = some (p, s)) :
    request.event = p.name := by
  by_cases hpair : (request.event, request.accept) ∈ Package.supported
  · obtain ⟨q, he, ha⟩ := Package.of_mem_supported _ _ hpair
    rw [accepted?, he, ha, Package.negotiate_own] at h
    simp only at h
    split at h
    · cases h
    · cases h
      exact he
  · rw [accepted?, Package.negotiate_unsupported _ _ hpair] at h
    cases h

variable {user key : String} {r : Router} {w : Surroundings} {event : Inbound} {reaction : Reaction}

theorem Undisturbed.not_replaces (h : Undisturbed user ((w, event), reaction))
    (hd : Handled r w event reaction) (host : String) (port : UInt16) (hcolon : ':' ∉ user.toList)
    (hkey : key = keyOf .messageSummary user host port) (s : Subscription) :
    ¬ Replaces r.policy .messageSummary key w event s := by
  intro hrep
  have haccepted := (hd.acceptedKey? .messageSummary key ⟨user, host, port, hkey⟩).mpr ⟨s, hrep⟩
  obtain ⟨request, rfl, ha, hs⟩ := hrep
  have hmade := ofRequest_of_accepted? _ _ _ _ _ ha
  have hresource := ofRequest_resource _ _ _ _ _ hmade
  have hown := (isResourceKey_of_resourceOf? _ _ hresource).no_colon
  have hsame : s.resourceKey = user := keyOf_resource _ _ _ _ _ _ _ _ hown hcolon (hs.trans hkey)
  obtain ⟨_, _, _, -, -, hfields⟩ := ofRequest_eq_ok _ _ _ _ _ hmade
  have huri : s.requestUri = request.uri := by rw [hfields]
  rw [huri, hsame] at hresource
  have hnone := h.unreplaced request rfl (event_of_accepted? _ _ _ _ _ ha) hresource
  rw [haccepted] at hnone
  cases hnone

theorem Undisturbed.early (h : Undisturbed user ((w, event), reaction))
    (hd : Handled r w event reaction) (time : Int) (he : event = .timerTick time) :
    time < r.nextSweep := by
  subst he
  cases hd with
  | updated _ p resource change hc => cases hc
  | swept _ ht => exact absurd rfl h.unswept
  | ignored _ ht => exact ht

theorem slotStep_informed (policy : Policy) (due : Int) (s : Subscription)
    (hs : Stored .messageSummary s) (hrep : ∀ t, ¬ Replaces policy .messageSummary key w event t)
    (hearly : ∀ time, event = .timerTick time → time < due) :
    slotStep policy due .messageSummary key w event (some s) =
      (some (s.informed (w, event)), []) := by
  have hspared : ∀ p resource change, change? event = some (p, resource, change) →
      ¬ (p = .messageSummary ∧ resource = s.resourceKey) →
      slotStep policy due .messageSummary key w event (some s) = (some s, []) := by
    intro p resource change hc hother
    rw [slotStep_updated _ _ _ _ _ _ _ _ _ _ hc]
    exact stir_spared _ p s.resourceKey resource change w event hc hother _ (by simp)
  cases event with
  | subscribe request => exact slotStep_subscribe policy due _ key w request (some s) hrep
  | timerTick time => exact if_pos (hearly time rfl)
  | mailboxUpdate name =>
    by_cases hname : name = s.resourceKey
    · subst hname
      have hkind : s.kind = .mailbox := by
        have hpackage := hs.package
        cases hk : s.kind with
        | mailbox => rfl
        | dialog version => simp [package, hk, Kind.package] at hpackage
      have hwatches : Registry.watches s.resourceKey s = true := by
        simpa [Registry.watches] using hs.isResourceKey.nonempty
      have htouch : touch .messageSummary w (.mailboxUpdate s.resourceKey) s = (s.posted w, none) := by
        simp [touch, change?, Registry.refresh, hwatches, render, hkind, posted]
      have hinformed : s.informed (w, .mailboxUpdate s.resourceKey) = s.posted w := if_pos rfl
      rw [slotStep_updated _ _ _ _ _ _ _ _ _ _ rfl, stir, htouch, hinformed]
      rfl
    · have hinformed : s.informed (w, .mailboxUpdate name) = s :=
        if_neg fun he => hname (Inbound.mailboxUpdate.inj he)
      rw [hinformed]
      exact hspared _ name _ rfl fun h => hname h.2
  | callUpdate external channel call => exact hspared _ _ _ rfl (by simp)
  | channelUpdate id call => exact hspared _ _ _ rfl (by simp)
  | diagnosticQuery => exact slotStep_listed policy due _ key w (some s)

theorem Handled.informed (hd : Handled r w event reaction) (hr : r.Sound)
    (h : Undisturbed user ((w, event), reaction)) (host : String) (port : UInt16)
    (hcolon : ':' ∉ user.toList) (hkey : key = keyOf .messageSummary user host port) :
    reaction.router.slot .messageSummary key =
        (r.slot .messageSummary key).map (fun s => s.informed (w, event)) ∧
      reaction.sent.filter (Notify.isFor key) = [] := by
  have hrep := h.not_replaces hd host port hcolon hkey
  rw [hd.slot hr .messageSummary key, hd.heard hr .messageSummary key ⟨user, host, port, hkey⟩]
  cases hheld : r.slot .messageSummary key with
  | none =>
    rw [slotStep_none _ _ _ _ _ _ hrep]
    exact ⟨rfl, rfl⟩
  | some s =>
    rw [slotStep_informed _ _ s (hr.slot _ _ s hheld) hrep (h.early hd)]
    exact ⟨rfl, rfl⟩

/-- Until a sweep, a watcher takes in the events one by one and is sent nothing. -/
theorem journal_informed (events : List (Surroundings × Inbound)) (r last : Router) (log : Log)
    (hlog : r.journal events = .ok (last, log)) (hr : r.Sound)
    (hquiet : ∀ x ∈ log, Undisturbed user x) (host : String) (port : UInt16)
    (hcolon : ':' ∉ user.toList) (hkey : key = keyOf .messageSummary user host port) :
    last.slot .messageSummary key =
        (r.slot .messageSummary key).map (fun s => events.foldl Subscription.informed s) ∧
      log.sent.filter (Notify.isFor key) = [] := by
  rw [← journal_inputs r last events log hlog]
  refine (journal_keeps_while (Undisturbed user)
    (fun seen q => q.slot .messageSummary key =
        (r.slot .messageSummary key).map (fun s => (seen.map Prod.fst).foldl Subscription.informed s) ∧
      seen.sent.filter (Notify.isFor key) = []) ?_
    events log r last hlog hr ⟨by simp, rfl⟩ hquiet).2
  intro seen q w event reaction hsound hseen hnow hd
  obtain ⟨hslot, hsent⟩ := hd.informed hsound hnow host port hcolon hkey
  constructor
  · rw [hslot, hseen.1, Option.map_map, List.map_append]
    simp only [List.foldl_append]
    rfl
  · rw [Log.sent, List.flatMap_append, List.filter_append]
    simp only [Log.sent] at hseen
    simp [hseen.2, hsent]

/-! ## The next sweep -/

theorem slot_watcher {r : Router} (hr : r.Sound) (s : Subscription) (hs : s ∈ r.mailboxes.entries) :
    s.indexKey = keyOf .messageSummary s.resourceKey s.host s.port ∧
      ':' ∉ s.resourceKey.toList ∧ r.slot .messageSummary s.indexKey = some s := by
  have hstored := (hr.registry .messageSummary).entries s hs
  refine ⟨by rw [indexKey, hstored.package], hstored.isResourceKey.no_colon, ?_⟩
  exact slot_indexKey hr .messageSummary s hs

/-- However many updates a mailbox has between two sweeps, each of its watchers is sent one NOTIFY, by
the sweep that follows. It holds the counts of the last update, and the end of the watcher's lifetime if
that has come. The watchers are the same before and after. -/
theorem updates_coalesce (policy : Policy) (past : List (Surroundings × Inbound)) (r : Router)
    (sent : List Notify) (hrun : (start policy).run past = .ok (r, sent)) (user : String)
    (before after : List (Surroundings × Inbound)) (w : Surroundings) (last : Router) (log : Log)
    (hlog : r.journal (before ++ (w, .mailboxUpdate user) :: after) = .ok (last, log))
    (hlast : ∀ x ∈ after, x.2 ≠ .mailboxUpdate user) (hquiet : ∀ x ∈ log, Undisturbed user x)
    (v : Surroundings) (time : Int) (htime : last.nextSweep ≤ time) :
    ∃ reaction, last.handle v (.timerTick time) = .ok reaction ∧ reaction.outcome = .ticked true ∧
      (∀ s ∈ r.mailboxes.entries, s.resourceKey = user →
        (log.sent ++ reaction.sent).filter (Notify.isFor s.indexKey) =
          [s.tidings (w.mail user).summary time]) ∧
      ∀ t ∈ last.mailboxes.entries, t.resourceKey = user →
        ∃ s ∈ r.mailboxes.entries, s.resourceKey = user ∧ s.indexKey = t.indexKey := by
  obtain ⟨journaled, hpast, -⟩ := run_eq_ok _ _ _ _ hrun
  have hr := journal_sound policy past r journaled hpast
  have hsound : last.Sound := journal_keeps (fun _ q => q.Sound) (fun _ _ _ _ _ hs hd => hd.sound hs)
    _ [] log r last hr hlog
  have hticked : (last.tick time).outcome = .ticked true := by rw [tick, if_neg (by omega)]
  refine ⟨last.tick time, rfl, hticked, ?_, ?_⟩
  · rintro s hs rfl
    obtain ⟨hkey, hcolon, hheld⟩ := slot_watcher hr s hs
    obtain ⟨hslot, hsilent⟩ := journal_informed _ r last log hlog hr hquiet s.host s.port hcolon hkey
    have hnews := foldl_informed_last before after w s hlast
    have htick := (handled_of_tick last v time).heard hsound .messageSummary s.indexKey
      ⟨s.resourceKey, s.host, s.port, hkey⟩
    rw [hslot, hheld, Option.map_some, hnews] at htick
    rw [List.filter_append, hsilent, List.nil_append, htick, ← sweepSlot_posted]
    exact congrArg Prod.snd (if_neg (Int.not_lt.mpr htime))
  · rintro t ht rfl
    obtain ⟨hkey, hcolon, hheld⟩ := slot_watcher hsound t ht
    obtain ⟨hslot, -⟩ := journal_informed _ r last log hlog hr hquiet t.host t.port hcolon hkey
    rw [hslot, Option.map_eq_some_iff] at hheld
    obtain ⟨s, hs, hst⟩ := hheld
    obtain ⟨hmem, hindex⟩ := Registry.get?_mem _ _ s hs
    obtain ⟨body, waits, hfields⟩ := foldl_informed_fields
      (before ++ (w, .mailboxUpdate t.resourceKey) :: after) s
    have hresource : s.resourceKey = t.resourceKey := by rw [← hst, hfields]
    exact ⟨s, hmem, hresource, hindex⟩

/-- Two watchers hear of the second update only, and one of them for the last time. -/
theorem updates_coalesce_two :
    let ask (host : String) (expires : Int) : Surroundings × Inbound :=
      (⟨10, fun _ => {}⟩,
        .subscribe (sampleRequest .messageSummary "sip:100@pbx" host (some expires)))
    let past := [ask "10.0.0.1" 60, ask "10.0.0.2" 3600, (⟨20, fun _ => {}⟩, .timerTick 20)]
    let before : List (Surroundings × Inbound) :=
      [(⟨21, fun _ => ⟨2, 2⟩⟩, .mailboxUpdate "100"), (⟨22, fun _ => {}⟩, .timerTick 22)]
    let after : List (Surroundings × Inbound) :=
      [(⟨24, fun _ => ⟨9, 9⟩⟩, .callUpdate "100" none ⟨none, none, none⟩)]
    ∃ r sent last log reaction, (start {}).run past = .ok (r, sent) ∧
      r.journal (before ++ (⟨23, fun _ => ⟨3, 1⟩⟩, .mailboxUpdate "100") :: after) =
        .ok (last, log) ∧
      last.handle ⟨80, fun _ => {}⟩ (.timerTick 80) = .ok reaction ∧
      (r.mailboxes.entries.map fun s => (s.host, s.expiresAt)) =
        [("10.0.0.1", 70), ("10.0.0.2", 3610)] ∧
      ∀ s ∈ r.mailboxes.entries, (log.sent ++ reaction.sent).filter (Notify.isFor s.indexKey) =
        [s.tidings "Messages-Waiting: yes\r\nVoice-Message: 1/3\r\n" 80] := by
  intro ask past before after
  let events := before ++ (⟨23, fun _ => ⟨3, 1⟩⟩, .mailboxUpdate "100") :: after
  obtain ⟨r, _, hrun, -, hheld⟩ := run_of_seen (start {}) past
    (fun r _ => (r.mailboxes.entries.map (fun s => (s.host, s.expiresAt)),
      r.mailboxes.entries.map (fun s => s.resourceKey),
      (r.journal events).toOption.map fun o => (o.1.nextSweep, o.2.map fun x => x.2.outcome)))
    ([("10.0.0.1", 70), ("10.0.0.2", 3610)], ["100", "100"],
      some (35, [.updated 2, .ticked false, .updated 2, .updated 0])) (by decide +kernel)
  simp only [Prod.mk.injEq] at hheld
  obtain ⟨hentries, hkeys, hlater⟩ := hheld
  obtain ⟨last, log, -, hlog, hseen⟩ := run_of_seen r events
    (fun last log => (last.nextSweep, log.map fun x => x.2.outcome)) _ hlater
  obtain ⟨hdue, houtcomes⟩ := Prod.mk.inj hseen
  have hquiet : ∀ x ∈ log, Undisturbed "100" x := by
    intro x hx
    have hinput : x.1 ∈ events := journal_inputs _ _ _ _ hlog ▸ List.mem_map_of_mem hx
    have houtcome : x.2.outcome ∈ log.map fun x => x.2.outcome := List.mem_map_of_mem hx
    rw [houtcomes] at houtcome
    refine ⟨fun h => ?_, fun request hr => ?_⟩
    · simp [h] at houtcome
    · simp [events, before, after] at hinput
      rcases hinput with h | h | h | h <;> simp [h] at hr
  obtain ⟨reaction, hr, -, htold, -⟩ := updates_coalesce {} past r _ hrun "100" before after _
    last log hlog (by simp [after]) hquiet ⟨80, fun _ => {}⟩ 80 (by omega)
  refine ⟨r, _, last, log, reaction, hrun, hlog, hr, hentries, fun s hs => ?_⟩
  have hkey : s.resourceKey ∈ r.mailboxes.entries.map fun s => s.resourceKey :=
    List.mem_map_of_mem hs
  rw [hkeys] at hkey
  exact htold s hs (by simpa using hkey)

end Router
end SipNotifier
