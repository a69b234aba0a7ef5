import SipNotifier.Proofs.Dialog.WellFormed
import SipNotifier.Proofs.Router.Delivery
import SipNotifier.Proofs.Router.Reports
import SipNotifier.Proofs.Uri.AtSign

/-! What the dialog documents that are sent are made from. An entry holds a document of its request's URI
and of what the last report on the resource has made known (`shown?`), and every NOTIFY for the key
carries it (`Documented`). Main statement: whatever these two texts are, the document can be read, and
when it is well formed and shows them as they are (`documents_exact`). -/
namespace SipNotifier.Router
open Subscription Dialog
set_option autoImplicit false

/-! ## What reports make known -/

/-- The identifier of the dialog that a report on the resource makes known, or none if it makes none
known. Other events are no report on it. -/
def reportedId? (uri : String) (event : Inbound) : Option (Option String) :=
  match change? event with
  | some (.dialog, changed, .call call id) =>
    if resourceOf? uri = some changed then
      some (id.filter fun i => i ≠ "" && (State.ofCall? call).isSome)
    else none
  | _ => none

/-- The request that was last accepted for the key, and the identifier that the last report since then
has made known, if it has. -/
def shown? (key : String) (log : Log) : Option (SubscribeRequest × Option String) :=
  log.foldl (fun shown z =>
    if z.2.outcome.acceptedKey? = some key then (requestOf? z.1.2).map fun request => (request, none)
    else shown.map fun (request, id) => (request, (reportedId? request.uri z.1.2).getD id)) none
where
  requestOf? : Inbound → Option SubscribeRequest
    | .subscribe request => some request
    | _ => none

theorem shown?_accepted (key : String) (log : Log) (w : Surroundings) (request : SubscribeRequest)
    (reaction : Reaction) (h : reaction.outcome.acceptedKey? = some key) :
    shown? key (log ++ [((w, .subscribe request), reaction)]) = some (request, none) := by
  simp [shown?, shown?.requestOf?, List.foldl_append, h]

theorem shown?_quiet (key : String) (log : Log) (x : Surroundings × Inbound) (reaction : Reaction)
    (h : reaction.outcome.acceptedKey? ≠ some key) :
    shown? key (log ++ [(x, reaction)]) = (shown? key log).map fun (request, id) =>
      (request, (reportedId? request.uri x.2).getD id) := by
  simp [shown?, List.foldl_append, h]

theorem elementId (s : Subscription) (call : CallStatus) (id : Option String) :
    (s.element? (.call call id)).map (fun e => e.id) =
      id.filter fun i => i ≠ "" && (State.ofCall? call).isSome := by
  cases id with
  | none => rfl
  | some i =>
    rw [Option.filter_some]
    by_cases hi : i = ""
    · rw [element?_silent s call (some i) (.inr (.inr (by rw [hi]))), hi]
      rfl
    · cases hstate : State.ofCall? call with
      | none =>
        rw [element?_silent s call (some i) (.inl hstate)]
        simp
      | some state =>
        rw [element?_call s call i state hstate hi]
        simp [hi, dialogOf]

theorem reportedId?_of_change {event : Inbound} {p : Package} {changed : String} {change : Change}
    (hc : change? event = some (p, changed, change)) (s : Subscription)
    (hs : resourceOf? s.requestUri = some s.resourceKey) :
    reportedId? s.requestUri event =
      if p = .dialog ∧ changed = s.resourceKey then
        some ((s.element? change).map fun e => e.id)
      else none := by
  have hreport : ∀ resource call id, change? event = some (.dialog, resource, .call call id) →
      reportedId? s.requestUri event =
        if resource = s.resourceKey then some ((s.element? (.call call id)).map fun e => e.id)
        else none := by
    intro resource call id h
    simp only [reportedId?, h, hs, Option.some.injEq, elementId, eq_comm]
  cases event with
  | mailboxUpdate user =>
    cases hc
    rfl
  | callUpdate external channel call =>
    cases hc
    simpa using hreport _ _ _ rfl
  | channelUpdate id call =>
    cases hc
    simpa using hreport _ _ _ rfl
  | subscribe request => cases hc
  | timerTick time => cases hc
  | diagnosticQuery => cases hc

theorem tag_of_element? (s : Subscription) (change : Change) :
    ∀ e ∈ s.element? change, e.tag = s.resourceKey := by
  intro e he
  cases change with
  | subscribed => cases he
  | mailbox => cases he
  | call call id =>
    cases id with
    | none => cases he
    | some id =>
      simp only [element?, Option.mem_def, Option.ite_none_left_eq_some, Option.map_eq_some_iff] at he
      obtain ⟨-, state, -, rfl⟩ := he
      rfl

/-- The body is a document of the URI that tells of the dialog with the identifier, if there is one. -/
def Draws (uri resource : String) (id : Option String) (body : String) : Prop :=
  ∃ version element, body = document version uri element ∧ (element.map fun e => e.id) = id ∧
    ∀ e ∈ element, e.tag = resource

/-! ## One entry -/

variable {policy : Policy} {due : Int} {key : String} {w : Surroundings} {event : Inbound}

/-- An entry that stays, and all that is sent for it, have such a document. -/
structure Tells (uri resource : String) (id : Option String)
    (o : Option Subscription × List Notify) : Prop where
  held : ∀ s, o.1 = some s → s.requestUri = uri ∧ Draws uri resource id s.body
  sent : ∀ n ∈ o.2, Draws uri resource id n.body

theorem draws_reported (s : Subscription) (change : Change) :
    Draws s.requestUri s.resourceKey ((s.element? change).map fun e => e.id)
      (s.reported (s.element? change)).body :=
  ⟨s.nextVersion, s.element? change, rfl, rfl, tag_of_element? s change⟩

theorem tells_of_change (s : Subscription) (hs : Stored .dialog s) (id : Option String)
    (hbody : Draws s.requestUri s.resourceKey id s.body) (p : Package) (changed : String)
    (change : Change) (hc : change? event = some (p, changed, change)) :
    Tells s.requestUri s.resourceKey ((reportedId? s.requestUri event).getD id)
      (slotStep policy due .dialog key w event (some s)) := by
  rw [slotStep_updated _ _ _ _ _ _ _ _ _ _ hc, reportedId?_of_change hc s hs.resource]
  by_cases hwatch : p = .dialog ∧ changed = s.resourceKey
  · obtain ⟨rfl, rfl⟩ := hwatch
    have hdraws := draws_reported s change
    have htouch : touch .dialog w event s = (s.reported (s.element? change),
        if (s.element? change).isSome then some (s.reported (s.element? change)).record else none) := by
      simp only [touch, hc, if_true]
      rw [Registry.refresh_reported _ s hs.package hs.isResourceKey.nonempty change w.mail, if_pos rfl]
    rw [stir, htouch, if_pos ⟨rfl, rfl⟩, Option.getD_some]
    constructor
    · intro t ht
      obtain rfl := Option.some.inj ht
      exact ⟨rfl, hdraws⟩
    · intro n hn
      simp only [Option.mem_toList, Option.ite_none_right_eq_some, Option.some.injEq] at hn
      exact hn.2 ▸ hdraws
  · have hspared := stir_spared .dialog p s.resourceKey changed change w event hc hwatch (some s)
      fun t ht => by rw [Option.some.inj ht]
    rw [hspared, if_neg hwatch, Option.getD_none]
    exact ⟨fun t ht => Option.some.inj ht ▸ ⟨rfl, hbody⟩, by simp⟩

theorem tells_slotStep (s : Subscription) (hs : Stored .dialog s) (id : Option String)
    (hbody : Draws s.requestUri s.resourceKey id s.body)
    (hrep : ∀ t, ¬ Replaces policy .dialog key w event t) :
    Tells s.requestUri s.resourceKey ((reportedId? s.requestUri event).getD id)
      (slotStep policy due .dialog key w event (some s)) := by
  have hsame : Tells s.requestUri s.resourceKey id (some s, []) :=
    ⟨fun t ht => Option.some.inj ht ▸ ⟨rfl, hbody⟩, by simp⟩
  cases event with
  | subscribe request =>
    rw [slotStep_subscribe policy due .dialog key w request (some s) hrep]
    exact hsame
  | timerTick time =>
    change Tells _ _ id _
    simp only [slotStep, sweepSlot]
    split
    · exact hsame
    · split
      · rw [expire_of_body s hs.body]
        refine ⟨by simp, fun n hn => ?_⟩
        rw [List.mem_singleton.mp hn]
        exact hbody
      · rw [flush_of_body s hs.body]
        constructor
        · intro t ht
          obtain rfl := Option.some.inj ht
          exact ⟨rfl, hbody⟩
        · intro n hn
          simp only [Option.mem_toList, Option.ite_none_right_eq_some, Option.some.injEq] at hn
          exact hn.2 ▸ hbody
  | mailboxUpdate user => exact tells_of_change s hs id hbody _ _ _ rfl
  | callUpdate external channel call => exact tells_of_change s hs id hbody _ _ _ rfl
  | channelUpdate id' call => exact tells_of_change s hs id hbody _ _ _ rfl
  | diagnosticQuery =>
    rw [slotStep_listed]
    exact hsame

theorem tells_opened (s : Subscription) (mail : String → Mailbox.Counts) (h : s.kind = .dialog 0) :
    Tells s.requestUri s.resourceKey none (some (s.opened mail).1, (s.opened mail).2) := by
  rw [opened_dialog s mail h]
  constructor
  · intro t ht
    obtain rfl := Option.some.inj ht
    exact ⟨rfl, 0, none, rfl, rfl, by simp⟩
  · intro n hn
    rw [List.mem_singleton.mp hn]
    exact ⟨0, none, rfl, rfl, by simp⟩

/-! ## One event -/

/-- The body is a document of what is shown under the key. -/
def Presents (key : String) (log : Log) (uri body : String) : Prop :=
  ∃ request resource id, shown? key log = some (request, id) ∧ request.uri = uri ∧
    resourceOf? uri = some resource ∧ Draws uri resource id body

theorem Tells.presents {log : Log} {uri resource : String} {id : Option String}
    {o : Option Subscription × List Notify} (h : Tells uri resource id o) (request : SubscribeRequest)
    (hshown : shown? key log = some (request, id)) (huri : request.uri = uri)
    (hresource : resourceOf? uri = some resource) :
    (∀ s, o.1 = some s → Presents key log s.requestUri s.body) ∧
      ∀ n ∈ o.2, Presents key log uri n.body := by
  constructor
  · intro s hs
    obtain ⟨hsame, hdraws⟩ := h.held s hs
    exact hsame ▸ ⟨request, resource, id, hshown, huri, hresource, hdraws⟩
  · intro n hn
    exact ⟨request, resource, id, hshown, huri, hresource, h.sent n hn⟩

/-- Every entry presents what is shown under its key. -/
structure Documented (log : Log) (r : Router) : Prop where
  sound : r.Sound
  held : ∀ key s, IsKeyOf .dialog key → r.slot .dialog key = some s →
    Presents key log s.requestUri s.body

variable {r : Router} {reaction : Reaction} {log : Log}

theorem Documented.next (h : Documented log r) (hd : Handled r w event reaction)
    (hkey : IsKeyOf .dialog key) :
    (∀ s, reaction.router.slot .dialog key = some s →
      Presents key (log ++ [((w, event), reaction)]) s.requestUri s.body) ∧
    ∀ n ∈ reaction.sent.filter (Notify.isFor key),
      ∃ uri, Presents key (log ++ [((w, event), reaction)]) uri n.body := by
  rw [hd.slot h.sound, hd.heard h.sound .dialog key hkey]
  -- an accepted request starts over, any other event leaves the URI and may make a dialog known
  by_cases haccepted : reaction.outcome.acceptedKey? = some key
  · obtain ⟨s, hreplaces⟩ := (hd.acceptedKey? .dialog key hkey).mp haccepted
    rw [slotStep_replaced _ _ _ _ _ _ s _ hreplaces]
    obtain ⟨request, rfl, hrequest, -⟩ := hreplaces
    have hs := ofRequest_of_accepted? _ _ _ _ _ hrequest
    obtain ⟨_, _, _, -, -, hfields⟩ := ofRequest_eq_ok _ _ _ _ _ hs
    have huri : request.uri = s.requestUri := by rw [hfields]
    have hkind : s.kind = .dialog 0 := by
      rw [hfields]
      rfl
    obtain ⟨hheld, hsent⟩ := (tells_opened s w.mail hkind).presents request
      (shown?_accepted key log w request reaction haccepted) huri (ofRequest_resource _ _ _ _ _ hs)
    exact ⟨hheld, fun n hn => ⟨_, hsent n hn⟩⟩
  · have hrep : ∀ s, ¬ Replaces r.policy .dialog key w event s := fun s hs =>
      haccepted ((hd.acceptedKey? .dialog key hkey).mpr ⟨s, hs⟩)
    cases hslot : r.slot .dialog key with
    | none =>
      rw [slotStep_none _ _ _ _ _ _ hrep]
      exact ⟨by simp, by simp⟩
    | some s =>
      have hs := h.sound.slot .dialog key s hslot
      obtain ⟨request, resource, id, hshown, huri, hresource, hbody⟩ := h.held key s hkey hslot
      obtain rfl : s.resourceKey = resource := Option.some.inj (hs.resource.symm.trans hresource)
      have hnext : shown? key (log ++ [((w, event), reaction)]) =
          some (request, (reportedId? s.requestUri event).getD id) := by
        rw [shown?_quiet key log _ _ haccepted, hshown, ← huri]
        rfl
      have htells : Tells s.requestUri s.resourceKey ((reportedId? s.requestUri event).getD id)
          (slotStep r.policy r.nextSweep .dialog key w event (some s)) :=
        tells_slotStep s hs id hbody hrep
      obtain ⟨hheld, hsent⟩ := htells.presents request hnext huri hresource
      exact ⟨hheld, fun n hn => ⟨_, hsent n hn⟩⟩

/-! ## Runs -/

theorem journal_documented (policy : Policy) (events : List (Surroundings × Inbound)) (last : Router)
    (log : Log) (h : (start policy).journal events = .ok (last, log)) : Documented log last := by
  have hstart : Documented [] (start policy) := by
    refine ⟨Holds.start _ policy, fun key s _ hs => ?_⟩
    simp [slot, start, registry, Registry.get?] at hs
  refine journal_keeps Documented ?_ events [] log _ last hstart h
  intro log r w event reaction hbefore hd
  exact ⟨hd.sound hbefore.sound, fun key s hkey hs => (hbefore.next hd hkey).1 s hs⟩

theorem key?_of_mem_forEach (q : Registry) (step : Subscription → Subscription × Option Notify)
    (hd : ∀ s, Delivers s (step s))
    (hq : ∀ s ∈ q.entries, resourceOf? s.requestUri = some s.resourceKey) (n : Notify)
    (hn : n ∈ (q.forEach step).2) : ∃ key, n.key? = some key := by
  obtain ⟨s, hs, hsent⟩ := List.mem_filterMap.mp hn
  exact ⟨s.indexKey, (hd s).key? s _ (hq s hs) n hsent⟩

/-- Whatever the router sends is for a key. -/
theorem Handled.key? (hd : Handled r w event reaction) (h : r.Sound) (n : Notify)
    (hn : n ∈ reaction.sent) : ∃ key, n.key? = some key := by
  have hresource : ∀ p, ∀ s ∈ (r.registry p).entries, resourceOf? s.requestUri = some s.resourceKey :=
    fun p s hs => ((h.registry p).entries s hs).resource
  cases hd with
  | enrolled request p s ha =>
    have hs := ofRequest_resource _ _ _ _ _ (ofRequest_of_accepted? _ _ _ _ _ ha)
    exact ⟨s.indexKey, key?_of_mem_opened s w.mail hs n hn⟩
  | turnedDown request outcome ha ho => cases hn
  | updated event p resource change hc =>
    exact key?_of_mem_forEach _ _ (Registry.refresh_delivers resource change w.mail) (hresource p) n hn
  | swept time ht =>
    have hended : ∀ p, n ∈ ((r.registry p).sweep time).2 → ∃ key, n.key? = some key := by
      intro p hp
      rw [Registry.sweep_sent] at hp
      exact key?_of_mem_forEach _ _ (fun s => apply_delivers s (.checkExpiry time)) (hresource p) n hp
    have hflushed : ∀ p, n ∈ ((r.registry p).sweep time).1.flush.2 → ∃ key, n.key? = some key :=
      fun p hp => key?_of_mem_forEach _ _ flush_delivers
        (fun s hs => (((h.registry p).sweep time).entries s hs).resource) n hp
    simp only [sweep, List.mem_append] at hn
    rcases hn with ((hn | hn) | hn) | hn
    · exact hended .messageSummary hn
    · exact hended .dialog hn
    · exact hflushed .messageSummary hn
    · exact hflushed .dialog hn
  | ignored time ht => cases hn
  | listed text hl => cases hn

theorem isKeyOf_of_key? (n : Notify) (p : Package) (key : String) (hkey : n.key? = some key)
    (hevent : n.event = p.name) : IsKeyOf p key := by
  obtain ⟨resource, -, rfl⟩ := Option.map_eq_some_iff.mp hkey
  exact ⟨resource, n.host, n.port, by rw [hevent, keyOf]⟩

/-- A reader finds the two texts in the body, with the spaces in them made blanks. The body is well formed
exactly if a document may have all their characters, and shows them as they are exactly if none of these
stands in front of the blank, or is U+FFFE or U+FFFF. -/
structure Readable (body uri : String) (id : Option String) : Prop where
  read : ∃ events, Xml.read? body = some events ∧
    Xml.valuesOf "dialog-info" "entity" events = [Xml.normal uri] ∧
    Xml.valuesOf "dialog" "id" events = (id.map Xml.normal).toList ∧
    Xml.valuesOf "dialog" "call-id" events = (id.map Xml.normal).toList
  legal : (∃ events, Xml.Reads body events) ↔ Xml.Legal uri ∧ ∀ i ∈ id, Xml.Legal i
  shows : Shows body uri id ↔ Xml.Plain uri ∧ ∀ i ∈ id, Xml.Plain i

theorem Draws.readable {uri resource body : String} {id : Option String}
    (h : Draws uri resource id body) (hresource : resourceOf? uri = some resource) :
    Readable body uri id := by
  obtain ⟨version, element, rfl, rfl, htag⟩ := h
  have hwritten : ∀ e ∈ element, ∀ c ∈ e.tag.toList, c ∈ uri.toList := fun e he c hc =>
    Uri.mem_of_resourceOf? uri resource hresource c (htag e he ▸ hc)
  have hread := read?_document version uri element
  have hlegal := legal_document_iff version uri element
  have hvalues := valuesOf_document version uri element
  have hshows := shows_document_iff version uri element hwritten
  refine ⟨⟨_, hread, ?_⟩, ?_, ?_⟩
  · simpa [Function.comp_def] using hvalues
  · constructor
    · rintro ⟨events, hreads⟩
      obtain ⟨huri, helement⟩ := hlegal.mp hreads.legal
      refine ⟨huri, fun i hi => ?_⟩
      obtain ⟨e, he, rfl⟩ := Option.map_eq_some_iff.mp hi
      exact (helement e he).1
    · rintro ⟨huri, hid⟩
      refine ⟨_, hlegal.mpr ⟨huri, fun e he => ⟨hid _ (Option.mem_map_of_mem _ he), ?_⟩⟩, hread⟩
      exact fun c hc => huri c (hwritten e he c hc)
  · rw [hshows]
    simp

/-- Every NOTIFY of the dialog package has a document of the URI of the request that was last accepted for
its key, and of the dialog that the last report since then has made known. It can always be read, with one
root and all tags in balance; what its two texts may be made of decides whether it is well formed and
shows them as they are. -/
theorem documents_exact (policy : Policy) (events : List (Surroundings × Inbound)) (last : Router)
    (sent : List Notify) (h : (start policy).run events = .ok (last, sent)) :
    ∃ log, (start policy).journal events = .ok (last, log) ∧ sent = log.sent ∧
      ∀ early z late, log = early ++ z :: late → ∀ n ∈ z.2.sent, n.event = Package.dialog.name →
        ∃ key request id, n.key? = some key ∧ shown? key (early ++ [z]) = some (request, id) ∧
          Readable n.body request.uri id := by
  obtain ⟨log, hlog, rfl⟩ := run_eq_ok _ _ _ _ h
  refine ⟨log, hlog, rfl, ?_⟩
  rintro early z late rfl n hn hevent
  obtain ⟨r, hearly, hd, -⟩ := journal_at _ _ _ _ _ _ hlog
  have hbefore := journal_documented policy _ r early hearly
  obtain ⟨key, hkey⟩ := hd.key? hbefore.sound n hn
  have hheard : n ∈ z.2.sent.filter (Notify.isFor key) :=
    List.mem_filter.mpr ⟨hn, by simp [Notify.isFor, hkey]⟩
  obtain ⟨uri, request, resource, id, hshown, rfl, hresource, hdraws⟩ :=
    (hbefore.next hd (isKeyOf_of_key? n .dialog key hkey hevent)).2 n hheard
  exact ⟨key, request, id, hkey, hshown, hdraws.readable hresource⟩

/-- Marks in a correlation identifier reach the reader. -/
theorem documents_exact_marks :
    let w : Surroundings := ⟨10, fun _ => {}⟩
    let events : List (Surroundings × Inbound) :=
      [(w, .subscribe (sampleRequest .dialog "sip:100@pbx" "10.0.0.1" (some 60))),
        (w, .callUpdate "100" (some "<c&'1\">") ⟨none, some "answered", none⟩)]
    ∃ last n m, (start {}).run events = .ok (last, [n, m]) ∧ Shows n.body "sip:100@pbx" none ∧
      Shows m.body "sip:100@pbx" (some "<c&'1\">") := by
  intro w events
  let key := keyOf .dialog "100" "10.0.0.1" 5060
  obtain ⟨last, log, hrun, hlog, hseen⟩ := run_of_seen (start {}) events
    (fun _ log => (log.map fun z => z.2.sent.map fun n => (n.key?, n.event),
      [log.take 1, log].map fun seen => (shown? key seen).map fun x => (x.1.uri, x.2)))
    ([[(some key, "dialog")], [(some key, "dialog")]],
      [some ("sip:100@pbx", none), some ("sip:100@pbx", some "<c&'1\">")]) (by decide +kernel)
  obtain ⟨hsent, hshown⟩ := Prod.mk.inj hseen
  simp only [List.map_eq_cons_iff, List.map_eq_nil_iff, Prod.mk.injEq] at hsent
  obtain ⟨x, _, rfl, ⟨n, _, hxn, ⟨hnkey, hnevent⟩, rfl⟩, y, _, rfl,
    ⟨m, _, hym, ⟨hmkey, hmevent⟩, rfl⟩, rfl⟩ := hsent
  simp only [List.map_cons, List.map_nil, List.take_succ_cons, List.take_zero, List.cons.injEq,
    and_true] at hshown
  obtain ⟨_, hlog', -, hdocuments⟩ := documents_exact {} events last _ hrun
  obtain rfl := journal_log hlog hlog'
  have hshows : ∀ early z late, [x, y] = early ++ z :: late → ∀ k ∈ z.2.sent, k.event = "dialog" →
      k.key? = some key → ∀ id, ((shown? key (early ++ [z])).map fun x => (x.1.uri, x.2)) =
        some ("sip:100@pbx", id) → (∀ i ∈ id, Xml.Plain i) → Shows k.body "sip:100@pbx" id := by
    intro early z late hsplit k hk hevent hkey id hid hplain
    obtain ⟨found, request, i, hfound, hrequest, hreadable⟩ := hdocuments early z late hsplit k hk hevent
    obtain rfl := Option.some.inj (hkey.symm.trans hfound)
    simp only [hrequest, Option.map_some, Option.some.injEq, Prod.mk.injEq] at hid
    obtain ⟨huri, rfl⟩ := hid
    have hsame := hreadable.shows
    rw [huri] at hsame
    exact hsame.mpr ⟨by decide, hplain⟩
  refine ⟨last, n, m, ?_, hshows [] x [y] rfl n (by simp [hxn]) hnevent hnkey none hshown.1 (by simp),
    hshows [x] y [] rfl m (by simp [hym]) hmevent hmkey _ hshown.2 ?_⟩
  · rw [hrun]
    simp [Log.sent, hxn, hym]
  · rintro i hi
    obtain rfl := Option.some.inj hi
    decide

/-- A tab in a correlation identifier reaches the reader as a blank, and a document with a control
character in it is not well formed. -/
theorem documents_of_control_characters :
    let bodies (id : String) : Option (List String) :=
      ((start {}).run [(⟨1700000000, fun _ => {}⟩,
          .subscribe (sampleRequest .dialog "sip:100@pbx" "198.51.100.7" (some 300))),
        (⟨1700000000, fun _ => {}⟩,
          .callUpdate "100" (some id) ⟨none, some "answered", none⟩)]).toOption.map fun o =>
            o.2.map fun n => n.body
    (∃ first body, bodies "c\t1" = some [first, body] ∧ ¬ Shows body "sip:100@pbx" (some "c\t1") ∧
      Shows body "sip:100@pbx" (some "c 1")) ∧
    ∃ first body, bodies "c\x01" = some [first, body] ∧ ¬ ∃ events, Xml.Reads body events := by
  intro bodies
  have hbodies : ∀ id ∈ ["c\t1", "c\x01"], bodies id = some [document 0 "sip:100@pbx" none,
      document 1 "sip:100@pbx" (some ⟨id, "100", none, .confirmed⟩)] := by decide +kernel
  refine ⟨⟨_, _, hbodies "c\t1" (by simp), ?_, ?_⟩, _, _, hbodies "c\x01" (by simp), ?_⟩
  · intro h
    have hplain := (shows_document_iff 1 "sip:100@pbx" (some ⟨"c\t1", "100", none, .confirmed⟩)
      (by simp)).mp h
    exact absurd (hplain.2 _ rfl) (by decide)
  · have hlegal := (legal_document_iff 1 "sip:100@pbx" (some ⟨"c\t1", "100", none, .confirmed⟩)).mpr
      (by decide)
    have hvalues := valuesOf_document 1 "sip:100@pbx" (some ⟨"c\t1", "100", none, .confirmed⟩)
    have hentity : Xml.normal "sip:100@pbx" = "sip:100@pbx" := by decide
    have hid : Xml.normal "c\t1" = "c 1" := by decide
    simp only [Option.map_some, hentity, hid] at hvalues
    exact ⟨_, ⟨hlegal, read?_document _ _ _⟩, hvalues⟩
  · rintro ⟨found, hreads⟩
    have hlegal := (legal_document_iff 1 "sip:100@pbx" (some ⟨"c\x01", "100", none, .confirmed⟩)).mp
      hreads.legal
    exact absurd (hlegal.2 _ rfl).1 (by decide)

end SipNotifier.Router
