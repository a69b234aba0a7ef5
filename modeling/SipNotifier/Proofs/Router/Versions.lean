import SipNotifier.Proofs.Dialog.ReadBack
import SipNotifier.Proofs.Router.Silence

/-! The versions of dialog documents. A version counts the renders of an entry, but is seen only where
a NOTIFY is sent. `Numbered` is what ties the two: the body of an entry is the last document that
was drawn, and it goes beyond everything heard exactly if it waits. What is sent therefore rises
from NOTIFY to NOTIFY; only a timeout tells the last document again. -/
namespace SipNotifier
open Subscription
set_option autoImplicit false

/-- The version of the document that the NOTIFY carries. -/
def Notify.version? (n : Notify) : Option Nat := (Dialog.report? n.body).map fun r => r.version

/-! ## Documents of a subscription -/

namespace Subscription

/-- The subscription with a new document that waits. -/
def drawn (s : Subscription) (version : Nat) (element : Option Dialog.Element) : Subscription :=
  { s with
    kind := .dialog (version + 1)
    body := Dialog.document version s.requestUri element
    pending := true }

theorem version?_drawn (s : Subscription) (version : Nat) (element : Option Dialog.Element) :
    (s.drawn version element).record.version? = some version := by
  change (Dialog.report? (Dialog.document version s.requestUri element)).map _ = _
  rw [Dialog.report?_document]
  rfl

theorem flush_drawn (s : Subscription) (version : Nat) (element : Option Dialog.Element) :
    (s.drawn version element).flush =
      ({ s.drawn version element with pending := false }, some (s.drawn version element).record) :=
  flush_of_waiting _ (document_ne_empty version s.requestUri element) rfl

/-- A render draws the next document, which waits or is sent at once. -/
theorem render_dialog (s : Subscription) (version : Nat) (change : Change)
    (mail : String → Mailbox.Counts) (h : s.kind = .dialog version) :
    ∃ element, s.render change mail = (s.drawn version element, none) ∨
      s.render change mail =
        ({ s.drawn version element with pending := false },
          some (s.drawn version element).record) := by
  refine ⟨s.element? change, ?_⟩
  simp only [render, h]
  split
  · exact .inr (flush_drawn s version _)
  · exact .inl rfl

theorem opened_dialog (s : Subscription) (mail : String → Mailbox.Counts)
    (h : s.kind = .dialog 0) :
    s.opened mail = ({ s.drawn 0 none with pending := false }, [(s.drawn 0 none).record]) := by
  have hrender : s.render .subscribed mail = (s.drawn 0 none, none) := by
    simp only [render, h]
    rfl
  simp [opened, hrender, flush_drawn]

end Subscription

namespace Router

/-! ## One event -/

/-- The event is a report on the resource. -/
def updates (resource : String) (event : Inbound) : Bool :=
  match change? event with
  | some (.dialog, changed, _) => changed == resource
  | _ => false

/-- What an event that replaces nothing does to a dialog entry. -/
inductive Took (event : Inbound) (s : Subscription) (version : Nat) :
    Option Subscription × List Notify → Prop
  | idle (h : updates s.resourceKey event = false) : Took event s version (some s, [])
  | drew (element : Option Dialog.Element) (h : updates s.resourceKey event = true) :
      Took event s version (some (s.drawn version element), [])
  | published (element : Option Dialog.Element) (h : updates s.resourceKey event = true) :
      Took event s version (some { s.drawn version element with pending := false },
        [(s.drawn version element).record])
  | flushed (h : updates s.resourceKey event = false) (hp : s.pending = true) :
      Took event s version (some { s with pending := false }, [s.record])
  | ended (n : Notify) (h : updates s.resourceKey event = false) (hb : n.body = s.body)
      (hn : n.subscriptionState = "terminated;reason=timeout") :
      Took event s version (none, [n])

variable (policy : Policy) (due : Int) {key : String} {w : Surroundings} {event : Inbound}

theorem took_of_change (s : Subscription) (version : Nat) (hs : Stored .dialog s)
    (hk : s.kind = .dialog version) (p : Package) (changed : String) (change : Change)
    (hc : change? event = some (p, changed, change)) :
    Took event s version (slotStep policy due .dialog key w event (some s)) := by
  rw [slotStep_updated _ _ _ _ _ _ _ _ _ _ hc]
  by_cases hwatch : p = .dialog ∧ changed = s.resourceKey
  · obtain ⟨rfl, rfl⟩ := hwatch
    have hupdates : updates s.resourceKey event = true := by simp [updates, hc]
    have hwatches : Registry.watches s.resourceKey s = true := by
      simpa [Registry.watches] using hs.isResourceKey.nonempty
    have htouch : touch .dialog w event s = s.render change w.mail := by
      simp [touch, hc, Registry.refresh, hwatches]
    obtain ⟨element, hrender | hrender⟩ := render_dialog s version change w.mail hk
    · rw [stir, htouch, hrender]
      exact .drew element hupdates
    · rw [stir, htouch, hrender]
      exact .published element hupdates
  · have hspared := stir_spared .dialog p s.resourceKey changed change w event hc hwatch (some s)
      fun t ht => by rw [Option.some.inj ht]
    rw [hspared]
    refine .idle ?_
    cases p with
    | messageSummary => simp [updates, hc]
    | dialog =>
      have hne : changed ≠ s.resourceKey := fun h => hwatch ⟨rfl, h⟩
      simpa [updates, hc] using hne

theorem took_slotStep (s : Subscription) (version : Nat) (hs : Stored .dialog s)
    (hk : s.kind = .dialog version) (hrep : ∀ t, ¬ Replaces policy .dialog key w event t) :
    Took event s version (slotStep policy due .dialog key w event (some s)) := by
  cases event with
  | subscribe request =>
    rw [slotStep_subscribe policy due .dialog key w request (some s) hrep]
    exact .idle rfl
  | timerTick time =>
    simp only [slotStep, sweepSlot]
    split
    · exact .idle rfl
    · split
      · rw [expire_of_body s hs.body]
        exact .ended s.farewell rfl rfl rfl
      · cases hp : s.pending with
        | true =>
          rw [flush_of_waiting s hs.body hp]
          exact .flushed rfl hp
        | false =>
          have hflush : s.flush = (s, none) := by rw [flush, hp, if_neg (by decide)]
          rw [hflush]
          exact .idle rfl
  | mailboxUpdate user => exact took_of_change policy due s version hs hk _ _ _ rfl
  | callUpdate external channel call => exact took_of_change policy due s version hs hk _ _ _ rfl
  | channelUpdate id call => exact took_of_change policy due s version hs hk _ _ _ rfl
  | diagnosticQuery =>
    rw [slotStep_listed]
    exact .idle rfl

/-! ## Rising versions -/

/-- The later NOTIFY has the higher version. -/
def Rises (n m : Notify) : Prop :=
  ∃ v u, n.version? = some v ∧ m.version? = some u ∧ v < u

def Rising (heard : List Notify) : Prop :=
  ∀ front n m back, heard = front ++ n :: m :: back → Rises n m

/-- A timeout tells the document of the NOTIFY before it again. -/
structure Retells (n m : Notify) : Prop where
  state : m.subscriptionState = "terminated;reason=timeout"
  body : m.body = n.body

/-- From one NOTIFY to the next the version rises, or the next is the last and tells the same
document. -/
def Ascends (heard : List Notify) : Prop :=
  ∀ front n m back, heard = front ++ n :: m :: back → Rises n m ∨ back = [] ∧ Retells n m

/-- Two neighbours in a longer list were neighbours before, or the last has found its neighbour. -/
theorem neighbours_concat (heard front back : List Notify) (m k l : Notify)
    (h : heard ++ [m] = front ++ k :: l :: back) :
    (∃ more, heard = front ++ k :: l :: more) ∨ back = [] ∧ heard.getLast? = some k ∧ l = m := by
  rcases List.eq_nil_or_concat back with rfl | ⟨more, z, rfl⟩
  · have hsplit : heard ++ [m] = (front ++ [k]) ++ [l] := by simpa using h
    obtain ⟨hheard, hml⟩ := List.append_inj' hsplit rfl
    rw [List.singleton_inj] at hml
    exact .inr ⟨rfl, by rw [hheard, List.getLast?_concat], hml.symm⟩
  · have hsplit : heard ++ [m] = (front ++ k :: l :: more) ++ [z] := by simpa using h
    exact .inl ⟨more, (List.append_inj' hsplit rfl).1⟩

theorem rising_singleton (n : Notify) : Rising [n] := by
  intro front k l back h
  have hlen := congrArg List.length h
  simp only [List.length_cons, List.length_nil, List.length_append] at hlen
  omega

theorem Rising.ascends (heard : List Notify) (h : Rising heard) : Ascends heard :=
  fun front n m back he => .inl (h front n m back he)

variable {heard : List Notify} {n m : Notify}

theorem Rising.concat (h : Rising heard) (hlast : heard.getLast? = some n) (hm : Rises n m) :
    Rising (heard ++ [m]) := by
  intro front k l back he
  rcases neighbours_concat heard front back m k l he with ⟨more, hheard⟩ | ⟨-, hk, rfl⟩
  · exact h front k l more hheard
  · rw [hlast, Option.some.injEq] at hk
    exact hk ▸ hm

theorem Rising.ends (h : Rising heard) (hlast : heard.getLast? = some n)
    (hm : Rises n m ∨ Retells n m) : Ascends (heard ++ [m]) := by
  intro front k l back he
  rcases neighbours_concat heard front back m k l he with ⟨more, hheard⟩ | ⟨hback, hk, rfl⟩
  · exact .inl (h front k l more hheard)
  · rw [hlast, Option.some.injEq] at hk
    exact hk ▸ hm.imp_right fun hr => ⟨hback, hr⟩

/-! ## Renders and versions -/

/-- An entry that was rendered so often, and what its key has heard of it. -/
structure Numbered (count : Nat) (heard : List Notify) (s : Subscription) : Prop where
  kind : s.kind = .dialog count
  version : ∃ v, s.record.version? = some v ∧ v + 1 = count
  rises : Rising heard
  last : ∃ n, heard.getLast? = some n ∧
    (s.pending = true ∧ Rises n s.record ∨ s.pending = false ∧ n.body = s.body)

variable {count : Nat} {s : Subscription}

/-- All that was heard is behind the next document. -/
theorem Numbered.behind (h : Numbered count heard s) :
    ∃ n v, heard.getLast? = some n ∧ n.version? = some v ∧ v < count := by
  obtain ⟨v, hv, hcount⟩ := h.version
  obtain ⟨n, hn, ⟨-, u, x, hu, hx, hlt⟩ | ⟨-, hbody⟩⟩ := h.last
  · rw [hv, Option.some.injEq] at hx
    exact ⟨n, u, hn, hu, by omega⟩
  · have hsame : n.version? = s.record.version? := by
      rw [Notify.version?, hbody]
      rfl
    exact ⟨n, v, hn, hsame.trans hv, by omega⟩

theorem Numbered.drawn (h : Numbered count heard s) (element : Option Dialog.Element) :
    ∃ n, heard.getLast? = some n ∧ Rises n (s.drawn count element).record := by
  obtain ⟨n, v, hn, hv, hlt⟩ := h.behind
  exact ⟨n, hn, v, count, hv, version?_drawn s count element, hlt⟩

/-- The entry of a resource under a key, or none once its time has run out. -/
inductive Story (resource : String) (count : Nat) (heard : List Notify) :
    Option Subscription → Prop
  | held (s : Subscription) (hr : s.resourceKey = resource) (h : Numbered count heard s) :
      Story resource count heard (some s)
  | gone (h : Ascends heard) : Story resource count heard none

theorem Story.ascends {resource : String} {slot : Option Subscription}
    (h : Story resource count heard slot) : Ascends heard := by
  cases h with
  | held s hr h => exact h.rises.ascends
  | gone h => exact h

theorem story_opened (t : Subscription) (mail : String → Mailbox.Counts) (h : t.kind = .dialog 0) :
    Story t.resourceKey 1 (t.opened mail).2 (some (t.opened mail).1) := by
  have hversion := version?_drawn t 0 none
  rw [opened_dialog t mail h]
  exact .held _ rfl {
    kind := rfl
    version := ⟨0, hversion, rfl⟩
    rises := rising_singleton _
    last := ⟨_, rfl, .inr ⟨rfl, rfl⟩⟩ }

/-- The NOTIFY carries the document of the last of so many renders. -/
def Counts (count : Nat) (n : Notify) : Prop := ∃ v, n.version? = some v ∧ v + 1 = count

def rendersBy (resource : String) (event : Inbound) : Nat :=
  if updates resource event then 1 else 0

theorem Story.step {resource : String} {slot : Option Subscription}
    (h : Story resource count heard slot) (hstored : ∀ s, slot = some s → Stored .dialog s)
    (hrep : ∀ t, ¬ Replaces policy .dialog key w event t) :
    Story resource (count + rendersBy resource event)
        (heard ++ (slotStep policy due .dialog key w event slot).2)
        (slotStep policy due .dialog key w event slot).1 ∧
      ∀ n ∈ (slotStep policy due .dialog key w event slot).2,
        Counts (count + rendersBy resource event) n := by
  cases h with
  | gone h =>
    rw [slotStep_none _ _ _ _ _ _ hrep]
    exact ⟨.gone (by rwa [List.append_nil]), by simp⟩
  | held s hr h =>
    subst hr
    have htook := took_slotStep policy due s count (hstored s rfl) h.kind hrep
    generalize slotStep policy due .dialog key w event (some s) = o at htook ⊢
    cases htook with
    | idle hquiet =>
      simp only [rendersBy, hquiet, Bool.false_eq_true, if_false, Nat.add_zero, List.append_nil]
      exact ⟨.held s rfl h, by simp⟩
    | drew element hupdates =>
      simp only [rendersBy, hupdates, if_true, List.append_nil]
      obtain ⟨n, hn, hrise⟩ := h.drawn element
      refine ⟨.held _ rfl ⟨rfl, ⟨count, version?_drawn s count element, rfl⟩, h.rises, n, hn,
        .inl ⟨rfl, hrise⟩⟩, by simp⟩
    | published element hupdates =>
      simp only [rendersBy, hupdates, if_true]
      obtain ⟨n, hn, hrise⟩ := h.drawn element
      have hversion := version?_drawn s count element
      refine ⟨.held _ rfl ⟨rfl, ⟨count, hversion, rfl⟩, h.rises.concat hn hrise, _,
        List.getLast?_concat .., .inr ⟨rfl, rfl⟩⟩, ?_⟩
      intro m hm
      rw [List.mem_singleton.mp hm]
      exact ⟨count, hversion, rfl⟩
    | flushed hquiet hp =>
      simp only [rendersBy, hquiet, Bool.false_eq_true, if_false, Nat.add_zero]
      obtain ⟨n, hn, ⟨-, hrise⟩ | ⟨hp', -⟩⟩ := h.last
      · refine ⟨.held _ rfl ⟨h.kind, h.version, h.rises.concat hn hrise, _,
          List.getLast?_concat .., .inr ⟨rfl, rfl⟩⟩, ?_⟩
        intro m hm
        rw [List.mem_singleton.mp hm]
        exact h.version
      · rw [hp] at hp'
        exact absurd hp' (by decide)
    | ended m hquiet hb hstate =>
      simp only [rendersBy, hquiet, Bool.false_eq_true, if_false, Nat.add_zero]
      have hsame : m.version? = s.record.version? := by
        rw [Notify.version?, hb]
        rfl
      have hcounts : Counts count m := by
        obtain ⟨v, hv, hcount⟩ := h.version
        exact ⟨v, hsame.trans hv, hcount⟩
      obtain ⟨n, hn, ⟨-, hrise⟩ | ⟨-, hbody⟩⟩ := h.last
      · refine ⟨.gone (h.rises.ends hn (.inl ?_)), by simpa using hcounts⟩
        obtain ⟨v, u, hv, hu, hlt⟩ := hrise
        exact ⟨v, u, hv, hsame.trans hu, hlt⟩
      · exact ⟨.gone (h.rises.ends hn (.inr ⟨hstate, hb.trans hbody.symm⟩)),
          by simpa using hcounts⟩

/-! ## Runs -/

theorem Handled.story {r : Router} {reaction : Reaction} {resource : String}
    (hd : Handled r w event reaction) (h : r.Sound) (hkey : IsKeyOf .dialog key)
    (hquiet : reaction.outcome.acceptedKey? ≠ some key)
    (hs : Story resource count heard (r.slot .dialog key)) :
    Story resource (count + rendersBy resource event)
        (heard ++ reaction.sent.filter (Notify.isFor key)) (reaction.router.slot .dialog key) ∧
      ∀ n ∈ reaction.sent, Notify.isFor key n = true →
        Counts (count + rendersBy resource event) n := by
  have hrep : ∀ t, ¬ Replaces r.policy .dialog key w event t := fun t ht =>
    hquiet ((hd.acceptedKey? .dialog key hkey).mpr ⟨t, ht⟩)
  obtain ⟨hnext, hsent⟩ := hs.step r.policy r.nextSweep
    (fun s hheld => h.slot .dialog key s hheld) hrep
  rw [hd.slot h, hd.heard h .dialog key hkey]
  refine ⟨hnext, ?_⟩
  intro n hn hfor
  have hheard := List.mem_filter.mpr ⟨hn, hfor⟩
  rw [hd.heard h .dialog key hkey] at hheard
  exact hsent n hheard

/-- A request that is accepted for the key starts its story with a first document. -/
theorem Handled.story_starts {r : Router} {reaction : Reaction} (hd : Handled r w event reaction)
    (h : r.Sound) (hkey : IsKeyOf .dialog key) (ha : reaction.outcome.acceptedKey? = some key) :
    ∃ request resource n, event = .subscribe request ∧ resourceOf? request.uri = some resource ∧
      reaction.sent.filter (Notify.isFor key) = [n] ∧ n.version? = some 0 ∧
      Story resource 1 [n] (reaction.router.slot .dialog key) := by
  obtain ⟨s, hreplaces⟩ := (hd.acceptedKey? .dialog key hkey).mp ha
  have hslot := hd.slot h .dialog key
  have hheard := hd.heard h .dialog key hkey
  rw [slotStep_replaced _ _ _ _ _ _ s _ hreplaces] at hslot hheard
  obtain ⟨request, rfl, haccepted, -⟩ := hreplaces
  obtain ⟨resource, state, last, hresource, -, hs⟩ :=
    ofRequest_eq_ok _ _ _ _ _ (ofRequest_of_accepted? _ _ _ _ _ haccepted)
  have hkind : s.kind = .dialog 0 := by
    rw [hs]
    rfl
  have hstory := story_opened s w.mail hkind
  have hopened : (s.opened w.mail).2 = [(s.drawn 0 none).record] :=
    congrArg Prod.snd (opened_dialog s w.mail hkind)
  rw [hopened] at hheard hstory
  refine ⟨request, resource, _, rfl, hresource, hheard, version?_drawn s 0 none, ?_⟩
  rw [hslot]
  rwa [hs] at hstory ⊢

/-- What a request asks to be notified of. -/
def requested? : Inbound → Option String
  | .subscribe request => resourceOf? request.uri
  | _ => none

/-- The event rendered the entry that the request made: it is the request itself, accepted for the
key, or a report on the resource. -/
def renders (key : String) (request : Inbound) (z : (Surroundings × Inbound) × Reaction) : Bool :=
  z.2.outcome.acceptedKey? == some key || (requested? request).any fun r => updates r z.1.2

theorem journal_story {r last : Router} {events : List (Surroundings × Inbound)} {log : Log}
    {resource : String} (h : r.journal events = .ok (last, log)) (hr : r.Sound)
    (hkey : IsKeyOf .dialog key) (hquiet : ∀ z ∈ log, z.2.outcome.acceptedKey? ≠ some key)
    (hs : Story resource count heard (r.slot .dialog key)) :
    last.Sound ∧ Story resource (count + log.countP fun z => updates resource z.1.2)
      (heard ++ log.sent.filter (Notify.isFor key)) (last.slot .dialog key) := by
  have hkeeps := journal_keeps
    (fun seen r => (∀ z ∈ seen, z.2.outcome.acceptedKey? ≠ some key) →
      r.Sound ∧ Story resource (count + seen.countP fun z => updates resource z.1.2)
        (heard ++ seen.sent.filter (Notify.isFor key)) (r.slot .dialog key))
    (by
      intro seen r w event reaction hseen hd hall
      obtain ⟨hsound, hbefore⟩ := hseen fun z hz => hall z (List.mem_append_left _ hz)
      have hnow := hall ((w, event), reaction) (by simp)
      have hnext := (hd.story hsound hkey hnow hbefore).1
      refine ⟨hd.sound hsound, ?_⟩
      simpa [Log.sent, List.countP_append, List.countP_singleton, rendersBy, Nat.add_assoc] using
        hnext)
    events [] log r last (fun _ => ⟨hr, by simpa [Log.sent] using hs⟩) h
  rw [List.nil_append] at hkeeps
  exact hkeeps hquiet

theorem renders_request (request : Inbound) {x : (Surroundings × Inbound) × Reaction}
    (h : x.2.outcome.acceptedKey? = some key) : renders key request x = true := by
  simp [renders, h]

theorem renders_quiet {request : Inbound} {z : (Surroundings × Inbound) × Reaction}
    {resource : String} (hr : requested? request = some resource)
    (h : z.2.outcome.acceptedKey? ≠ some key) :
    renders key request z = updates resource z.1.2 := by
  simp [renders, hr, h]

/-- The renders up to an event of the segment: the request's, and one for each report since. -/
theorem countP_renders {x z : (Surroundings × Inbound) × Reaction} {early : Log} {resource : String}
    (hx : x.2.outcome.acceptedKey? = some key) (hr : requested? x.1.2 = some resource)
    (hearly : ∀ e ∈ early, e.2.outcome.acceptedKey? ≠ some key)
    (hz : z.2.outcome.acceptedKey? ≠ some key) :
    (x :: early ++ [z]).countP (renders key x.1.2) =
      1 + (early.countP fun e => updates resource e.1.2) + rendersBy resource z.1.2 := by
  have hrenders := renders_request x.1.2 hx
  have hsame : early.countP (renders key x.1.2) = early.countP fun e => updates resource e.1.2 :=
    List.countP_congr fun e he => by rw [renders_quiet hr (hearly e he)]
  rw [List.cons_append, List.countP_cons, List.countP_append, List.countP_singleton, hsame,
    hrenders, renders_quiet hr hz, rendersBy]
  simp only [if_true]
  omega

/-- Between two requests that are accepted for a dialog key, the first NOTIFY for it carries version
zero, each carries one less than the renders of the entry up to then, and the version rises from one
to the next, unless the next is the last, tells a timeout and repeats the document. -/
theorem versions_count_renders (events : List (Surroundings × Inbound)) (last : Router)
    (sent : List Notify) (h : (start policy).run events = .ok (last, sent)) :
    ∃ log, (start policy).journal events = .ok (last, log) ∧ sent = log.sent ∧
      ∀ key, IsKeyOf .dialog key →
        ∀ before x between after, log = before ++ x :: (between ++ after) →
          x.2.outcome.acceptedKey? = some key →
          (∀ z ∈ between, z.2.outcome.acceptedKey? ≠ some key) →
          (∃ n rest, (Log.sent (x :: between)).filter (Notify.isFor key) = n :: rest ∧
            n.version? = some 0) ∧
          (∀ early z late, x :: between = early ++ z :: late →
            ∀ n ∈ z.2.sent, Notify.isFor key n = true →
              ∃ v, n.version? = some v ∧ v + 1 = (early ++ [z]).countP (renders key x.1.2) ∧
                v < events.length) ∧
          Ascends ((Log.sent (x :: between)).filter (Notify.isFor key)) := by
  obtain ⟨log, hlog, rfl⟩ := run_eq_ok _ _ _ _ h
  refine ⟨log, hlog, rfl, ?_⟩
  rintro key hkey before x between after rfl haccepted hquiet
  obtain ⟨r, hbefore, hd, hafter⟩ := journal_at _ _ _ _ _ _ hlog
  have hsound := journal_sound policy _ r before hbefore
  obtain ⟨request, resource, first, hrequest, hresource, hfirst, hzero, hstart⟩ :=
    hd.story_starts hsound hkey haccepted
  have hrequested : requested? x.1.2 = some resource := by
    rw [hrequest]
    exact hresource
  have hsent : (Log.sent (x :: between)).filter (Notify.isFor key) =
      [first] ++ (Log.sent between).filter (Notify.isFor key) := by
    rw [Log.sent, List.flatMap_cons, List.filter_append, hfirst]
    rfl
  obtain ⟨mid, hbetween, -⟩ := journal_split _ _ _ _ _ hafter
  obtain ⟨-, hstory⟩ := journal_story hbetween (hd.sound hsound) hkey hquiet hstart
  refine ⟨⟨first, _, hsent, hzero⟩, ?counted, hsent ▸ hstory.ascends⟩
  intro early z late hsplit n hn hfor
  -- Every event of the segment stands in the log, so a count of renders stays within the run.
  have hlength : (early ++ [z]).length ≤ events.length := by
    have hinputs := congrArg List.length (journal_inputs _ _ _ _ hlog)
    have hparts := congrArg List.length hsplit
    simp only [List.length_map, List.length_append, List.length_cons] at hinputs hparts
    simp only [List.length_append, List.length_singleton]
    omega
  have hbound := List.countP_le_length (p := renders key x.1.2) (l := early ++ [z])
  suffices hcounts : Counts ((early ++ [z]).countP (renders key x.1.2)) n by
    obtain ⟨v, hv, hcount⟩ := hcounts
    exact ⟨v, hv, hcount, by omega⟩
  cases early with
  | nil =>
    simp only [List.nil_append, List.cons.injEq] at hsplit
    obtain ⟨rfl, -⟩ := hsplit
    have hheard := List.mem_filter.mpr ⟨hn, hfor⟩
    rw [hfirst, List.mem_singleton] at hheard
    subst hheard
    have hrenders := renders_request x.1.2 haccepted
    exact ⟨0, hzero, by simp [hrenders]⟩
  | cons y early =>
    simp only [List.cons_append, List.cons.injEq] at hsplit
    obtain ⟨rfl, rfl⟩ := hsplit
    obtain ⟨q, hearly, hdz, -⟩ := journal_at _ _ _ _ _ _ hbetween
    have hquiet' : ∀ e ∈ early, e.2.outcome.acceptedKey? ≠ some key :=
      fun e he => hquiet e (List.mem_append_left _ he)
    have hnow := hquiet z (by simp)
    obtain ⟨hqsound, hqstory⟩ := journal_story hearly (hd.sound hsound) hkey hquiet' hstart
    rw [countP_renders haccepted hrequested hquiet' hnow]
    exact (hdz.story hqsound hkey hnow hqstory).2 n hn hfor

/-- A watcher that hears of a call until its time runs out: the timeout tells the call again. -/
theorem versions_count_renders_timeout :
    let w : Surroundings := ⟨10, fun _ => {}⟩
    let key := keyOf .dialog "100" "10.0.0.1" 5060
    let events : List (Surroundings × Inbound) :=
      [(w, .subscribe (sampleRequest .dialog "sip:100@pbx" "10.0.0.1" (some 60))),
        (w, .callUpdate "100" (some "c1") ⟨none, some "answered", none⟩), (w, .timerTick 100)]
    ∃ last sent n m k, (start {}).run events = .ok (last, sent) ∧
      sent.filter (Notify.isFor key) = [n, m, k] ∧ n.version? = some 0 ∧ m.version? = some 1 ∧
      k.version? = some 1 ∧ Retells m k := by
  intro w key events
  obtain ⟨last, log, hrun, hlog, hkeys⟩ := run_of_seen (start {}) events
    (fun _ log => log.map fun z => (z.2.outcome.acceptedKey?, z.2.sent.map Notify.key?))
    [(some key, [some key]), (none, [some key]), (none, [some key])] (by decide +kernel)
  have hinputs := journal_inputs _ _ _ _ hlog
  simp only [List.map_eq_cons_iff, List.map_eq_nil_iff, Prod.mk.injEq] at hkeys
  obtain ⟨x, _, rfl, ⟨hx, n, _, hxn, hn, rfl⟩, y, _, rfl, ⟨hy, m, _, hym, hm, rfl⟩, z, _, rfl,
    ⟨hz, k, _, hzk, hk, rfl⟩, rfl⟩ := hkeys
  obtain ⟨_, hlog', -, hversions⟩ := versions_count_renders {} events last _ hrun
  obtain rfl := journal_log hlog hlog'
  simp only [List.map_cons, List.map_nil, events, List.cons.injEq, and_true] at hinputs
  obtain ⟨hxi, hyi, hzi⟩ := hinputs
  have hfor : Notify.isFor key n = true ∧ Notify.isFor key m = true ∧ Notify.isFor key k = true := by
    simp [Notify.isFor, hn, hm, hk]
  have hheard : (Log.sent [x, y, z]).filter (Notify.isFor key) = [n, m, k] := by
    simp [Log.sent, hxn, hym, hzk, hfor]
  obtain ⟨-, hcounted, hascends⟩ := hversions key ⟨"100", "10.0.0.1", 5060, rfl⟩ [] x [y, z] [] rfl
    hx (by simp [hy, hz])
  have hrequested : requested? x.1.2 = some "100" := by
    rw [hxi]
    decide +kernel
  have hrenders : renders key x.1.2 x = true ∧ renders key x.1.2 y = true ∧
      renders key x.1.2 z = false := by
    simp [renders, hrequested, hx, hy, hz, hyi, hzi, updates, change?]
  obtain ⟨u, hu, hucount, -⟩ := hcounted [] x [y, z] rfl n (by simp [hxn]) hfor.1
  obtain ⟨v, hv, hvcount, -⟩ := hcounted [x] y [z] rfl m (by simp [hym]) hfor.2.1
  obtain ⟨t, ht, htcount, -⟩ := hcounted [x, y] z [] rfl k (by simp [hzk]) hfor.2.2
  have hzero : u = 0 := by simpa [hrenders] using hucount
  have hone : v = 1 := by simpa [hrenders] using hvcount
  have hagain : t = 1 := by simpa [hrenders] using htcount
  subst hzero hone hagain
  refine ⟨last, _, n, m, k, hrun, hheard, hu, hv, ht, ?_⟩
  rcases hascends [n] m k [] hheard with ⟨a, b, ha, hb, hlt⟩ | ⟨-, hretells⟩
  · simp only [hv, ht, Option.some.injEq] at ha hb
    omega
  · exact hretells

end Router
end SipNotifier
