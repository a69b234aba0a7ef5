import Mathlib.Data.List.Basic
import SipNotifier.Proofs.Router.Soundness
import SipNotifier.Proofs.Router.Versions

/-! What a report on a call or a channel does. Every watcher of the resource gets its next document; all
others stay as they are, and none changes its place. The report decides once, for all of them, whether
the document tells of a dialog: then it is sent at once, and otherwise it waits. Entries are matched by
their resource alone, since no stored one has an empty key. -/
namespace SipNotifier
open Subscription
set_option autoImplicit false

namespace Subscription

/-! ## One watcher -/

def nextVersion (s : Subscription) : Nat := s.kind.version?.getD 0

/-- The watcher with its next document, which waits unless it tells of a dialog. -/
def reported (s : Subscription) (element : Option Dialog.Element) : Subscription :=
  { s with
    kind := .dialog (s.nextVersion + 1)
    body := Dialog.document s.nextVersion s.requestUri element
    pending := element.isNone }

theorem kind_of_package (s : Subscription) (h : s.package = .dialog) :
    s.kind = .dialog s.nextVersion := by
  cases hk : s.kind with
  | mailbox => simp [package, hk, Kind.package] at h
  | dialog version => simp [nextVersion, hk, Kind.version?]

theorem render_reported (s : Subscription) (h : s.package = .dialog) (change : Change)
    (mail : String → Mailbox.Counts) :
    s.render change mail = (s.reported (s.element? change),
      if (s.element? change).isSome then some (s.reported (s.element? change)).record else none) := by
  have hkind := kind_of_package s h
  simp only [render, hkind]
  cases s.element? change with
  | none => rfl
  | some element => exact flush_drawn s s.nextVersion (some element)

theorem indexKey_reported (s : Subscription) (h : s.package = .dialog)
    (element : Option Dialog.Element) : (s.reported element).indexKey = s.indexKey := by
  rw [indexKey, indexKey, h]
  rfl

theorem report?_reported (s : Subscription) (element : Option Dialog.Element) :
    Dialog.report? (s.reported element).body =
      some { version := s.nextVersion, entity := s.requestUri
             dialog := element.map fun e => e.reported s.requestUri } :=
  Dialog.report?_document s.nextVersion s.requestUri element

/-- The dialog that a call with a settled state and an identifier makes known to a watcher. -/
def dialogOf (s : Subscription) (call : CallStatus) (id : String) (state : Dialog.State) :
    Dialog.Element :=
  ⟨id, s.resourceKey, call.direction.bind Dialog.Direction.ofLeg?, state⟩

theorem element?_call (s : Subscription) (call : CallStatus) (id : String) (state : Dialog.State)
    (hs : Dialog.State.ofCall? call = some state) (hid : id ≠ "") :
    s.element? (.call call (some id)) = some (s.dialogOf call id state) := by
  have hne : ¬ id.isEmpty = true := by simpa using hid
  rw [element?, if_neg hne, hs]
  rfl

theorem element?_silent (s : Subscription) (call : CallStatus) (id : Option String)
    (h : Dialog.State.ofCall? call = none ∨ id = none ∨ id = some "") :
    s.element? (.call call id) = none := by
  rcases h with h | rfl | rfl
  · cases id with
    | none => rfl
    | some id => simp [element?, h]
  · rfl
  · rfl

end Subscription

namespace Registry

/-! ## One registry -/

/-- The entries once the watchers of a resource have heard a report. -/
def reported (es : List Subscription) (key : String)
    (element : Subscription → Option Dialog.Element) : List Subscription :=
  es.map fun s => if s.resourceKey = key then s.reported (element s) else s

def notices (es : List Subscription) (key : String) (element : Subscription → Option Dialog.Element) :
    List Notify :=
  (es.filter fun s => s.resourceKey == key).map fun s => (s.reported (element s)).record

variable (r : Registry) (key : String)

theorem watches_eq (s : Subscription) (h : s.resourceKey ≠ "") :
    watches key s = (s.resourceKey == key) := by
  by_cases hk : s.resourceKey = key
  · subst hk
    simp [watches, h]
  · simp [watches, hk]

theorem refresh_reported (s : Subscription) (hp : s.package = .dialog) (hk : s.resourceKey ≠ "")
    (change : Change) (mail : String → Mailbox.Counts) :
    refresh key change mail s =
      if s.resourceKey = key then
        (s.reported (s.element? change), if (s.element? change).isSome then
          some (s.reported (s.element? change)).record else none)
      else (s, none) := by
  simp only [refresh, watches_eq key s hk, beq_iff_eq]
  split
  · exact render_reported s hp change mail
  · rfl

variable (element : Subscription → Option Dialog.Element) (change : Change)
  (mail : String → Mailbox.Counts)

theorem update_entries (hp : ∀ s ∈ r.entries, s.package = .dialog)
    (hk : ∀ s ∈ r.entries, s.resourceKey ≠ "") (he : ∀ s, s.element? change = element s) :
    (r.update key change mail).1 = { r with entries := reported r.entries key element } := by
  have hentries : (r.entries.map fun s => (refresh key change mail s).1) =
      reported r.entries key element := by
    refine List.map_congr_left fun s hs => ?_
    rw [refresh_reported key s (hp s hs) (hk s hs) change mail, he s]
    split <;> rfl
  rw [update_eq_forEach, forEach, hentries]

theorem update_sent (hp : ∀ s ∈ r.entries, s.package = .dialog)
    (hk : ∀ s ∈ r.entries, s.resourceKey ≠ "") (he : ∀ s, s.element? change = element s) :
    (r.update key change mail).2 =
      notices (r.entries.filter fun s => (element s).isSome) key element := by
  rw [notices, List.filter_filter, ← List.filterMap_eq_map, List.filterMap_filter,
    update_eq_forEach, forEach]
  refine List.filterMap_congr fun s hs => ?_
  rw [refresh_reported key s (hp s hs) (hk s hs) change mail, he s]
  by_cases hkey : s.resourceKey = key <;> simp [hkey]

theorem watchers_eq (hk : ∀ s ∈ r.entries, s.resourceKey ≠ "") :
    r.watchers key = r.entries.countP fun s => s.resourceKey == key :=
  List.countP_congr fun s hs => by rw [watches_eq key s (hk s hs)]

theorem keys_reported (hp : ∀ s ∈ r.entries, s.package = .dialog) :
    (reported r.entries key element).map indexKey = r.keys := by
  rw [reported, List.map_map]
  refine List.map_congr_left fun s hs => ?_
  rw [Function.comp_apply]
  split
  · exact indexKey_reported s (hp s hs) (element s)
  · rfl

end Registry

namespace Router

/-! ## The router -/

/-- The router once the watchers of a resource have heard a report. -/
structure Reported (r : Router) (key : String) (element : Subscription → Option Dialog.Element)
    (after : Router) : Prop where
  router : after =
    { r with dialogs := { r.dialogs with entries := Registry.reported r.dialogs.entries key element } }
  keys : after.dialogs.keys = r.dialogs.keys
  documents : ∀ s ∈ r.dialogs.entries, Dialog.report? (s.reported (element s)).body =
    some { version := s.nextVersion, entity := s.requestUri
           dialog := (element s).map fun e => e.reported s.requestUri }

theorem update_reported (r : Router) (hp : ∀ s ∈ r.dialogs.entries, s.package = .dialog)
    (hk : ∀ s ∈ r.dialogs.entries, s.resourceKey ≠ "") (w : Surroundings) (key : String)
    (change : Change) (element : Subscription → Option Dialog.Element)
    (he : ∀ s, s.element? change = element s) :
    Reported r key element (r.update w .dialog key change).router := by
  have hrouter : (r.update w .dialog key change).router =
      { r with dialogs := { r.dialogs with
          entries := Registry.reported r.dialogs.entries key element } } := by
    have hentries := Registry.update_entries r.dialogs key element change w.mail hp hk he
    change r.setRegistry .dialog (r.dialogs.update key change w.mail).1 = _
    rw [hentries]
    rfl
  refine ⟨hrouter, ?_, fun s _ => report?_reported s (element s)⟩
  rw [hrouter]
  exact Registry.keys_reported r.dialogs key element hp

/-- A report answers the number of the resource's watchers, and gives each of them the document of its
version. If the report tells of a dialog, every watcher is sent its document, in order, and nothing
waits; if not, the documents have no dialog and wait, and nothing is sent. -/
theorem report_exact (policy : Policy) (events : List (Surroundings × Inbound)) (r : Router)
    (sent : List Notify) (hrun : (start policy).run events = .ok (r, sent)) (w : Surroundings)
    (event : Inbound) (key : String) (call : CallStatus) (id : Option String)
    (hevent : change? event = some (.dialog, key, .call call id)) :
    ∃ reaction, r.handle w event = .ok reaction ∧
      reaction.outcome = .updated (r.dialogs.entries.countP fun s => s.resourceKey == key) ∧
      (key = "" → reaction.outcome = .updated 0) ∧
      (∀ s ∈ r.dialogs.entries, s.kind = .dialog s.nextVersion ∧ s.nextVersion ≤ events.length) ∧
      (∀ state i, Dialog.State.ofCall? call = some state → id = some i → i ≠ "" →
        Reported r key (fun s => some (s.dialogOf call i state)) reaction.router ∧
          reaction.sent =
            Registry.notices r.dialogs.entries key fun s => some (s.dialogOf call i state)) ∧
      (Dialog.State.ofCall? call = none ∨ id = none ∨ id = some "" →
        Reported r key (fun _ => none) reaction.router ∧ reaction.sent = []) := by
  obtain ⟨log, hlog, -⟩ := run_eq_ok _ _ _ _ hrun
  have hcounted := (journal_counted policy events r log hlog).registry .dialog
  have hp : ∀ s ∈ r.dialogs.entries, s.package = .dialog :=
    fun s hs => (hcounted.entries s hs).stored.package
  have hk : ∀ s ∈ r.dialogs.entries, s.resourceKey ≠ "" :=
    fun s hs => (hcounted.entries s hs).stored.isResourceKey.nonempty
  have hhandle : r.handle w event = .ok (r.update w .dialog key (.call call id)) := by
    cases event <;> simp [change?] at hevent <;> obtain ⟨rfl, rfl, rfl⟩ := hevent <;> rfl
  -- No stored key is empty, so to watch is to have the key that is reported.
  have hcount := Registry.watchers_eq r.dialogs key hk
  refine ⟨_, hhandle, congrArg Outcome.updated hcount, ?_, ?_, ?_, ?_⟩
  · rintro rfl
    refine congrArg Outcome.updated (List.countP_eq_zero.mpr fun s _ => ?_)
    simp [Registry.watches]
  · intro s hs
    have hkind := kind_of_package s (hp s hs)
    exact ⟨hkind, (hcounted.entries s hs).version _ (by rw [hkind]; rfl)⟩
  · rintro state i hstate rfl hi
    have helement : ∀ s : Subscription, s.element? (.call call (some i)) =
        some (s.dialogOf call i state) := fun s => element?_call s call i state hstate hi
    refine ⟨update_reported r hp hk w key _ _ helement, ?_⟩
    have hsent := Registry.update_sent r.dialogs key _ _ w.mail hp hk helement
    simp only [Option.isSome_some, List.filter_true] at hsent
    exact hsent
  · intro hsilent
    have helement : ∀ s : Subscription, s.element? (.call call id) = none :=
      fun s => element?_silent s call id hsilent
    refine ⟨update_reported r hp hk w key _ _ helement, ?_⟩
    have hsent := Registry.update_sent r.dialogs key _ _ w.mail hp hk helement
    simp only [Option.isSome_none, List.filter_false] at hsent
    exact hsent

/-- Two of three watchers hear of an answered call. -/
theorem report_exact_answered :
    let w : Surroundings := ⟨10, fun _ => {}⟩
    let subscribe (uri host : String) : Surroundings × Inbound :=
      (w, .subscribe (sampleRequest .dialog uri host none))
    let events := [subscribe "sip:100@pbx" "10.0.0.1", subscribe "sip:200@pbx" "10.0.0.1",
      subscribe "sip:100@pbx" "10.0.0.2"]
    ∃ r sent reaction, (start {}).run events = .ok (r, sent) ∧
      r.handle w (.callUpdate "100" (some "c1") ⟨none, some "answered", some "incoming"⟩) =
        .ok reaction ∧
      reaction.outcome = .updated 2 ∧
      reaction.sent.map (fun n => n.host) = ["10.0.0.1", "10.0.0.2"] ∧
      reaction.router.dialogs.entries.map (fun s => (s.resourceKey, s.kind, s.pending)) =
        [("100", .dialog 2, false), ("200", .dialog 1, false), ("100", .dialog 2, false)] := by
  intro w subscribe events
  let call : CallStatus := ⟨none, some "answered", some "incoming"⟩
  let dialog (s : Subscription) : Option Dialog.Element := some (s.dialogOf call "c1" .confirmed)
  obtain ⟨r, log, hrun, -, hheld⟩ := run_of_seen (start {}) events
    (fun r _ => (r.dialogs.entries.countP (fun s => s.resourceKey == "100"),
      (Registry.notices r.dialogs.entries "100" dialog).map (fun n => n.host),
      (Registry.reported r.dialogs.entries "100" dialog).map fun s =>
        (s.resourceKey, s.kind, s.pending)))
    (2, ["10.0.0.1", "10.0.0.2"],
      [("100", .dialog 2, false), ("200", .dialog 1, false), ("100", .dialog 2, false)])
    (by decide +kernel)
  simp only [Prod.mk.injEq] at hheld
  obtain ⟨htwo, hhosts, hentries⟩ := hheld
  obtain ⟨reaction, hr, hcount, -, -, htells, -⟩ := report_exact {} events r log.sent hrun w
    (.callUpdate "100" (some "c1") call) "100" call (some "c1") rfl
  obtain ⟨⟨hrouter, -⟩, hsent⟩ := htells .confirmed "c1" rfl rfl (by decide)
  exact ⟨r, log.sent, reaction, hrun, hr, by rw [hcount, htwo], by rw [hsent, hhosts],
    by rw [hrouter, hentries]⟩

end Router
end SipNotifier
