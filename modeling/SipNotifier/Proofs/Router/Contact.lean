import SipNotifier.Proofs.Router.Origin
import SipNotifier.Proofs.Uri.Wrapped

/-! The contact of a NOTIFY. It is the URI of the request that was accepted for the key, in angle
brackets and otherwise as it came, not the address that was read from that URI. Main statement: what the
contact parses to, and when that is what the request's URI parses to (`contact_wraps_request`). -/
namespace SipNotifier.Router
open Subscription
set_option autoImplicit false

/-- From an accepted request to the next one for the key, every NOTIFY for it has the request's URI in
brackets as its contact. These enclose what stands in front of the first closing bracket of the URI, so
the contact parses only if that is an address without an opening bracket. Where the URI has no opening
bracket at all, the contact parses to the same address as the URI exactly if the URI begins with no blank
and the address has no closing bracket. -/
theorem contact_wraps_request (policy : Policy) (events : List (Surroundings × Inbound)) (last : Router)
    (sent : List Notify) (h : (start policy).run events = .ok (last, sent)) :
    ∃ log, (start policy).journal events = .ok (last, log) ∧ sent = log.sent ∧
      ∀ p key, IsKeyOf p key →
        ∀ before x between after, log = before ++ x :: (between ++ after) →
          x.2.outcome.acceptedKey? = some key →
          (∀ z ∈ between, z.2.outcome.acceptedKey? ≠ some key) →
          ∃ request u, x.1.2 = .subscribe request ∧ Uri.parse request.uri = .ok u ∧
            ∀ n ∈ (Log.sent (x :: between)).filter (Notify.isFor key),
              n.contact = "<" ++ request.uri ++ ">" ∧
              (∀ v, Uri.parse n.contact = .ok v ↔
                '<' ∉ Uri.enclosed request.uri ∧ Uri.Spelled (Uri.enclosed request.uri) v) ∧
              ('<' ∉ request.uri.toList → (Uri.parse n.contact = Uri.parse request.uri ↔
                (∀ c ∈ request.uri.toList.head?, Text.isBlank c = false) ∧
                  '>' ∉ u.toString.toList)) := by
  obtain ⟨log, hlog, rfl⟩ := run_eq_ok _ _ _ _ h
  refine ⟨log, hlog, rfl, ?_⟩
  rintro p key hkey before x between after rfl haccepted hquiet
  obtain ⟨request, s, hrequest, hs, hheard⟩ := heard_of_request hlog hkey haccepted hquiet
  obtain ⟨_, _, _, hresource, -, hfields⟩ := ofRequest_eq_ok _ _ _ _ _ hs
  have huri : s.requestUri = request.uri := by rw [hfields]
  -- A request whose URI does not parse names no resource, and is not accepted.
  obtain ⟨u, hparse⟩ : ∃ u, Uri.parse request.uri = .ok u := by
    cases hparse : Uri.parse request.uri with
    | error e => simp [resourceOf?, hparse] at hresource
    | ok u => exact ⟨u, rfl⟩
  refine ⟨request, u, hrequest, hparse, fun n hn => ?_⟩
  obtain ⟨t, ht, rfl⟩ := hheard _ (lasting_field requestUri (fun _ => rfl) _) huri n hn
  have hcontact : t.record.contact = "<" ++ request.uri ++ ">" := by
    rw [← ht]
    rfl
  rw [hcontact, hparse]
  exact ⟨rfl, Uri.parse_wrapped request.uri, Uri.parse_wrapped_iff request.uri u hparse⟩

/-- A request for a bare URI with a parameter, and a sweep. -/
theorem contact_wraps_request_bare :
    let w : Surroundings := ⟨10, fun _ => {}⟩
    let request := sampleRequest .messageSummary "sip:100@pbx;a" "10.0.0.1" (some 60)
    let key := keyOf .messageSummary "100" "10.0.0.1" 5060
    let events : List (Surroundings × Inbound) := [(w, .subscribe request), (w, .timerTick 100)]
    ∃ last n m, (start {}).run events = .ok (last, [n, m]) ∧ Notify.isFor key n = true ∧
      Notify.isFor key m = true ∧ Uri.parse n.contact = Uri.parse request.uri ∧
      Uri.parse m.contact = Uri.parse request.uri := by
  intro w request key events
  obtain ⟨last, x, y, n, m, hrun, hlog, hinput, hx, hy, hn, hm, hheard⟩ :=
    heard_twice {} key (w, .subscribe request) (w, .timerTick 100) (by decide +kernel)
  obtain ⟨_, hlog', -, hcontacts⟩ := contact_wraps_request {} events last _ hrun
  obtain rfl := journal_log hlog hlog'
  obtain ⟨request', u, hrequest, hparse, hnotified⟩ := hcontacts .messageSummary key
    ⟨"100", "10.0.0.1", 5060, rfl⟩ [] x [y] [] rfl hx hy
  rw [hinput] at hrequest
  obtain rfl : request = request' := Inbound.subscribe.inj hrequest
  rw [hheard] at hnotified
  have hu : Uri.parse request.uri = .ok ⟨.sip, some ⟨"100", none⟩, "pbx", none⟩ := by decide +kernel
  have hsame := Except.ok.inj (hparse.symm.trans hu)
  have hplain : (∀ c ∈ request.uri.toList.head?, Text.isBlank c = false) ∧
      '>' ∉ u.toString.toList := by
    have hfirst : request.uri.toList.head? = some 's' := by decide +kernel
    rw [hsame, hfirst]
    refine ⟨fun c hc => ?_, by decide +kernel⟩
    obtain rfl : 's' = c := Option.some.inj hc
    decide
  have hopen : '<' ∉ request.uri.toList := by decide +kernel
  have hboth : ∀ k ∈ [n, m], Uri.parse k.contact = Uri.parse request.uri := fun k hk =>
    ((hnotified k hk).2.2 hopen).mpr hplain
  exact ⟨last, n, m, hrun, hn, hm, hboth n (by simp), hboth m (by simp)⟩

/-- A request URI may have brackets of its own, and its contact then is no address at all. -/
theorem contact_of_bracketed_request :
    let request := sampleRequest .messageSummary "\"Alice\" <sip:100@pbx>" "198.51.100.7" (some 300)
    Uri.parse request.uri = .ok ⟨.sip, some ⟨"100", none⟩, "pbx", none⟩ ∧
      ∃ last n, (start {}).run [(⟨1700000000, fun _ => {}⟩, .subscribe request)] = .ok (last, [n]) ∧
        Notify.isFor (keyOf .messageSummary "100" "198.51.100.7" 5060) n = true ∧
        Uri.parse n.contact = .error ⟨"<\"Alice\" <sip:100@pbx>>"⟩ := by
  intro request
  obtain ⟨last, log, hrun, -, hseen⟩ := run_of_seen (start {})
    [(⟨1700000000, fun _ => {}⟩, .subscribe request)]
    (fun _ log => log.sent.map fun n => (n.contact, n.key?))
    [("<\"Alice\" <sip:100@pbx>>", some (keyOf .messageSummary "100" "198.51.100.7" 5060))]
    (by decide +kernel)
  simp only [List.map_eq_cons_iff, List.map_eq_nil_iff, Prod.mk.injEq] at hseen
  obtain ⟨n, _, hsent, ⟨hcontact, hkey⟩, rfl⟩ := hseen
  rw [hsent] at hrun
  refine ⟨by decide +kernel, last, n, hrun, by simp [Notify.isFor, hkey], ?_⟩
  rw [hcontact]
  decide +kernel

end SipNotifier.Router
