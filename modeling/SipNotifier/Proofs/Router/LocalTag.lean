import SipNotifier.Proofs.Router.Origin
import SipNotifier.Proofs.Uri.Grammar
import SipNotifier.Text.Split

/-! The local tag in the From header of a NOTIFY. The To header of a request has a tag where one of its
parameters is one (`Header.hasTag`), and it should be given the dialog's tag just where it has none
(`Subscription.taggedHeader`). What is sent depends on the word `tag=` anywhere in the text instead. Main
statement: what every NOTIFY for a request has in its From header, and when that is as it should be
(`local_tag_exact`). -/
namespace SipNotifier
open Text
set_option autoImplicit false

/-! ## Parameters of a header -/

namespace Header

/-- What stands behind the last closing bracket, or the whole text where there is none. -/
def behindAddress (header : List Char) : List Char := (header.reverse.takeWhile (· != '>')).reverse

/-- The pieces behind the first semicolon, without the blanks around them. -/
def parameters (header : String) : List (List Char) :=
  ((split ';' (behindAddress header.toList)).drop 1).map trim

/-- The parameter is a tag, its name in any ASCII case. -/
def isTag (parameter : List Char) : Bool := (Uri.dropWord? "tag=".toList parameter).isSome

def hasTag (header : String) : Bool := (parameters header).any isTag

/-! ## Words in a header -/

theorem infix_of_mem_split (separator : Char) (cs piece : List Char)
    (h : piece ∈ split separator cs) : piece <:+: cs := by
  have hjoined : ∀ pieces : List (List Char), piece ∈ pieces →
      piece <:+: List.intercalate [separator] pieces := by
    intro pieces
    induction pieces with
    | nil => intro hmem; cases hmem
    | cons first pieces ih =>
      intro hmem
      cases pieces with
      | nil =>
        rw [List.mem_singleton.mp hmem]
        simp [List.intercalate]
      | cons next pieces =>
        have hstep : List.intercalate [separator] (first :: next :: pieces) =
            first ++ separator :: List.intercalate [separator] (next :: pieces) := by
          simp [List.intercalate, List.intersperse]
        rw [hstep]
        rcases List.mem_cons.mp hmem with rfl | hmem
        · exact (List.prefix_append _ _).isInfix
        · exact (ih hmem).trans ((List.suffix_cons _ _).trans (List.suffix_append _ _)).isInfix
  have hpieces := hjoined _ h
  rwa [intercalate_split] at hpieces

theorem infix_of_trim (cs : List Char) : trim cs <:+: cs := by
  obtain ⟨⟨front, back, hsplit, -, -⟩, -, -⟩ := Uri.trimmed_trim cs
  exact ⟨front, back, by rw [List.append_assoc]; exact hsplit.symm⟩

theorem infix_of_mem_parameters (header : String) (parameter : List Char)
    (h : parameter ∈ parameters header) : parameter <:+: header.toList := by
  obtain ⟨piece, hpiece, rfl⟩ := List.mem_map.mp h
  have htail : behindAddress header.toList <:+: header.toList := by
    have hfront := (List.takeWhile_prefix (l := header.toList.reverse) (· != '>')).isInfix
    have hreverse := List.reverse_infix.mpr hfront
    rwa [List.reverse_reverse] at hreverse
  exact (infix_of_trim piece).trans ((infix_of_mem_split ';' _ _ (List.mem_of_mem_drop hpiece)).trans htail)

/-- A tag whose name is in lower case is found. -/
theorem occurs_of_parameter (header : String) (parameter : List Char)
    (h : parameter ∈ parameters header) (htag : "tag=".toList <+: parameter) :
    occurs "tag=".toList header.toList = true := by
  obtain ⟨before, after, hsplit⟩ := htag.isInfix.trans (infix_of_mem_parameters header parameter h)
  exact (occurs_iff _ _).mpr ⟨before, after, hsplit.symm⟩

end Header

/-! ## The header that is sent -/

namespace Subscription
open Header

/-- The To header of a request with the dialog's tag where it has none of its own. -/
def taggedHeader (r : SubscribeRequest) : String :=
  match r.dialogTag with
  | none => r.toHeader
  | some tag => if tag.isEmpty || hasTag r.toHeader then r.toHeader else r.toHeader ++ ";tag=" ++ tag

/-- The header is as it should be, or a tag is missing because the word stands elsewhere in the text, or
there are two because the name of the first is not in lower case. -/
inductive TagOutcome (r : SubscribeRequest) : String → Prop
  | proper : TagOutcome r (taggedHeader r)
  | missing (tag : String) (ht : r.dialogTag = some tag) (hne : tag ≠ "")
      (hnone : hasTag r.toHeader = false) (hword : occurs "tag=".toList r.toHeader.toList = true) :
      TagOutcome r r.toHeader
  | doubled (tag : String) (ht : r.dialogTag = some tag) (hne : tag ≠ "")
      (hsome : hasTag r.toHeader = true)
      (hname : ∀ parameter ∈ parameters r.toHeader, ¬ "tag=".toList <+: parameter) :
      TagOutcome r (r.toHeader ++ ";tag=" ++ tag)

theorem localHeader_of_tag (r : SubscribeRequest) (tag : String) (ht : r.dialogTag = some tag)
    (hne : tag ≠ "") : localHeader r =
      if occurs "tag=".toList r.toHeader.toList then r.toHeader else r.toHeader ++ ";tag=" ++ tag := by
  have hb : tag.isEmpty = false := by simpa using hne
  simp [localHeader, ht, hb]

theorem taggedHeader_of_tag (r : SubscribeRequest) (tag : String) (ht : r.dialogTag = some tag)
    (hne : tag ≠ "") :
    taggedHeader r = if hasTag r.toHeader then r.toHeader else r.toHeader ++ ";tag=" ++ tag := by
  have hb : tag.isEmpty = false := by simpa using hne
  simp [taggedHeader, ht, hb]

theorem localHeader_without_tag (r : SubscribeRequest)
    (h : ∀ tag, r.dialogTag = some tag → tag = "") :
    localHeader r = r.toHeader ∧ taggedHeader r = r.toHeader := by
  cases ht : r.dialogTag with
  | none => simp [localHeader, taggedHeader, ht]
  | some tag =>
    obtain rfl := h tag ht
    simp [localHeader, taggedHeader, ht]

theorem append_tag_ne (header tag : String) : header ++ ";tag=" ++ tag ≠ header := by
  intro h
  have hlength := congrArg String.length h
  simp only [String.length_append] at hlength
  have hword : ";tag=".length = 5 := rfl
  omega

theorem localHeader_eq_iff (r : SubscribeRequest) : localHeader r = taggedHeader r ↔
    ∀ tag, r.dialogTag = some tag → tag ≠ "" →
      occurs "tag=".toList r.toHeader.toList = hasTag r.toHeader := by
  constructor
  · intro h tag ht hne
    rw [localHeader_of_tag r tag ht hne, taggedHeader_of_tag r tag ht hne] at h
    have hadded := append_tag_ne r.toHeader tag
    cases hword : occurs "tag=".toList r.toHeader.toList <;> cases hhas : hasTag r.toHeader <;>
      simp only [hword, hhas, if_true, if_false, Bool.false_eq_true] at h
    · rfl
    · exact absurd h hadded
    · exact absurd h.symm hadded
    · rfl
  · intro h
    by_cases htag : ∃ tag, r.dialogTag = some tag ∧ tag ≠ ""
    · obtain ⟨tag, ht, hne⟩ := htag
      rw [localHeader_of_tag r tag ht hne, taggedHeader_of_tag r tag ht hne, h tag ht hne]
    · obtain ⟨hsent, hwanted⟩ := localHeader_without_tag r fun tag ht =>
        Classical.byContradiction fun hne => htag ⟨tag, ht, hne⟩
      rw [hsent, hwanted]

theorem tagOutcome_localHeader (r : SubscribeRequest) : TagOutcome r (localHeader r) := by
  by_cases hproper : localHeader r = taggedHeader r
  · exact hproper ▸ .proper
  · rw [localHeader_eq_iff] at hproper
    simp only [Classical.not_forall] at hproper
    obtain ⟨tag, ht, hne, hdiffer⟩ := hproper
    rw [localHeader_of_tag r tag ht hne]
    cases hword : occurs "tag=".toList r.toHeader.toList with
    | true =>
      rw [hword] at hdiffer
      have hnone : hasTag r.toHeader = false := Bool.eq_false_iff.mpr (Ne.symm hdiffer)
      exact .missing tag ht hne hnone hword
    | false =>
      rw [hword] at hdiffer
      have hsome : hasTag r.toHeader = true := eq_true_of_ne_false (Ne.symm hdiffer)
      refine .doubled tag ht hne hsome fun parameter hmem hprefix => ?_
      rw [occurs_of_parameter _ _ hmem hprefix] at hword
      cases hword

end Subscription

/-! ## Runs -/

namespace Router
open Subscription Header

/-- From an accepted request to the next one for the key, every NOTIFY for it has in its From header what
the request has in its To header, with the dialog's tag behind it if there is one and the word `tag=`
stands nowhere in that text. That is as it should be exactly if, wherever there is a dialog's tag, the
word stands in the text just when a parameter is a tag. If not, the tag is missing, or it is a second one
behind a parameter whose name is not in lower case. -/
theorem local_tag_exact (policy : Policy) (events : List (Surroundings × Inbound)) (last : Router)
    (sent : List Notify) (h : (start policy).run events = .ok (last, sent)) :
    ∃ log, (start policy).journal events = .ok (last, log) ∧ sent = log.sent ∧
      ∀ p key, IsKeyOf p key →
        ∀ before x between after, log = before ++ x :: (between ++ after) →
          x.2.outcome.acceptedKey? = some key →
          (∀ z ∈ between, z.2.outcome.acceptedKey? ≠ some key) →
          ∃ request, x.1.2 = .subscribe request ∧
            ∀ n ∈ (Log.sent (x :: between)).filter (Notify.isFor key),
              (∀ tag, request.dialogTag = some tag → tag ≠ "" → n.fromHeader =
                if occurs "tag=".toList request.toHeader.toList then request.toHeader
                else request.toHeader ++ ";tag=" ++ tag) ∧
              ((∀ tag, request.dialogTag = some tag → tag = "") →
                n.fromHeader = request.toHeader) ∧
              (n.fromHeader = taggedHeader request ↔
                ∀ tag, request.dialogTag = some tag → tag ≠ "" →
                  occurs "tag=".toList request.toHeader.toList = hasTag request.toHeader) ∧
              TagOutcome request n.fromHeader := by
  obtain ⟨log, hlog, rfl⟩ := run_eq_ok _ _ _ _ h
  refine ⟨log, hlog, rfl, ?_⟩
  rintro p key hkey before x between after rfl haccepted hquiet
  obtain ⟨request, s, hrequest, hs, hheard⟩ := heard_of_request hlog hkey haccepted hquiet
  obtain ⟨_, _, _, -, -, hfields⟩ := ofRequest_eq_ok _ _ _ _ _ hs
  have hto : s.toHeader = localHeader request := by rw [hfields]
  refine ⟨request, hrequest, fun n hn => ?_⟩
  obtain ⟨t, ht, rfl⟩ := hheard _ (lasting_field toHeader (fun _ => rfl) _) hto n hn
  have hfrom : t.record.fromHeader = localHeader request := ht
  rw [hfrom]
  exact ⟨localHeader_of_tag request, fun hnone => (localHeader_without_tag request hnone).1,
    localHeader_eq_iff request, tagOutcome_localHeader request⟩

/-- A request whose To header has a parameter, but no tag, and a sweep. -/
theorem local_tag_exact_added :
    let w : Surroundings := ⟨10, fun _ => {}⟩
    let request := { sampleRequest .messageSummary "sip:100@pbx" "10.0.0.1" (some 60) with
      toHeader := "<sip:100@pbx>;a", dialogTag := some "srv" }
    let key := keyOf .messageSummary "100" "10.0.0.1" 5060
    let events : List (Surroundings × Inbound) := [(w, .subscribe request), (w, .timerTick 100)]
    ∃ last n m, (start {}).run events = .ok (last, [n, m]) ∧ Notify.isFor key n = true ∧
      Notify.isFor key m = true ∧ n.fromHeader = "<sip:100@pbx>;a;tag=srv" ∧
      m.fromHeader = taggedHeader request := by
  intro w request key events
  obtain ⟨last, x, y, n, m, hrun, hlog, hinput, hx, hy, hn, hm, hheard⟩ :=
    heard_twice {} key (w, .subscribe request) (w, .timerTick 100) (by decide +kernel)
  obtain ⟨_, hlog', -, hheaders⟩ := local_tag_exact {} events last _ hrun
  obtain rfl := journal_log hlog hlog'
  obtain ⟨request', hrequest, hnotified⟩ := hheaders .messageSummary key
    ⟨"100", "10.0.0.1", 5060, rfl⟩ [] x [y] [] rfl hx hy
  rw [hinput] at hrequest
  obtain rfl : request = request' := Inbound.subscribe.inj hrequest
  rw [hheard] at hnotified
  have hword : occurs "tag=".toList request.toHeader.toList = false := by decide +kernel
  have hhas : hasTag request.toHeader = false := by decide +kernel
  obtain ⟨hadded, -, -, -⟩ := hnotified n (by simp)
  obtain ⟨-, -, hproper, -⟩ := hnotified m (by simp)
  have hfirst := hadded "srv" rfl (by decide)
  rw [hword, if_neg (by decide)] at hfirst
  exact ⟨last, n, m, hrun, hn, hm, hfirst, hproper.mpr fun _ _ _ => by rw [hword, hhas]⟩

/-- The word in another parameter keeps the tag away, and a tag in capitals gets a second one. -/
theorem local_tag_amiss :
    let request (callee : String) : SubscribeRequest :=
      { sampleRequest .messageSummary "sip:100@pbx" "198.51.100.7" (some 300) with
        toHeader := callee, dialogTag := some "srv-1" }
    let sent (callee : String) : Option (List String) :=
      ((start {}).run [(⟨1700000000, fun _ => {}⟩, .subscribe (request callee))]).toOption.map
        fun o => o.2.map fun n => n.fromHeader
    hasTag "<sip:100@pbx>;x-tag=7" = false ∧
      taggedHeader (request "<sip:100@pbx>;x-tag=7") = "<sip:100@pbx>;x-tag=7;tag=srv-1" ∧
      sent "<sip:100@pbx>;x-tag=7" = some ["<sip:100@pbx>;x-tag=7"] ∧
      hasTag "<sip:100@pbx>;TAG=7" = true ∧
      taggedHeader (request "<sip:100@pbx>;TAG=7") = "<sip:100@pbx>;TAG=7" ∧
      sent "<sip:100@pbx>;TAG=7" = some ["<sip:100@pbx>;TAG=7;tag=srv-1"] := by
  refine ⟨?_, ?_, ?_, ?_, ?_, ?_⟩ <;> decide +kernel

end Router
end SipNotifier
