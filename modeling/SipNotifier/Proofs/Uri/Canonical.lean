import SipNotifier.Proofs.Uri.Grammar

/-! The written form of an address. Main statement: it parses to the address that it was written from,
so all texts that stand for one address share one written form (`parse_toString`). The written form leaves
out what no part of the address holds, so each part is read anew in front of another rest: that no at sign,
bracket or digit is found or lost there is what the lemmas on the parts say. -/
namespace SipNotifier.Uri
open Text
set_option autoImplicit false

/-! ## The written form -/

def userText (i : Option Userinfo) : List Char := ((i.map Userinfo.toString).getD "").toList

def portText : Option UInt16 → List Char
  | none => []
  | some p => ':' :: Nat.toDigits 10 p.toNat

theorem toList_toString (u : Uri) : u.toString.toList =
    u.scheme.name.toList ++ ':' :: (userText u.userinfo ++ (u.host.toList ++ portText u.port)) := by
  cases hp : u.port <;> simp [Uri.toString, hp, portText, userText, Nat.toList_repr]

/-! ## The user -/

theorem Userinfo.toString_ends (i : Userinfo) : ∃ before, i.toString.toList = before ++ ['@'] := by
  cases hp : i.password with
  | none => exact ⟨i.name.toList, by simp [Userinfo.toString, hp]⟩
  | some w => exact ⟨i.name.toList ++ ':' :: w.toList, by simp [Userinfo.toString, hp]⟩

theorem Named.split {cs rest : List Char} {i : Userinfo} (h : Named cs i rest) :
    cs = i.toString.toList ++ rest := by
  cases h with
  | user name rest hsplit => simp [Userinfo.toString, hsplit]
  | password name word rest hsplit => simp [Userinfo.toString, hsplit]

theorem Named.moved {cs rest : List Char} {i : Userinfo} (h : Named cs i rest) (other : List Char) :
    Named (i.toString.toList ++ other) i other := by
  cases h with
  | user name rest hsplit hname hfree =>
    exact .user name other (by simp [Userinfo.toString]) hname hfree
  | password name word rest hsplit hname hfree hword hat =>
    exact .password name word other (by simp [Userinfo.toString]) hname hfree hword hat

theorem UserPart.split {cs rest : List Char} {i : Option Userinfo} (h : UserPart cs i rest) :
    cs = userText i ++ rest := by
  cases h with
  | given i rest h => exact h.split
  | absent h => rfl

/-- A user in front of part of the rest would be one in front of all of it, for the at sign is in the
part that stays. -/
theorem UserPart.moved {cs host rest : List Char} {i : Option Userinfo}
    (h : UserPart cs i (host ++ rest)) (other : List Char) (hother : '@' ∉ other) :
    UserPart (userText i ++ (host ++ other)) i (host ++ other) := by
  cases h with
  | given i rest h => exact .given i _ (h.moved _)
  | absent h =>
    refine .absent fun i behind hi => ?_
    obtain ⟨before, hat⟩ := i.toString_ends
    have hsplit := hi.split
    rw [hat, List.append_assoc, List.singleton_append] at hsplit
    change host ++ other = _ at hsplit
    obtain ⟨more, hhost, -⟩ := separator_in_front '@' host other before behind hother hsplit
    have hwhole : host ++ rest = i.toString.toList ++ (more ++ rest) := by simp [hhost, hat]
    exact h i (more ++ rest) (hwhole ▸ hi.moved _)

/-! ## The host -/

theorem HostPart.split {cs host rest : List Char} (h : HostPart cs host rest) : cs = host ++ rest := by
  cases h with
  | bracketed address rest hsplit hne hclose => simp [hsplit]
  | name host rest hne hrun => exact hrun.split

theorem HostPart.moved {cs host rest : List Char} (h : HostPart cs host rest) (other : List Char)
    (hother : (∀ c ∈ rest.head?, ¬ IsNameChar c) → ∀ c ∈ other.head?, ¬ IsNameChar c) :
    HostPart (host ++ other) host other := by
  cases h with
  | bracketed address rest hsplit hne hclose => exact .bracketed address other (by simp) hne hclose
  | name host rest hne hrun => exact .name host other hne ⟨rfl, hrun.all, hother hrun.ends⟩

/-- No blank stands among the visible characters of ASCII. -/
theorem isBlank_of_visible (c : Char) (h : 33 ≤ c.toNat ∧ c.toNat ≤ 126) : isBlank c = false := by
  simp [isBlank, blankRanges]
  omega

theorem isBlank_of_isNameChar (c : Char) (h : IsNameChar c) : isBlank c = false := by
  have hvisible : 33 ≤ c.toNat ∧ c.toNat ≤ 126 := by
    rcases h with hletter | hdigit | rfl | rfl | rfl
    · change (decide (c.val ≥ 65 ∧ c.val ≤ 90) ||
        decide (c.val ≥ 97) && decide (c.val ≤ 122)) = true at hletter
      have hcases : (65 ≤ c.toNat ∧ c.toNat ≤ 90) ∨ (97 ≤ c.toNat ∧ c.toNat ≤ 122) := by
        simpa [UInt32.le_iff_toNat_le] using hletter
      omega
    · change (decide (c.val ≥ 48) && decide (c.val ≤ 57)) = true at hdigit
      have hcases : 48 ≤ c.toNat ∧ c.toNat ≤ 57 := by
        simpa [UInt32.le_iff_toNat_le] using hdigit
      omega
    all_goals decide
  exact isBlank_of_visible c hvisible

/-! ## The port -/

theorem head?_portText (p : Option UInt16) : ∀ c ∈ (portText p).head?, c = ':' := by
  cases p <;> simp [portText, eq_comm]

theorem mem_portText (p : Option UInt16) (c : Char) (h : c ∈ portText p) :
    c = ':' ∨ c.isDigit = true := by
  cases p with
  | none => cases h
  | some p =>
    rcases List.mem_cons.mp h with h | h
    · exact Or.inl h
    · exact Or.inr (Nat.isDigit_of_mem_toDigits (by decide) (by decide) h)

theorem notMem_portText (p : Option UInt16) (c : Char) (hcolon : c ≠ ':') (hdigit : c.isDigit = false) :
    c ∉ portText p := by
  intro h
  rcases mem_portText p c h with h | h
  · exact hcolon h
  · rw [hdigit] at h
    cases h

theorem portPart_portText (p : Option UInt16) : PortPart (portText p) p := by
  cases p with
  | none =>
    refine .absent fun digits hd => ?_
    obtain ⟨-, behind, rest, hnil, -⟩ := hd
    cases hnil
  | some p =>
    refine .given (Nat.toDigits 10 p.toNat) p ⟨Nat.toDigits_ne_nil, _, [], rfl, by simp, ?_, by simp⟩
      (decimalValue_toDigits p.toNat).symm
    exact fun c hc => Nat.isDigit_of_mem_toDigits (by decide) (by decide) hc

/-- The written form ends in a character that is not blank, be it the last one of the host. -/
theorem HostPart.last {cs host rest : List Char} (h : HostPart cs host rest) (p : Option UInt16) :
    ∃ c, (host ++ portText p).getLast? = some c ∧ isBlank c = false := by
  have hhost : ∃ c, host.getLast? = some c ∧ isBlank c = false := by
    cases h with
    | bracketed address rest hsplit hne hclose =>
      rw [← List.cons_append]
      exact ⟨']', List.getLast?_concat, by decide⟩
    | name host rest hne hrun =>
      exact ⟨host.getLast hne, List.getLast?_eq_some_getLast hne,
        isBlank_of_isNameChar _ (hrun.all _ (List.getLast_mem hne))⟩
  rw [List.getLast?_append]
  cases hp : (portText p).getLast? with
  | none => exact hhost
  | some c =>
    refine ⟨c, rfl, ?_⟩
    rcases mem_portText p c (List.mem_of_getLast? hp) with rfl | hdigit
    · decide
    · exact isBlank_of_isNameChar c (Or.inr (Or.inl hdigit))

/-! ## Whole addresses -/

theorem spelled_toString (a : List Char) (u : Uri) (h : Spelled a u) :
    Spelled u.toString.toList u := by
  obtain ⟨word, behind, front, rest, hscheme, hsplit, huser, hhost, hport⟩ := h
  have hat : '@' ∉ portText u.port := notMem_portText _ _ (by decide) (by decide)
  have hstop : ∀ c ∈ (portText u.port).head?, ¬ IsNameChar c := by
    intro c hc
    rw [head?_portText _ c hc]
    simp [IsNameChar]
  refine .mk u.scheme.name.toList _ (u.host.toList ++ portText u.port) (portText u.port) ?_
    (toList_toString u) ?_ (hhost.moved _ fun _ => hstop) (portPart_portText u.port)
  · cases u.scheme <;> decide
  · rw [hhost.split] at huser
    exact huser.moved _ hat

/-- What brackets enclose stays enclosed when the text changes outside of them. -/
theorem Enclosed.moved {front middle back content : List Char}
    (h : Enclosed (front ++ (middle ++ back)) content) (hfront : '<' ∉ front) (hback : '>' ∉ back)
    (other tail : List Char) (hother : '<' ∉ other) :
    Enclosed (other ++ (middle ++ tail)) content := by
  obtain ⟨before, after, hopen, hbefore, hclose, hplain⟩ := h
  obtain ⟨more, rfl, hmiddle⟩ := separator_behind '<' front _ before _ hfront hopen
  rw [← List.cons_append, ← List.append_assoc] at hmiddle
  obtain ⟨left, rfl, -⟩ := separator_in_front '>' middle back _ after hback hmiddle
  refine ⟨other ++ more, left ++ tail, by simp, ?_, hclose, hplain⟩
  simp only [List.mem_append, not_or] at hbefore ⊢
  exact ⟨hother, hbefore.2⟩

/-- No brackets in an address enclose anything. -/
theorem IsAddress.plain {text : String} {a : List Char} (h : IsAddress text a) (content : List Char) :
    ¬ Enclosed a content := by
  obtain ⟨inner, -, ⟨before, after, -, -, -, hopen⟩ | ⟨hnone, rfl⟩⟩ := h
  · rintro ⟨front, rest, rfl, -⟩
    simp at hopen
  · exact hnone content

/-- The written form has no blanks to trim and no brackets to strip. -/
theorem isAddress_toString (a : List Char) (u : Uri) (h : Spelled a u)
    (hplain : ∀ content, ¬ Enclosed a content) : IsAddress u.toString u.toString.toList := by
  obtain ⟨word, behind, front, rest, hscheme, hsplit, huser, hhost, hport⟩ := h
  refine ⟨_, ⟨⟨[], [], by simp, by simp, by simp⟩, ?_, ?_⟩, Or.inr ⟨fun content hc => ?_, rfl⟩⟩
  · intro c hc
    obtain rfl : 's' = c := by
      rw [toList_toString] at hc
      cases hs : u.scheme <;> simpa [hs, Scheme.name] using hc
    decide
  · intro c hc
    obtain ⟨d, hd, hblank⟩ := hhost.last u.port
    have hlast : u.toString.toList.getLast? = some d := by
      rw [toList_toString, List.append_cons, ← List.append_assoc, List.getLast?_append, hd]
      rfl
    rw [hlast] at hc
    cases hc
    exact hblank
  · have hname : '<' ∉ u.scheme.name.toList := by cases u.scheme <;> decide
    have hword : '<' ∉ word := fun hmem => hname (hscheme ▸ List.mem_map_of_mem hmem)
    have hclose : '>' ∉ portText u.port := notMem_portText _ _ (by decide) (by decide)
    have hwhole : a = (word ++ [':']) ++ ((userText u.userinfo ++ u.host.toList) ++ rest) := by
      simp [hsplit, huser.split, hhost.split]
    have hform : u.toString.toList = (u.scheme.name.toList ++ [':']) ++
        ((userText u.userinfo ++ u.host.toList) ++ portText u.port) := by
      simp [toList_toString]
    rw [hform] at hc
    exact hplain content (hwhole ▸ hc.moved (by simpa using hname) hclose _ rest (by simpa using hword))

/-- Parsing undoes writing, so writing what was parsed gives each text one written form, and two texts
have the same one exactly if they stand for the same address. -/
theorem parse_toString (text : String) (u : Uri) (h : parse text = .ok u) :
    parse u.toString = .ok u ∧ (parse u.toString).map Uri.toString = .ok u.toString ∧
      ∀ other v, parse other = .ok v → (u = v ↔ u.toString = v.toString) := by
  have hback : ∀ text u, parse text = .ok u → parse u.toString = .ok u := by
    intro text u h
    have hspelled := (parse_eq_ok_iff text u).mp h
    have hplain := ((isAddress_iff text _).mpr rfl).plain
    rw [parse_eq_ok_iff, ← (isAddress_iff _ _).mp (isAddress_toString _ u hspelled hplain)]
    exact spelled_toString _ u hspelled
  refine ⟨hback text u h, ?_, fun other v hv => ⟨congrArg _, fun hsame => ?_⟩⟩
  · rw [hback text u h]
    rfl
  · have hboth := hback text u h
    rw [hsame, hback other v hv] at hboth
    exact (Except.ok.inj hboth).symm

theorem parse_toString_unusual :
    parse " SIP:u<<x>@[a@ b]:0080;x " = .ok ⟨.sip, some ⟨"u<<x>", none⟩, "[a@ b]", some 80⟩ ∧
      parse "sip:u<<x>@[a@ b]:80" = .ok ⟨.sip, some ⟨"u<<x>", none⟩, "[a@ b]", some 80⟩ :=
  have hparse : parse " SIP:u<<x>@[a@ b]:0080;x " =
      .ok ⟨.sip, some ⟨"u<<x>", none⟩, "[a@ b]", some 80⟩ := by decide
  ⟨hparse, (parse_toString _ _ hparse).1⟩

end SipNotifier.Uri
