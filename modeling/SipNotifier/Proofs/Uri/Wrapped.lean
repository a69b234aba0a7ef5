import SipNotifier.Proofs.Uri.Canonical

/-! Angle brackets put around a text that holds an address. They enclose what stands in front of the
first closing bracket, which is the whole text only where it has no brackets of its own. Main statements:
what the wrapped text parses to (`parse_wrapped`), and when that is what the text itself parses to, for a
text without an opening bracket (`parse_wrapped_iff`). -/
namespace SipNotifier.Uri
open Text
set_option autoImplicit false

/-! ## Text behind an address -/

/-- The text ends every part of an address that it stands behind. -/
def Stops (tail : List Char) : Prop := ∀ c ∈ tail.head?, ¬ IsNameChar c ∧ c ≠ ':'

variable {cs front host rest tail : List Char}

theorem UserPart.append {i : Option Userinfo} (h : UserPart cs i front) (hat : '@' ∉ tail) :
    UserPart (cs ++ tail) i (front ++ tail) := by
  have hwhole : UserPart cs i (front ++ []) := by rwa [List.append_nil]
  have hmoved := hwhole.moved tail hat
  rwa [← List.append_assoc, ← h.split] at hmoved

theorem UserPart.cut {i : Option Userinfo} (h : UserPart (cs ++ tail) i (front ++ tail)) :
    UserPart cs i front := by
  have hsplit := h.split
  rw [← List.append_assoc, List.append_cancel_right_eq] at hsplit
  generalize hfront : front ++ tail = whole at h
  cases h with
  | given i rest h =>
    rw [hsplit]
    exact .given i front (h.moved front)
  | absent h =>
    obtain rfl : cs = front := hsplit
    refine .absent fun i rest hi => h i (rest ++ tail) ?_
    rw [hi.split, List.append_assoc]
    exact hi.moved _

theorem HostPart.append (h : HostPart cs host rest) (hstop : Stops tail) :
    HostPart (cs ++ tail) host (rest ++ tail) := by
  rw [h.split, List.append_assoc]
  refine h.moved _ fun hends c hc => ?_
  cases rest with
  | nil => exact (hstop c hc).1
  | cons d rest => exact hends c hc

theorem HostPart.cut (h : HostPart (host ++ (rest ++ tail)) host (rest ++ tail)) :
    HostPart (host ++ rest) host rest := by
  refine h.moved _ fun hends c hc => hends c ?_
  rw [List.head?_append, Option.mem_def.mp hc]
  rfl

theorem readPort_of_ne (c : Char) (cs : List Char) (h : c ≠ ':') : readPort (c :: cs) = none := by
  unfold readPort
  split
  · next hcolon => exact absurd (List.cons.inj hcolon).1 h
  · rfl

theorem readPort_append (hstop : Stops tail) : readPort (rest ++ tail) = readPort rest := by
  cases rest with
  | nil =>
    cases tail with
    | nil => rfl
    | cons c tail => exact readPort_of_ne c tail (hstop c rfl).2
  | cons c rest =>
    by_cases hc : c = ':'
    · subst hc
      have hdigit : ∀ c ∈ tail.head?, c.isDigit = false := by
        intro c hc
        cases hd : c.isDigit with
        | false => rfl
        | true => exact absurd (Or.inr (Or.inl hd)) (hstop c hc).1
      rw [List.cons_append, readPort, readPort, takeWhile_append_of_stop _ rest tail hdigit]
    · rw [List.cons_append, readPort_of_ne c _ hc, readPort_of_ne c _ hc]

/-- Nothing behind an address is looked at, so long as it does not go on there. -/
theorem Spelled.append {a : List Char} {u : Uri} (h : Spelled a u) (hstop : Stops tail)
    (hat : '@' ∉ tail) : Spelled (a ++ tail) u := by
  obtain ⟨word, behind, front, rest, hscheme, rfl, huser, hhost, hport⟩ := h
  refine .mk word (behind ++ tail) (front ++ tail) (rest ++ tail) hscheme (by simp)
    (huser.append hat) (hhost.append hstop) ?_
  rw [portPart_iff, readPort_append hstop]
  exact (portPart_iff _ _).mp hport

/-- The parts of an address stand in its text one behind the other. -/
theorem Spelled.split {a : List Char} {u : Uri} (h : Spelled a u) :
    ∃ word rest, word.map Char.toLower = u.scheme.name.toList ∧
      a = word ++ ':' :: (userText u.userinfo ++ (u.host.toList ++ rest)) := by
  obtain ⟨word, behind, front, rest, hscheme, rfl, huser, hhost, -⟩ := h
  exact ⟨word, rest, hscheme, by rw [huser.split, hhost.split]⟩

theorem mem_toString (u : Uri) (c : Char) : c ∈ u.toString.toList ↔ c ∈ u.scheme.name.toList ∨
    c = ':' ∨ c ∈ userText u.userinfo ∨ c ∈ u.host.toList ∨ c ∈ portText u.port := by
  simp [toList_toString]

/-- A closing bracket that is not part of the address cuts it off at no loss. -/
theorem Spelled.cut {a more : List Char} {u : Uri} (h : Spelled (a ++ '>' :: more) u)
    (hclose : '>' ∉ u.toString.toList) : Spelled a u := by
  obtain ⟨word, behind, front, rest, hscheme, hsplit, huser, hhost, hport⟩ := h
  simp only [mem_toString, not_or] at hclose
  obtain ⟨hname, hcolon, huserinfo, hplace, -⟩ := hclose
  have hword : '>' ∉ word := fun hmem => hname (hscheme ▸ List.mem_map_of_mem hmem)
  have hfront : '>' ∉ word ++ ':' :: (userText u.userinfo ++ u.host.toList) := by
    simp [hword, huserinfo, hplace]
  have hwhole : (word ++ ':' :: (userText u.userinfo ++ u.host.toList)) ++ rest = a ++ '>' :: more := by
    rw [hsplit, huser.split, hhost.split]
    simp
  obtain ⟨tail, rfl, rfl⟩ := separator_behind '>' _ rest a more hfront hwhole
  have hstop : Stops ('>' :: more) := by simp [Stops, IsNameChar]
  obtain rfl := hhost.split
  obtain rfl := huser.split
  refine .mk word (userText u.userinfo ++ (u.host.toList ++ tail)) (u.host.toList ++ tail) tail hscheme
    (by simp) (UserPart.cut (by simpa using huser)) hhost.cut ?_
  rw [portPart_iff, ← readPort_append hstop]
  exact (portPart_iff _ _).mp hport

/-- The written form has no closing bracket that the spelling has not. -/
theorem Spelled.closing_notMem {a : List Char} {u : Uri} (h : Spelled a u) (ha : '>' ∉ a) :
    '>' ∉ u.toString.toList := by
  obtain ⟨word, rest, hscheme, rfl⟩ := h.split
  have hname : '>' ∉ u.scheme.name.toList := by cases u.scheme <;> decide
  have hport : '>' ∉ portText u.port := notMem_portText _ _ (by decide) (by decide)
  simp only [List.mem_append, List.mem_cons, not_or] at ha
  rw [mem_toString]
  rintro (h | h | h | h | h)
  · exact hname h
  · exact ha.2.1 h
  · exact ha.2.2.1 h
  · exact ha.2.2.2.1 h
  · exact hport h

/-- An address begins with the first letter of its scheme, in one case or the other. -/
theorem Spelled.first {a : List Char} {u : Uri} (h : Spelled a u) :
    ∃ c rest, a = c :: rest ∧ c.toLower = 's' := by
  obtain ⟨word, rest, hscheme, rfl⟩ := h.split
  cases word with
  | nil => cases hs : u.scheme <;> simp [hs, Scheme.name] at hscheme
  | cons c word =>
    refine ⟨c, _, rfl, ?_⟩
    cases hs : u.scheme <;> simpa [hs, Scheme.name] using congrArg List.head? hscheme

/-! ## The wrapped text -/

/-- What stands in front of the first closing bracket. -/
def enclosed (text : String) : List Char := text.toList.takeWhile (· != '>')

theorem address_wrapped (text : String) : address ("<" ++ text ++ ">") =
    if '<' ∈ enclosed text then '<' :: (text.toList ++ ['>']) else enclosed text := by
  have hcandidate : (text.toList ++ ['>']).takeWhile (· != '>') = enclosed text :=
    takeWhile_append_of_stop _ _ _ (by simp)
  have hlength : (enclosed text).length < (text.toList ++ ['>']).length := by
    have hle := (List.takeWhile_sublist (· != '>') (l := text.toList)).length_le
    rw [List.length_append, List.length_singleton]
    exact Nat.lt_succ_of_le hle
  have htrim : trim ('<' :: (text.toList ++ ['>'])) = '<' :: (text.toList ++ ['>']) := by
    refine trim_eq_of_trimmed _ _ ⟨⟨[], [], by simp, by simp, by simp⟩, ?_, ?_⟩
    · intro c hc
      obtain rfl : '<' = c := Option.some.inj hc
      decide
    · intro c hc
      rw [← List.cons_append, List.getLast?_concat] at hc
      obtain rfl : '>' = c := Option.some.inj hc
      decide
  have htext : ("<" ++ text ++ ">").toList = '<' :: (text.toList ++ ['>']) := by simp
  have hopen : ('<' :: (text.toList ++ ['>'])).dropWhile (· != '<') = '<' :: (text.toList ++ ['>']) :=
    List.dropWhile_cons_of_neg (by simp)
  rw [address, htext, htrim, stripBrackets, bracketed?, hopen]
  simp only [hcandidate, hlength, decide_true, Bool.true_and, List.contains_eq_mem]
  by_cases hmem : '<' ∈ enclosed text <;> simp [hmem]

/-- The wrapped text stands for what its brackets enclose, if that is an address. -/
theorem parse_wrapped (text : String) (u : Uri) : parse ("<" ++ text ++ ">") = .ok u ↔
    '<' ∉ enclosed text ∧ Spelled (enclosed text) u := by
  rw [parse_eq_ok_iff, address_wrapped]
  by_cases hmem : '<' ∈ enclosed text
  · rw [if_pos hmem]
    constructor
    · intro h
      obtain ⟨c, rest, hc, hlower⟩ := h.first
      rw [← (List.cons.inj hc).1] at hlower
      exact absurd hlower (by decide)
    · exact fun h => absurd hmem h.1
  · rw [if_neg hmem]
    exact ⟨fun h => ⟨hmem, h⟩, And.right⟩

/-! ## What the wrapping keeps -/

theorem isBlank_of_toLower (c : Char) (h : c.toLower = 's') : isBlank c = false := by
  by_cases hc : 65 ≤ c.toNat ∧ c.toNat ≤ 90
  · exact isBlank_of_visible c (by omega)
  · rw [toLower_of_not_capital c hc] at h
    rw [h]
    decide

theorem stops_of_blank (h : ∀ c ∈ tail, isBlank c = true) : Stops tail := by
  intro c hc
  have hblank := h c (List.mem_of_mem_head? hc)
  constructor
  · intro hname
    rw [isBlank_of_isNameChar c hname] at hblank
    cases hblank
  · rintro rfl
    revert hblank
    decide

/-- Where a text has no opening bracket, its address is all of it but for the blanks at its ends. -/
theorem address_of_plain (text : String) (hopen : '<' ∉ text.toList) :
    address text = trim text.toList := by
  refine ((isAddress_iff text _).mp ⟨_, trimmed_trim _, Or.inr ⟨?_, rfl⟩⟩).symm
  rintro content ⟨before, after, hsplit, -⟩
  obtain ⟨⟨front, back, htext, -, -⟩, -, -⟩ := trimmed_trim text.toList
  rw [htext, hsplit] at hopen
  simp at hopen

/-- A text without an opening bracket means the same with brackets around it exactly if it does not
begin with a blank and the address in it has no closing bracket. -/
theorem parse_wrapped_iff (text : String) (u : Uri) (h : parse text = .ok u)
    (hopen : '<' ∉ text.toList) : parse ("<" ++ text ++ ">") = .ok u ↔
      (∀ c ∈ text.toList.head?, isBlank c = false) ∧ '>' ∉ u.toString.toList := by
  have hfree : '>' ∉ enclosed text := fun hmem => by simpa using List.mem_takeWhile_imp hmem
  have hplain : '<' ∉ enclosed text := fun hmem => hopen ((List.takeWhile_subset _) hmem)
  rw [parse_wrapped]
  constructor
  · rintro ⟨-, hspelled⟩
    refine ⟨fun c hc => ?_, hspelled.closing_notMem hfree⟩
    obtain ⟨d, rest, hd, hlower⟩ := hspelled.first
    have hhead : text.toList.head? = some d := by
      rw [← List.takeWhile_append_dropWhile (p := (· != '>')) (l := text.toList)]
      change (enclosed text ++ _).head? = some d
      rw [hd]
      rfl
    rw [hhead] at hc
    obtain rfl : d = c := Option.some.inj hc
    exact isBlank_of_toLower d hlower
  · rintro ⟨hfirst, hclose⟩
    refine ⟨hplain, ?_⟩
    have hspelled := (parse_eq_ok_iff text u).mp h
    rw [address_of_plain text hopen] at hspelled
    obtain ⟨⟨front, back, htext, hfront, hback⟩, -, -⟩ := trimmed_trim text.toList
    obtain rfl : front = [] := by
      cases front with
      | nil => rfl
      | cons c front =>
        have hblank := hfront c List.mem_cons_self
        rw [hfirst c (by rw [htext]; rfl)] at hblank
        cases hblank
    have hat : '@' ∉ back := fun hmem => absurd (hback '@' hmem) (by decide)
    have hwhole := hspelled.append (stops_of_blank hback) hat
    rw [List.nil_append] at htext
    rw [← htext] at hwhole
    cases hrest : text.toList.dropWhile (· != '>') with
    | nil =>
      have hall : enclosed text = text.toList := by
        have hsplit := List.takeWhile_append_dropWhile (p := (· != '>')) (l := text.toList)
        rwa [hrest, List.append_nil] at hsplit
      rwa [hall]
    | cons d more =>
      obtain ⟨rfl, hsplit, -⟩ := cut_of_dropWhile '>' d text.toList more hrest
      rw [hsplit] at hwhole
      exact hwhole.cut hclose

end SipNotifier.Uri
