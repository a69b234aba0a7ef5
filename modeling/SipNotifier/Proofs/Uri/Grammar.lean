import Mathlib.Data.List.TakeWhile
import SipNotifier.Text.Split
import SipNotifier.Uri.Parser

/-! The grammar of SIP addresses. It says which texts are addresses and what they stand for, part by
part, in terms of how the text can be split; a part that may be absent is there wherever the text can be
split so. Main statement: the parser accepts exactly the texts of the grammar and answers what they stand
for (`parse_grammar`). Each reader is first set against its part. -/
namespace SipNotifier.Uri
open Text
set_option autoImplicit false

/-! ## The address in a text -/

/-- The text without the blanks around it. -/
structure Trimmed (text inner : List Char) : Prop where
  split : ∃ front back, text = front ++ (inner ++ back) ∧
    (∀ c ∈ front, isBlank c = true) ∧ ∀ c ∈ back, isBlank c = true
  first : ∀ c ∈ inner.head?, isBlank c = false
  last : ∀ c ∈ inner.getLast?, isBlank c = false

/-- The content stands between the first opening bracket and the next closing one, and has no other
opening bracket in it. -/
def Enclosed (cs content : List Char) : Prop :=
  ∃ before after, cs = before ++ '<' :: (content ++ '>' :: after) ∧ '<' ∉ before ∧
    '>' ∉ content ∧ '<' ∉ content

/-- The address in a text: what brackets enclose, or else the text without the blanks around it. -/
def IsAddress (text : String) (a : List Char) : Prop :=
  ∃ inner, Trimmed text.toList inner ∧
    (Enclosed inner a ∨ (∀ content, ¬ Enclosed inner content) ∧ a = inner)

/-! ## The parts of an address -/

/-- The longest front of the text that has only such characters. -/
structure LongestRun (p : Char → Prop) (cs run rest : List Char) : Prop where
  split : cs = run ++ rest
  all : ∀ c ∈ run, p c
  ends : ∀ c ∈ rest.head?, ¬ p c

/-- A user, or a user and a password behind a colon, and an at sign. -/
inductive Named (cs : List Char) : Userinfo → List Char → Prop
  | user (name rest : List Char) (hsplit : cs = name ++ '@' :: rest) (hname : name ≠ [])
      (hfree : ∀ c ∈ name, c ≠ ':' ∧ c ≠ '@') : Named cs ⟨String.ofList name, none⟩ rest
  | password (name word rest : List Char) (hsplit : cs = name ++ ':' :: (word ++ '@' :: rest))
      (hname : name ≠ []) (hfree : ∀ c ∈ name, c ≠ ':' ∧ c ≠ '@') (hword : word ≠ [])
      (hat : '@' ∉ word) : Named cs ⟨String.ofList name, some (String.ofList word)⟩ rest

/-- The part in front of the host, which is not passed over where the text can be read as one. -/
inductive UserPart (cs : List Char) : Option Userinfo → List Char → Prop
  | given (i : Userinfo) (rest : List Char) (h : Named cs i rest) : UserPart cs (some i) rest
  | absent (h : ∀ i rest, ¬ Named cs i rest) : UserPart cs none cs

/-- A letter or digit of ASCII, or one of three marks. -/
def IsNameChar (c : Char) : Prop := c.isAlpha = true ∨ c.isDigit = true ∨ c = '.' ∨ c = '-' ∨ c = '_'

inductive HostPart (cs : List Char) : List Char → List Char → Prop
  | bracketed (address rest : List Char) (hsplit : cs = '[' :: (address ++ ']' :: rest))
      (hne : address ≠ []) (hclose : ']' ∉ address) : HostPart cs ('[' :: (address ++ [']'])) rest
  | name (name rest : List Char) (hne : name ≠ []) (hrun : LongestRun IsNameChar cs name rest) :
      HostPart cs name rest

/-- All digits that follow a colon at the front of the text, at least one. -/
def PortDigits (cs digits : List Char) : Prop :=
  digits ≠ [] ∧ ∃ behind rest, cs = ':' :: behind ∧
    LongestRun (fun c => c.isDigit = true) behind digits rest

inductive PortPart (cs : List Char) : Option UInt16 → Prop
  | given (digits : List Char) (p : UInt16) (h : PortDigits cs digits)
      (hp : p.toNat = Nat.ofDigitChars 10 digits 0) : PortPart cs (some p)
  | absent (h : ∀ digits, PortDigits cs digits → 65535 < Nat.ofDigitChars 10 digits 0) :
      PortPart cs none

/-- The address is spelled so. Whatever follows the port belongs to no part. -/
inductive Spelled (a : List Char) (u : Uri) : Prop
  | mk (word behind front rest : List Char) (hscheme : word.map Char.toLower = u.scheme.name.toList)
      (hsplit : a = word ++ ':' :: behind) (huser : UserPart behind u.userinfo front)
      (hhost : HostPart front u.host.toList rest) (hport : PortPart rest u.port)

/-! ## Runs -/

theorem longestRun_iff (p : Char → Prop) (q : Char → Bool) (hq : ∀ c, q c = true ↔ p c)
    (cs run rest : List Char) :
    LongestRun p cs run rest ↔ run = cs.takeWhile q ∧ rest = cs.dropWhile q := by
  constructor
  · rintro ⟨rfl, hall, hends⟩
    obtain ⟨hrun, hrest⟩ := takeWhile_append_stop q run rest (fun c hc => (hq c).mpr (hall c hc))
      fun c hc => by simpa [← hq] using hends c hc
    exact ⟨hrun.symm, hrest.symm⟩
  · rintro ⟨rfl, rfl⟩
    refine ⟨List.takeWhile_append_dropWhile.symm, fun c hc => ?_, fun c hc => ?_⟩
    · exact (hq c).mp (List.mem_takeWhile_imp hc)
    · have hstop := List.head?_dropWhile_not q cs
      rw [Option.mem_def.mp hc] at hstop
      rw [← hq, hstop]
      decide

/-- A text is cut in front of a separator in one way only. -/
theorem cut_at (separator : Char) (word rest : List Char) (h : separator ∉ word) :
    (word ++ separator :: rest).takeWhile (· != separator) = word ∧
      (word ++ separator :: rest).dropWhile (· != separator) = separator :: rest := by
  refine takeWhile_append_stop _ word _ (fun c hc => ?_) (by simp)
  rw [bne_iff_ne]
  rintro rfl
  exact h hc

theorem cut_of_dropWhile (separator d : Char) (cs rest : List Char)
    (h : cs.dropWhile (· != separator) = d :: rest) :
    d = separator ∧ cs = cs.takeWhile (· != separator) ++ separator :: rest ∧
      separator ∉ cs.takeWhile (· != separator) := by
  obtain ⟨hsplit, hall, hends⟩ := (longestRun_iff (fun c => c ≠ separator) (· != separator)
    (by simp) cs _ _).mpr ⟨rfl, rfl⟩
  rw [h] at hsplit hends
  obtain rfl : d = separator := by simpa using hends d rfl
  exact ⟨rfl, hsplit, fun hmem => hall _ hmem rfl⟩

/-! ## Trimming and brackets -/

theorem trimmed_trim (text : List Char) : Trimmed text (trim text) := by
  obtain ⟨hfront, hblank, hfirst⟩ := (longestRun_iff (fun c => isBlank c = true) isBlank
    (by simp) text _ _).mpr ⟨rfl, rfl⟩
  obtain ⟨hback, hends, hlast⟩ := (longestRun_iff (fun c => isBlank c = true) isBlank
    (by simp) (text.dropWhile isBlank).reverse _ _).mpr ⟨rfl, rfl⟩
  have hinner : text.dropWhile isBlank =
      trim text ++ ((text.dropWhile isBlank).reverse.takeWhile isBlank).reverse := by
    rw [trim, ← List.reverse_append, ← hback, List.reverse_reverse]
  refine ⟨⟨_, _, by rw [← hinner]; exact hfront, hblank, ?_⟩, ?_, ?_⟩
  · intro c hc
    exact hends c (List.mem_reverse.mp hc)
  · intro c hc
    have hhead : c ∈ (text.dropWhile isBlank).head? := by
      rw [hinner, List.head?_append, Option.mem_def.mp hc]
      rfl
    simpa using hfirst c hhead
  · intro c hc
    rw [trim, List.getLast?_reverse] at hc
    simpa using hlast c hc

theorem trim_eq_of_trimmed (text inner : List Char) (h : Trimmed text inner) : trim text = inner := by
  obtain ⟨⟨front, back, rfl, hfront, hback⟩, hfirst, hlast⟩ := h
  cases inner with
  | nil =>
    have hall : (front ++ ([] ++ back)).dropWhile isBlank = [] := by
      rw [List.dropWhile_eq_nil_iff]
      intro c hc
      rcases List.mem_append.mp hc with hc | hc
      · exact hfront c hc
      · exact hback c hc
    rw [trim, hall]
    rfl
  | cons d inner =>
    obtain ⟨-, hdrop⟩ := takeWhile_append_stop isBlank front (d :: inner ++ back) hfront
      fun c hc => hfirst c hc
    obtain ⟨-, hrest⟩ := takeWhile_append_stop isBlank back.reverse (d :: inner).reverse
      (fun c hc => hback c (List.mem_reverse.mp hc)) fun c hc => hlast c (List.head?_reverse ▸ hc)
    rw [trim, hdrop, List.reverse_append, hrest, List.reverse_reverse]

theorem bracketed?_eq_some_iff (cs content : List Char) :
    bracketed? cs = some content ↔ Enclosed cs content := by
  constructor
  · intro h
    rw [bracketed?] at h
    split at h
    · cases h
    · next d inner hopen =>
      obtain ⟨rfl, hsplit, hbefore⟩ := cut_of_dropWhile '<' d cs inner hopen
      simp only [Option.ite_none_right_eq_some, Option.some.injEq, Bool.and_eq_true,
        decide_eq_true_eq, Bool.not_eq_true', List.contains_eq_mem, decide_eq_false_iff_not] at h
      obtain ⟨⟨hlength, hplain⟩, rfl⟩ := h
      cases hclose : inner.dropWhile (· != '>') with
      | nil =>
        have hwhole : inner.takeWhile (· != '>') = inner := by
          rw [← List.append_nil (inner.takeWhile _), ← hclose, List.takeWhile_append_dropWhile]
        rw [hwhole] at hlength
        omega
      | cons c after =>
        obtain ⟨-, hinner, hinside⟩ := cut_of_dropWhile '>' c inner after hclose
        exact ⟨_, after, by rw [← hinner]; exact hsplit, hbefore, hinside, hplain⟩
  · rintro ⟨before, after, rfl, hbefore, hinside, hplain⟩
    obtain ⟨-, hopen⟩ := cut_at '<' before (content ++ '>' :: after) hbefore
    obtain ⟨hcontent, -⟩ := cut_at '>' content after hinside
    rw [bracketed?, hopen]
    simp only [hcontent]
    rw [if_pos]
    simp [hplain]

theorem isAddress_iff (text : String) (a : List Char) : IsAddress text a ↔ a = address text := by
  constructor
  · rintro ⟨inner, hinner, h⟩
    rw [address, trim_eq_of_trimmed _ _ hinner, stripBrackets]
    rcases h with h | ⟨hplain, rfl⟩
    · rw [(bracketed?_eq_some_iff _ _).mpr h, Option.getD_some]
    · cases hb : bracketed? a with
      | none => rfl
      | some content => exact absurd ((bracketed?_eq_some_iff _ _).mp hb) (hplain content)
  · rintro rfl
    refine ⟨trim text.toList, trimmed_trim _, ?_⟩
    rw [address, stripBrackets]
    cases hb : bracketed? (trim text.toList) with
    | none =>
      refine Or.inr ⟨fun content h => ?_, rfl⟩
      rw [(bracketed?_eq_some_iff _ _).mpr h] at hb
      cases hb
    | some content => exact Or.inl ((bracketed?_eq_some_iff _ _).mp hb)

theorem mem_stripBrackets (cs : List Char) (c : Char) (h : c ∈ stripBrackets cs) : c ∈ cs := by
  rw [stripBrackets] at h
  cases hb : bracketed? cs with
  | none => rwa [hb] at h
  | some content =>
    obtain ⟨before, after, rfl, -⟩ := (bracketed?_eq_some_iff cs content).mp hb
    rw [hb] at h
    have hc : c ∈ content := h
    simp [hc]

theorem mem_address (text : String) (c : Char) (h : c ∈ address text) : c ∈ text.toList := by
  obtain ⟨⟨front, back, hsplit, -, -⟩, -, -⟩ := trimmed_trim text.toList
  have htrim := mem_stripBrackets _ c h
  rw [hsplit]
  simp [htrim]

/-! ## The scheme -/

/-- Only capital letters have another lowercase form. -/
theorem toLower_of_not_capital (c : Char) (h : ¬ (65 ≤ c.toNat ∧ c.toNat ≤ 90)) : c.toLower = c :=
  dif_neg h

theorem toNat_toLower (c : Char) (h : 65 ≤ c.toNat ∧ c.toNat ≤ 90) :
    c.toLower.toNat = c.toNat + 32 := by
  have hval : c.toLower.val = c.val + ('a'.val - 'A'.val) := congrArg Char.val (dif_pos h)
  change c.toLower.val.toNat = c.toNat + 32
  rw [hval, UInt32.toNat_add]
  change (c.toNat + 32) % 4294967296 = c.toNat + 32
  omega

/-- A character in front of the small letters is the lowercase form of no other. -/
theorem eq_of_toLower_eq (c d : Char) (hd : d.toNat < 97) (h : c.toLower = d) : c = d := by
  by_cases hc : 65 ≤ c.toNat ∧ c.toNat ≤ 90
  · have hshift := toNat_toLower c hc
    rw [h] at hshift
    omega
  · rwa [toLower_of_not_capital c hc] at h

theorem dropWord?_eq_some_iff (word cs rest : List Char) :
    dropWord? word cs = some rest ↔ ∃ front, front.map Char.toLower = word ∧ cs = front ++ rest := by
  induction word generalizing cs with
  | nil =>
    simp only [dropWord?, Option.some.injEq, List.map_eq_nil_iff]
    constructor
    · rintro rfl
      exact ⟨[], rfl, rfl⟩
    · rintro ⟨_, rfl, rfl⟩
      rfl
  | cons w word ih =>
    cases cs with
    | nil =>
      simp only [dropWord?, reduceCtorEq, false_iff]
      rintro ⟨front, hfront, hsplit⟩
      have hnil := (List.append_eq_nil_iff.mp hsplit.symm).1
      rw [hnil] at hfront
      cases hfront
    | cons c cs =>
      simp only [dropWord?, Option.ite_none_right_eq_some, ih]
      constructor
      · rintro ⟨hc, front, hfront, rfl⟩
        exact ⟨c :: front, by rw [List.map_cons, hc, hfront], rfl⟩
      · rintro ⟨front, hfront, hsplit⟩
        cases front with
        | nil => cases hfront
        | cons d front =>
          rw [List.map_cons, List.cons.injEq] at hfront
          rw [List.cons_append, List.cons.injEq] at hsplit
          exact ⟨hsplit.1 ▸ hfront.1, front, hfront.2, hsplit.2⟩

/-- A word and the colon behind it, which is the same in either case. -/
theorem dropWord?_colon (word cs rest : List Char) :
    dropWord? (word ++ [':']) cs = some rest ↔
      ∃ front, front.map Char.toLower = word ∧ cs = front ++ ':' :: rest := by
  rw [dropWord?_eq_some_iff]
  constructor
  · rintro ⟨front, hfront, rfl⟩
    obtain ⟨before, last, rfl, hbefore, hlast⟩ := List.map_eq_append_iff.mp hfront
    obtain ⟨c, none, rfl, hc, hnone⟩ := List.map_eq_cons_iff.mp hlast
    rw [List.map_eq_nil_iff] at hnone
    subst hnone
    rw [eq_of_toLower_eq c ':' (by decide) hc]
    exact ⟨before, hbefore, by simp⟩
  · rintro ⟨front, rfl, rfl⟩
    exact ⟨front ++ [':'], by simp, by simp⟩

theorem Scheme.read_eq_some_iff (cs rest : List Char) (scheme : Scheme) :
    Scheme.read cs = some (scheme, rest) ↔
      ∃ word, word.map Char.toLower = scheme.name.toList ∧ cs = word ++ ':' :: rest := by
  have hlong := dropWord?_colon "sips".toList cs
  have hshort := dropWord?_colon "sip".toList cs
  change ∀ rest, dropWord? "sips:".toList cs = some rest ↔ _ at hlong
  change ∀ rest, dropWord? "sip:".toList cs = some rest ↔ _ at hshort
  -- Where one of the words stands, the fourth character tells that the other does not.
  have hapart : ∀ x y, dropWord? "sips:".toList cs = some x → dropWord? "sip:".toList cs ≠ some y := by
    intro x y hx hy
    obtain ⟨front, hfront, rfl⟩ := (hlong x).mp hx
    obtain ⟨word, hword, hsplit⟩ := (hshort y).mp hy
    have hlower := congrArg (fun cs => (cs.map Char.toLower)[3]?) hsplit
    simp only [List.map_append, hfront, hword] at hlower
    revert hlower
    simp
  rw [Scheme.read]
  cases scheme with
  | sips =>
    rw [Scheme.name, ← hlong rest]
    cases hl : dropWord? "sips:".toList cs with
    | some x => simp
    | none => cases dropWord? "sip:".toList cs <;> simp
  | sip =>
    rw [Scheme.name, ← hshort rest]
    cases hl : dropWord? "sips:".toList cs with
    | some x => simpa using hapart x rest hl
    | none => cases dropWord? "sip:".toList cs <;> simp

/-! ## The user -/

theorem Userinfo.read_eq_some_iff (cs rest : List Char) (i : Userinfo) :
    Userinfo.read cs = some (i, rest) ↔ Named cs i rest := by
  have hclass : ∀ c : Char, (c != ':' && c != '@') = true ↔ c ≠ ':' ∧ c ≠ '@' := by simp
  constructor
  · intro h
    obtain ⟨hsplit, hfree, hends⟩ := (longestRun_iff (fun c => c ≠ ':' ∧ c ≠ '@') _ hclass
      cs _ _).mpr ⟨rfl, rfl⟩
    simp only [Userinfo.read, List.isEmpty_iff] at h
    split at h
    · cases h
    · next hname =>
      split at h
      · next after hat =>
        simp only [Option.some.injEq, Prod.mk.injEq] at h
        obtain ⟨rfl, rfl⟩ := h
        exact .user _ after (hat ▸ hsplit) hname hfree
      · next behind hcolon =>
        split at h
        · next d after hat =>
          obtain ⟨rfl, hbehind, hword⟩ := cut_of_dropWhile '@' d behind after hat
          split at h
          · cases h
          · next hne =>
            simp only [Option.some.injEq, Prod.mk.injEq] at h
            obtain ⟨rfl, rfl⟩ := h
            rw [hcolon] at hsplit
            exact .password _ _ after (by rw [← hbehind]; exact hsplit) hname hfree hne hword
        · cases h
      · cases h
  · intro h
    cases h with
    | user name rest hsplit hname hfree =>
      subst hsplit
      obtain ⟨hfront, hback⟩ := takeWhile_append_stop (fun c => c != ':' && c != '@') name
        ('@' :: rest) (fun c hc => (hclass c).mpr (hfree c hc)) (by simp)
      simp [Userinfo.read, hfront, hback, hname]
    | password name word rest hsplit hname hfree hword hat =>
      subst hsplit
      obtain ⟨hfront, hback⟩ := takeWhile_append_stop (fun c => c != ':' && c != '@') name
        (':' :: (word ++ '@' :: rest)) (fun c hc => (hclass c).mpr (hfree c hc)) (by simp)
      obtain ⟨hinside, hbehind⟩ := cut_at '@' word rest hat
      simp [Userinfo.read, hfront, hback, hname, hinside, hbehind, hword]

/-- The part in front of the host, and what is left of the text. -/
def readUser (cs : List Char) : Option Userinfo × List Char :=
  match Userinfo.read cs with
  | some (i, behind) => (some i, behind)
  | none => (none, cs)

theorem userPart_iff (cs rest : List Char) (i : Option Userinfo) :
    UserPart cs i rest ↔ readUser cs = (i, rest) := by
  rw [readUser]
  constructor
  · intro h
    cases h with
    | given i rest h => rw [(Userinfo.read_eq_some_iff _ _ _).mpr h]
    | absent h =>
      cases hr : Userinfo.read cs with
      | none => rfl
      | some o => exact absurd ((Userinfo.read_eq_some_iff _ _ _).mp hr) (h o.1 o.2)
  · intro h
    cases hr : Userinfo.read cs with
    | none =>
      rw [hr, Prod.mk.injEq] at h
      obtain ⟨rfl, rfl⟩ := h
      refine .absent fun i rest hi => ?_
      rw [(Userinfo.read_eq_some_iff _ _ _).mpr hi] at hr
      cases hr
    | some o =>
      rw [hr, Prod.mk.injEq] at h
      obtain ⟨rfl, rfl⟩ := h
      exact .given _ _ ((Userinfo.read_eq_some_iff _ _ _).mp hr)

/-! ## The host -/

theorem isHostChar_iff (c : Char) : isHostChar c = true ↔ IsNameChar c := by
  simp [isHostChar, IsNameChar, Char.isAlphanum, or_assoc]

theorem readHost_eq_some_iff (cs host rest : List Char) :
    readHost cs = some (host, rest) ↔ HostPart cs host rest := by
  constructor
  · intro h
    simp only [readHost, List.isEmpty_iff] at h
    split at h
    · next inside =>
      split at h
      · next d after hclose =>
        obtain ⟨rfl, hinside, haddress⟩ := cut_of_dropWhile ']' d inside after hclose
        split at h
        · cases h
        · next hne =>
          simp only [Option.some.injEq, Prod.mk.injEq] at h
          obtain ⟨rfl, rfl⟩ := h
          exact .bracketed _ after (congrArg _ hinside) hne haddress
      · cases h
    · split at h
      · cases h
      · next hne =>
        simp only [Option.some.injEq, Prod.mk.injEq] at h
        obtain ⟨rfl, rfl⟩ := h
        exact .name _ _ hne ((longestRun_iff _ _ isHostChar_iff _ _ _).mpr ⟨rfl, rfl⟩)
  · intro h
    cases h with
    | bracketed address rest hsplit hne hclose =>
      subst hsplit
      obtain ⟨hfront, hback⟩ := cut_at ']' address rest hclose
      simp [readHost, hfront, hback, hne]
    | name name rest hne hrun =>
      obtain ⟨hname, hrest⟩ := (longestRun_iff _ _ isHostChar_iff _ _ _).mp hrun
      have hplain : ∀ inside, cs ≠ '[' :: inside := by
        rintro inside rfl
        have hnone : ('[' :: inside).takeWhile isHostChar = [] :=
          List.takeWhile_cons_of_neg (by decide)
        exact hne (hname.trans hnone)
      rw [readHost]
      · simp [← hname, ← hrest, hne]
      · exact hplain

/-! ## The port -/

theorem portDigits_iff (cs digits : List Char) :
    PortDigits cs digits ↔ digits ≠ [] ∧ ∃ behind, cs = ':' :: behind ∧
      digits = behind.takeWhile Char.isDigit := by
  have hrun := longestRun_iff (fun c => c.isDigit = true) Char.isDigit fun _ => Iff.rfl
  constructor
  · rintro ⟨hne, behind, rest, rfl, h⟩
    exact ⟨hne, behind, rfl, ((hrun behind digits rest).mp h).1⟩
  · rintro ⟨hne, behind, rfl, rfl⟩
    exact ⟨hne, behind, _, rfl, (hrun behind _ _).mpr ⟨rfl, rfl⟩⟩

theorem PortDigits.unique {cs digits other : List Char} (h : PortDigits cs digits)
    (ho : PortDigits cs other) : other = digits := by
  obtain ⟨-, x, hx, hdigits⟩ := (portDigits_iff _ _).mp h
  obtain ⟨-, y, hy, hother⟩ := (portDigits_iff _ _).mp ho
  rw [hother, hdigits, (List.cons.inj (hy.symm.trans hx)).2]

theorem boundedDecimal?_digits (bound : Nat) (digits : List Char) (hne : digits ≠ [])
    (hall : ∀ c ∈ digits, c.isDigit = true) : boundedDecimal? bound digits =
      if Nat.ofDigitChars 10 digits 0 ≤ bound then some (Nat.ofDigitChars 10 digits 0) else none := by
  have hvalue : decimalValue digits = Nat.ofDigitChars 10 digits 0 := rfl
  have hfilled : digits.isEmpty = false := by simpa using hne
  rw [boundedDecimal?, hvalue, hfilled, List.all_eq_true.mpr hall]
  simp

theorem readPort_of_digits (cs digits : List Char) (h : PortDigits cs digits) : readPort cs =
    if Nat.ofDigitChars 10 digits 0 ≤ 65535 then some (UInt16.ofNat (Nat.ofDigitChars 10 digits 0))
    else none := by
  obtain ⟨hne, behind, rfl, hdigits⟩ := (portDigits_iff _ _).mp h
  have hall : ∀ c ∈ digits, c.isDigit = true := fun c hc => List.mem_takeWhile_imp (hdigits ▸ hc)
  rw [readPort, ← hdigits, boundedDecimal?_digits 65535 digits hne hall]
  split <;> rfl

theorem readPort_of_no_digits (cs : List Char) (h : ∀ digits, ¬ PortDigits cs digits) :
    readPort cs = none := by
  unfold readPort
  split
  · next behind =>
    have hnil : behind.takeWhile Char.isDigit = [] :=
      Classical.not_not.mp fun hne => h _ ((portDigits_iff _ _).mpr ⟨hne, behind, rfl, rfl⟩)
    rw [hnil]
    rfl
  · rfl

theorem portPart_iff (cs : List Char) (port : Option UInt16) :
    PortPart cs port ↔ readPort cs = port := by
  constructor
  · intro h
    cases h with
    | given digits p hd hp =>
      have hle := p.toNat_lt
      rw [readPort_of_digits cs digits hd, ← hp, if_pos (by omega), UInt16.ofNat_toNat]
    | absent h =>
      by_cases hdigits : ∃ digits, PortDigits cs digits
      · obtain ⟨digits, hd⟩ := hdigits
        rw [readPort_of_digits cs digits hd, if_neg (Nat.not_le.mpr (h digits hd))]
      · exact readPort_of_no_digits cs (not_exists.mp hdigits)
  · rintro rfl
    by_cases hdigits : ∃ digits, PortDigits cs digits
    · obtain ⟨digits, hd⟩ := hdigits
      rw [readPort_of_digits cs digits hd]
      split
      · next hle =>
        refine .given digits _ hd ?_
        rw [UInt16.toNat_ofNat']
        exact Nat.mod_eq_of_lt (by omega)
      · next hbig =>
        refine .absent fun other ho => ?_
        rw [hd.unique ho]
        omega
    · rw [readPort_of_no_digits cs (not_exists.mp hdigits)]
      exact .absent fun digits hd => absurd ⟨digits, hd⟩ hdigits

/-! ## Whole addresses -/

theorem read?_eq_some_iff (a : List Char) (u : Uri) : read? a = some u ↔ Spelled a u := by
  have hbind : read? a = (Scheme.read a).bind fun s =>
      (readHost (readUser s.2).2).bind fun h =>
        some ⟨s.1, (readUser s.2).1, String.ofList h.1, readPort h.2⟩ := by
    rw [read?]
    cases Scheme.read a with
    | none => rfl
    | some s =>
      obtain ⟨scheme, behind⟩ := s
      simp only [Option.bind_eq_bind, Option.bind_some, readUser]
      cases Userinfo.read behind <;> rfl
  rw [hbind]
  simp only [Option.bind_eq_some_iff, Option.some.injEq]
  constructor
  · rintro ⟨⟨scheme, behind⟩, hs, ⟨host, rest⟩, hh, rfl⟩
    obtain ⟨word, hword, hsplit⟩ := (Scheme.read_eq_some_iff _ _ _).mp hs
    refine .mk word behind _ rest hword hsplit ((userPart_iff _ _ _).mpr rfl) ?_
      ((portPart_iff _ _).mpr rfl)
    rw [String.toList_ofList]
    exact (readHost_eq_some_iff _ _ _).mp hh
  · rintro ⟨word, behind, front, rest, hword, hsplit, huser, hhost, hport⟩
    have hu := (userPart_iff _ _ _).mp huser
    refine ⟨(u.scheme, behind), (Scheme.read_eq_some_iff _ _ _).mpr ⟨word, hword, hsplit⟩,
      (u.host.toList, rest), ?_, ?_⟩
    · rw [hu]
      exact (readHost_eq_some_iff _ _ _).mpr hhost
    · rw [hu, (portPart_iff _ _).mp hport, String.ofList_toList]

theorem parse_eq_ok_iff (text : String) (u : Uri) :
    parse text = .ok u ↔ Spelled (address text) u := by
  rw [← read?_eq_some_iff, parse]
  cases read? (address text) <;> simp

/-- A text is accepted exactly if the one address in it has a spelling in the grammar, and it then
stands for what that spelling says. Any other text is handed back in the error as it came. -/
theorem parse_grammar (text : String) : ∃ a, (∀ b, IsAddress text b ↔ b = a) ∧
    (∀ u, parse text = .ok u ↔ Spelled a u) ∧
    (parse text = .error ⟨text⟩ ↔ ∀ u, ¬ Spelled a u) := by
  refine ⟨address text, isAddress_iff text, parse_eq_ok_iff text, ?_⟩
  simp only [← read?_eq_some_iff, parse]
  cases read? (address text) <;> simp

end SipNotifier.Uri
