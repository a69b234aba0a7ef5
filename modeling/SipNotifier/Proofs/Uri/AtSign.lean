import SipNotifier.Proofs.ResourceKey
import SipNotifier.Proofs.Uri.Grammar

/-! The at sign of an address. In front of the first one stands the user, and behind it the host. An
at sign is passed over only where the user has a colon behind it and no password: the reader then takes
the user for the host. Main statement: where the parts of an accepted address stand, and when it names no
user (`user_exact`). -/
namespace SipNotifier.Uri
open Text
set_option autoImplicit false

/-! ## What stands in front of the at sign -/

/-- The text in front of an at sign, cut at its first colon. -/
inductive Userinfo.Cut (between : List Char) : Userinfo → Prop
  | name (h : ':' ∉ between) : Userinfo.Cut between ⟨String.ofList between, none⟩
  | password (name word : List Char) (hsplit : between = name ++ ':' :: word) (hname : ':' ∉ name) :
      Userinfo.Cut between ⟨String.ofList name, some (String.ofList word)⟩

/-- A user with a colon behind it and no password in front of the at sign. -/
def BlankPassword (behind : List Char) : Prop :=
  ∃ name rest, behind = name ++ ':' :: '@' :: rest ∧ name ≠ [] ∧ ':' ∉ name ∧ '@' ∉ name

variable {behind front host rest : List Char}

/-- A host begins with a character that is neither of the two marks. -/
theorem HostPart.first (h : HostPart front host rest) :
    ∀ c ∈ front.head?, c ≠ ':' ∧ c ≠ '@' := by
  intro c hc
  cases h with
  | bracketed address rest hsplit hne hclose =>
    rw [hsplit] at hc
    obtain rfl : '[' = c := Option.some.inj hc
    decide
  | name name rest hne hrun =>
    obtain ⟨d, name, rfl⟩ := List.exists_cons_of_ne_nil hne
    rw [hrun.split] at hc
    obtain rfl : d = c := Option.some.inj hc
    have hd := hrun.all d List.mem_cons_self
    constructor <;> rintro rfl <;> simp [IsNameChar] at hd

theorem Named.cut {i : Userinfo} (h : Named behind i rest) :
    ∃ between, behind = between ++ '@' :: rest ∧ '@' ∉ between ∧ Userinfo.Cut between i := by
  cases h with
  | user name rest hsplit hname hfree =>
    exact ⟨name, hsplit, fun hat => (hfree _ hat).2 rfl, .name fun hcolon => (hfree _ hcolon).1 rfl⟩
  | password name word rest hsplit hname hfree hword hat =>
    refine ⟨name ++ ':' :: word, by simp [hsplit], ?_, .password name word rfl fun hcolon =>
      (hfree _ hcolon).1 rfl⟩
    simp only [List.mem_append, List.mem_cons, not_or]
    exact ⟨fun hname => (hfree _ hname).2 rfl, by decide, hat⟩

theorem Userinfo.Cut.mem_name {between : List Char} {i : Userinfo} (h : Userinfo.Cut between i) (c : Char)
    (hc : c ∈ i.name.toList) : c ∈ between := by
  cases h with
  | name hcolon => simpa using hc
  | password name word hsplit hname =>
    rw [hsplit]
    exact List.mem_append_left _ (by simpa using hc)

/-! ## When no user is read -/

/-- Where no user can be read and yet a host begins, no at sign is left but one behind a colon. -/
theorem blankPassword_of_unnamed (hfirst : ∀ c ∈ behind.head?, c ≠ ':' ∧ c ≠ '@')
    (h : ∀ i rest, ¬ Named behind i rest) (hat : '@' ∈ behind) : BlankPassword behind := by
  obtain ⟨between, rest, rfl, hbetween⟩ := List.eq_append_cons_of_mem hat
  by_cases hcolon : ':' ∈ between
  · obtain ⟨name, word, rfl, hname⟩ := List.eq_append_cons_of_mem hcolon
    simp only [List.mem_append, List.mem_cons, not_or] at hbetween
    have hne : name ≠ [] := by
      rintro rfl
      exact (hfirst ':' rfl).1 rfl
    have hfree : ∀ c ∈ name, c ≠ ':' ∧ c ≠ '@' := fun c hc =>
      ⟨fun he => hname (he ▸ hc), fun he => hbetween.1 (he ▸ hc)⟩
    have hword : word = [] := Classical.byContradiction fun hword =>
      h _ rest (.password name word rest (by simp) hne hfree hword hbetween.2.2)
    exact ⟨name, rest, by simp [hword], hne, hname, hbetween.1⟩
  · have hne : between ≠ [] := by
      rintro rfl
      exact (hfirst '@' rfl).2 rfl
    have hfree : ∀ c ∈ between, c ≠ ':' ∧ c ≠ '@' := fun c hc =>
      ⟨fun he => hcolon (he ▸ hc), fun he => hbetween (he ▸ hc)⟩
    exact absurd (.user between rest rfl hne hfree) (h _ rest)

theorem BlankPassword.unnamed (h : BlankPassword behind) (i : Userinfo) : ¬ Named behind i rest := by
  obtain ⟨name, after, rfl, -, hcolon, hat⟩ := h
  intro hnamed
  generalize hwhole : name ++ ':' :: '@' :: after = behind at hnamed
  -- a user up to the at sign would have the colon in it, and a password would begin with the at sign
  cases hnamed with
  | user other rest hsplit hother hfree =>
    obtain ⟨more, rfl, hmore⟩ := separator_behind '@' name _ other rest hat (hwhole.trans hsplit)
    cases more with
    | nil => exact absurd (List.cons.inj hmore).1 (by decide)
    | cons c more =>
      obtain rfl := (List.cons.inj hmore).1
      exact (hfree ':' (by simp)).1 rfl
  | password other word rest hsplit hother hfree hword hclean =>
    have hfront : ':' ∉ other := fun hmem => (hfree _ hmem).1 rfl
    obtain ⟨-, hrest⟩ := Subscription.cut_unique ':' _ _ _ _ hcolon hfront (hwhole.trans hsplit)
    cases word with
    | nil => exact hword rfl
    | cons c word =>
      obtain rfl := (List.cons.inj hrest).1
      exact hclean List.mem_cons_self

theorem UserPart.eq_none_iff {i : Option Userinfo} (h : UserPart behind i front)
    (hhost : HostPart front host rest) : i = none ↔ '@' ∉ behind ∨ BlankPassword behind := by
  cases h with
  | given i rest h =>
    obtain ⟨between, hsplit, -⟩ := h.cut
    simp only [reduceCtorEq, false_iff, not_or]
    exact ⟨by simp [hsplit], fun hblank => hblank.unnamed i h⟩
  | absent h =>
    refine ⟨fun _ => ?_, fun _ => rfl⟩
    by_cases hat : '@' ∈ behind
    · exact Or.inr (blankPassword_of_unnamed hhost.first h hat)
    · exact Or.inl hat

/-! ## Whole addresses -/

theorem resourceOf?_eq_none_iff (text : String) (u : Uri) (h : parse text = .ok u) :
    Subscription.resourceOf? text = none ↔ u.userinfo = none := by
  simp [Subscription.resourceOf?, h, resourceKey?]

/-- The key of a resource is written in the URI that names it. -/
theorem mem_of_resourceOf? (text key : String) (h : Subscription.resourceOf? text = some key) (c : Char)
    (hc : c ∈ key.toList) : c ∈ text.toList := by
  simp only [Subscription.resourceOf?] at h
  split at h
  · next u hu =>
    simp only [resourceKey?, Option.map_eq_some_iff] at h
    obtain ⟨i, hi, rfl⟩ := h
    obtain ⟨word, behind, front, rest, -, hsplit, huser, -, -⟩ := (parse_eq_ok_iff text u).mp hu
    rw [hi] at huser
    cases huser with
    | given _ _ hnamed =>
      obtain ⟨between, hbehind, -, hcut⟩ := hnamed.cut
      have hname := (dropTag_suffix i.name.toList).subset (by simpa using hc)
      have hat := hcut.mem_name c hname
      refine mem_address text c ?_
      rw [hsplit, hbehind]
      simp [hat]
  · cases h

/-- The address of an accepted text names no user, and then no resource either, exactly if it has no at
sign or the first at sign has a user and a colon in front of it and no password between. Where it names
one, user and password are what stands between the colon of the scheme and the first at sign, cut at the
first colon there, and the host begins right behind that at sign; otherwise it begins right behind the
scheme. -/
theorem user_exact (text : String) (u : Uri) (h : parse text = .ok u) :
    ∃ word behind, address text = word ++ ':' :: behind ∧
      word.map Char.toLower = u.scheme.name.toList ∧
      (u.userinfo = none ↔ '@' ∉ address text ∨ BlankPassword behind) ∧
      (Subscription.resourceOf? text = none ↔ '@' ∉ address text ∨ BlankPassword behind) ∧
      (∀ i, u.userinfo = some i → ∃ between front rest, behind = between ++ '@' :: front ∧
        '@' ∉ between ∧ Userinfo.Cut between i ∧ HostPart front u.host.toList rest) ∧
      (u.userinfo = none → ∃ rest, HostPart behind u.host.toList rest) := by
  obtain ⟨word, behind, front, rest, hscheme, hsplit, huser, hhost, -⟩ := (parse_eq_ok_iff text u).mp h
  have hword : '@' ∉ word := by
    intro hmem
    have hlower : '@' ∈ u.scheme.name.toList := hscheme ▸ List.mem_map_of_mem hmem
    cases hs : u.scheme <;> simp [hs, Scheme.name] at hlower
  have hat : '@' ∈ address text ↔ '@' ∈ behind := by simp [hsplit, hword]
  have hnone : u.userinfo = none ↔ '@' ∉ address text ∨ BlankPassword behind := by
    rw [huser.eq_none_iff hhost, hat]
  refine ⟨word, behind, hsplit, hscheme, hnone, (resourceOf?_eq_none_iff text u h).trans hnone, ?_, ?_⟩
  · intro i hi
    rw [hi] at huser
    cases huser with
    | given i front hnamed =>
      obtain ⟨between, hbehind, hbetween, hcut⟩ := hnamed.cut
      exact ⟨between, front, rest, hbehind, hbetween, hcut, hhost⟩
  · intro hi
    rw [hi] at huser
    cases huser with
    | absent => exact ⟨rest, hhost⟩

/-- A password with a colon in it, and an at sign behind the host. -/
theorem user_exact_password :
    let u : Uri := ⟨.sip, some ⟨"vm-1", some "x:y"⟩, "pbx", none⟩
    parse "<sip:vm-1:x:y@pbx;via=a@b>" = .ok u ∧
      Subscription.resourceOf? "<sip:vm-1:x:y@pbx;via=a@b>" ≠ none ∧
      ∃ between front rest, '@' ∉ between ∧ Userinfo.Cut between ⟨"vm-1", some "x:y"⟩ ∧
        HostPart front "pbx".toList rest := by
  intro u
  have hparse : parse "<sip:vm-1:x:y@pbx;via=a@b>" = .ok u := by decide +kernel
  obtain ⟨word, behind, hsplit, hscheme, hnone, hresource, hgiven, -⟩ := user_exact _ u hparse
  have hnamed : ¬ ('@' ∉ address "<sip:vm-1:x:y@pbx;via=a@b>" ∨ BlankPassword behind) :=
    fun hblank => Option.some_ne_none _ (hnone.mpr hblank)
  obtain ⟨between, front, rest, -, hbetween, hcut, hhost⟩ := hgiven _ rfl
  exact ⟨hparse, fun h => hnamed (hresource.mp h), between, front, rest, hbetween, hcut, hhost⟩

/-- With a colon and no password, the user is read as the host. -/
theorem user_taken_for_host :
    parse "sip:100:@pbx" = .ok ⟨.sip, none, "100", none⟩ ∧ '@' ∈ address "sip:100:@pbx" ∧
      Subscription.resourceOf? "sip:100:@pbx" = none := by
  refine ⟨by decide +kernel, by decide +kernel, by decide +kernel⟩

end SipNotifier.Uri
