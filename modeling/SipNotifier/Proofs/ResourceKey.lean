import SipNotifier.Subscription

/-! Resource keys and index keys. A resource key is never empty and holds neither a colon nor an at
sign, because the user part it is cut from is read up to the first of these. A colon can therefore
close it off inside an index key, and the port behind the last colon closes off the host: two index
keys that are equal have the same four parts. A NOTIFY names the index key of its subscription. -/
namespace SipNotifier
set_option autoImplicit false

/-! ## The user part -/

namespace Uri

theorem dropTag_suffix (user : List Char) : dropTag user <:+ user := by
  simp only [dropTag]
  split
  · next d c rest h =>
    split
    · have hs : (d :: c :: rest) <:+ user := h ▸ List.dropWhile_suffix _
      exact (List.suffix_cons d (c :: rest)).trans hs
    · exact List.suffix_refl user
  · exact List.suffix_refl user

theorem dropTag_ne_nil (user : List Char) (h : user ≠ []) : dropTag user ≠ [] := by
  simp only [dropTag]
  split
  · split
    · exact List.cons_ne_nil _ _
    · exact h
  · exact h

theorem Userinfo.read_name (cs rest : List Char) (i : Userinfo)
    (h : Userinfo.read cs = some (i, rest)) :
    i.name.toList = cs.takeWhile (fun c => c != ':' && c != '@') ∧ i.name.toList ≠ [] := by
  simp only [Userinfo.read] at h
  split at h
  · simp at h
  · next hne =>
    have hname : cs.takeWhile (fun c => c != ':' && c != '@') ≠ [] := by
      simpa [List.isEmpty_iff] using hne
    split at h
    · simp only [Option.some.injEq, Prod.mk.injEq] at h
      obtain ⟨rfl, rfl⟩ := h
      exact ⟨String.toList_ofList, by rwa [String.toList_ofList]⟩
    · split at h
      · split at h
        · simp at h
        · simp only [Option.some.injEq, Prod.mk.injEq] at h
          obtain ⟨rfl, rfl⟩ := h
          exact ⟨String.toList_ofList, by rwa [String.toList_ofList]⟩
      · simp at h
    · simp at h

theorem read?_userinfo (cs : List Char) (u : Uri) (i : Userinfo) (h : read? cs = some u)
    (hi : u.userinfo = some i) : ∃ front rest, Userinfo.read front = some (i, rest) := by
  simp only [read?, Option.bind_eq_bind, Option.bind_eq_some_iff] at h
  obtain ⟨⟨scheme, behind⟩, -, ⟨host, rest⟩, -, hu⟩ := h
  simp only [Option.pure_def, Option.some.injEq] at hu
  subst hu
  simp only at hi
  split at hi
  · next j after hj =>
    simp only [Option.some.injEq] at hi
    exact ⟨behind, after, hi ▸ hj⟩
  · simp at hi

end Uri

/-! ## Resource keys -/

/-- What every key of a resource is like. -/
structure IsResourceKey (key : String) : Prop where
  nonempty : key ≠ ""
  no_colon : ':' ∉ key.toList
  no_at : '@' ∉ key.toList

theorem isResourceKey_of_user (user : List Char) (cs : List Char)
    (h : user = cs.takeWhile (fun c => c != ':' && c != '@')) (hne : user ≠ []) :
    IsResourceKey (String.ofList (Uri.dropTag user)) := by
  have hmem : ∀ c ∈ Uri.dropTag user, c ≠ ':' ∧ c ≠ '@' := by
    intro c hc
    have hu : c ∈ user := (Uri.dropTag_suffix user).subset hc
    rw [h] at hu
    have hall := List.all_eq_true.mp (List.all_takeWhile (l := cs)) c hu
    simpa using hall
  constructor
  · intro he
    have hl := congrArg String.toList he
    rw [String.toList_ofList] at hl
    exact Uri.dropTag_ne_nil user hne (by simpa using hl)
  · rw [String.toList_ofList]
    intro hc
    exact (hmem _ hc).1 rfl
  · rw [String.toList_ofList]
    intro hc
    exact (hmem _ hc).2 rfl

namespace Subscription

theorem isResourceKey_of_resourceOf? (uri key : String) (h : resourceOf? uri = some key) :
    IsResourceKey key := by
  simp only [resourceOf?] at h
  split at h
  · next u hu =>
    simp only [Uri.parse] at hu
    split at hu
    · next v hv =>
      simp only [Except.ok.injEq] at hu
      subst hu
      simp only [Uri.resourceKey?, Option.map_eq_some_iff] at h
      obtain ⟨i, hi, rfl⟩ := h
      obtain ⟨front, rest, hr⟩ := Uri.read?_userinfo _ _ _ hv hi
      obtain ⟨hname, hne⟩ := Uri.Userinfo.read_name _ _ _ hr
      exact isResourceKey_of_user _ _ hname hne
    · simp at hu
  · simp at h

/-! ## Index keys -/

theorem toList_keyOf (p : Package) (resource host : String) (port : UInt16) :
    (keyOf p resource host port).toList = p.name.toList ++ ':' :: (resource.toList ++
      ':' :: (host.toList ++ ':' :: (Nat.repr port.toNat).toList)) := by
  simp [keyOf, String.toList_append]

/-- A text is cut at its first separator in one way only. -/
theorem cut_unique (c : Char) (a b x y : List Char) (ha : c ∉ a) (hb : c ∉ b)
    (h : a ++ c :: x = b ++ c :: y) : a = b ∧ x = y := by
  induction a generalizing b with
  | nil =>
    cases b with
    | nil => simpa using h
    | cons d b =>
      simp only [List.nil_append, List.cons_append, List.cons.injEq] at h
      exact absurd (h.1 ▸ List.mem_cons_self) hb
  | cons e a ih =>
    cases b with
    | nil =>
      simp only [List.nil_append, List.cons_append, List.cons.injEq] at h
      exact absurd (h.1 ▸ List.mem_cons_self) ha
    | cons d b =>
      simp only [List.cons_append, List.cons.injEq] at h
      simp only [List.mem_cons, not_or] at ha hb
      obtain ⟨hab, hxy⟩ := ih b ha.2 hb.2 h.2
      exact ⟨by rw [h.1, hab], hxy⟩

theorem colon_notMem_name (p : Package) : ':' ∉ p.name.toList := by
  cases p <;> decide

theorem keyOf_package (p q : Package) (r s host place : String) (m n : UInt16)
    (h : keyOf p r host m = keyOf q s place n) : p = q := by
  have hl := congrArg String.toList h
  rw [toList_keyOf, toList_keyOf] at hl
  obtain ⟨hpq, -⟩ := cut_unique ':' _ _ _ _ (colon_notMem_name p) (colon_notMem_name q) hl
  exact Package.name_injective p q (String.toList_inj.mp hpq)

theorem keyOf_resource (p q : Package) (r s host place : String) (m n : UInt16)
    (hr : ':' ∉ r.toList) (hs : ':' ∉ s.toList) (h : keyOf p r host m = keyOf q s place n) :
    r = s := by
  have hl := congrArg String.toList h
  rw [toList_keyOf, toList_keyOf] at hl
  obtain ⟨-, hrest⟩ := cut_unique ':' _ _ _ _ (colon_notMem_name p) (colon_notMem_name q) hl
  obtain ⟨hrs, -⟩ := cut_unique ':' _ _ _ _ hr hs hrest
  exact String.toList_inj.mp hrs

/-! The port is the last field and holds no colon either, so the last colon closes off the host,
whatever stands in it. -/

theorem cut_unique_last (c : Char) (a b x y : List Char) (hx : c ∉ x) (hy : c ∉ y)
    (h : a ++ c :: x = b ++ c :: y) : a = b ∧ x = y := by
  have hrev := congrArg List.reverse h
  simp only [List.reverse_append, List.reverse_cons, List.append_assoc,
    List.singleton_append] at hrev
  obtain ⟨hxy, hab⟩ := cut_unique c _ _ _ _ (by simpa using hx) (by simpa using hy) hrev
  exact ⟨List.reverse_inj.mp hab, List.reverse_inj.mp hxy⟩

theorem colon_notMem_repr (n : Nat) : ':' ∉ (Nat.repr n).toList := by
  intro h
  rw [Nat.repr_eq_ofList_toDigits, String.toList_ofList] at h
  have hdigit := Nat.isDigit_of_mem_toDigits (by decide) (by decide) h
  exact absurd hdigit (by decide)

theorem repr_inj (m n : Nat) (h : Nat.repr m = Nat.repr n) : m = n := by
  have hdigits := congrArg String.toList h
  rw [Nat.repr_eq_ofList_toDigits, Nat.repr_eq_ofList_toDigits, String.toList_ofList,
    String.toList_ofList] at hdigits
  calc m = Nat.ofDigitChars 10 (Nat.toDigits 10 m) 0 := Nat.ofDigitChars_ten_toDigits.symm
    _ = Nat.ofDigitChars 10 (Nat.toDigits 10 n) 0 := by rw [hdigits]
    _ = n := Nat.ofDigitChars_ten_toDigits

theorem keyOf_inj (p q : Package) (r s host place : String) (m n : UInt16)
    (hr : ':' ∉ r.toList) (hs : ':' ∉ s.toList) :
    keyOf p r host m = keyOf q s place n ↔ p = q ∧ r = s ∧ host = place ∧ m = n := by
  constructor
  · intro h
    have hpq := keyOf_package p q r s host place m n h
    have hrs := keyOf_resource p q r s host place m n hr hs h
    subst hpq hrs
    have hl := congrArg String.toList h
    rw [toList_keyOf, toList_keyOf, List.append_cancel_left_eq, List.cons.injEq,
      List.append_cancel_left_eq, List.cons.injEq] at hl
    obtain ⟨hhost, hport⟩ :=
      cut_unique_last ':' _ _ _ _ (colon_notMem_repr _) (colon_notMem_repr _) hl.2.2
    have hnum := repr_inj _ _ (String.toList_inj.mp hport)
    exact ⟨rfl, rfl, String.toList_inj.mp hhost, UInt16.toNat_inj.mp hnum⟩
  · rintro ⟨rfl, rfl, rfl, rfl⟩
    rfl

/-- The key has the form of the package's keys. -/
def IsKeyOf (p : Package) (key : String) : Prop :=
  ∃ resource host port, key = keyOf p resource host port

theorem isKeyOf_indexKey (s : Subscription) : IsKeyOf s.package s.indexKey :=
  ⟨s.resourceKey, s.host, s.port, rfl⟩

theorem IsKeyOf.package (p : Package) (key : String) (s : Subscription) (h : IsKeyOf p key)
    (hs : s.indexKey = key) : s.package = p := by
  obtain ⟨resource, host, port, rfl⟩ := h
  exact keyOf_package _ _ _ _ _ _ _ _ hs

end Subscription

/-! ## The subscription that a NOTIFY is for -/

namespace Notify

/-- The request URI, which the contact holds in angle brackets. -/
def entity (n : Notify) : String := String.ofList (n.contact.toList.drop 1).dropLast

/-- The index key of the subscription that the NOTIFY was made for: its fields name all four
parts. -/
def key? (n : Notify) : Option String :=
  (Subscription.resourceOf? n.entity).map fun resource =>
    n.event ++ ":" ++ resource ++ ":" ++ n.host ++ ":" ++ Nat.repr n.port.toNat

def isFor (key : String) (n : Notify) : Bool := n.key? == some key

end Notify

theorem Subscription.entity_record (s : Subscription) : s.record.entity = s.requestUri := by
  simp [Notify.entity, record, String.toList_append]

theorem Subscription.key?_record (s : Subscription)
    (h : resourceOf? s.requestUri = some s.resourceKey) : s.record.key? = some s.indexKey := by
  rw [Notify.key?, entity_record, h]
  rfl

end SipNotifier
