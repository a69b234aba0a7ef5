import SipNotifier.Proofs.Subscription.Stored
import SipNotifier.Registry

/-! Registries with one entry under each key. Every operation keeps the keys apart, and what it does
is said entry by entry: what a look-up answers afterwards, and which NOTIFYs for a key it sends. -/
namespace SipNotifier.Registry
set_option autoImplicit false

/-! ## Look-ups -/

theorem get?_eq_some_iff (r : Registry) (hn : r.keys.Nodup) (key : String) (s : Subscription) :
    r.get? key = some s ↔ s ∈ r.entries ∧ s.indexKey = key := by
  obtain ⟨package, es⟩ := r
  simp only [get?, keys] at hn ⊢
  induction es with
  | nil => simp
  | cons e es ih =>
    simp only [List.map_cons, List.nodup_cons] at hn
    by_cases he : e.indexKey = key
    · subst he
      simp only [List.find?_cons, beq_self_eq_true, Option.some.injEq, List.mem_cons]
      constructor
      · rintro rfl
        exact ⟨Or.inl rfl, rfl⟩
      · rintro ⟨rfl | hs, hk⟩
        · rfl
        · exact absurd (hk ▸ List.mem_map_of_mem hs) hn.1
    · have hb : (e.indexKey == key) = false := by simpa using he
      rw [List.find?_cons, hb]
      simp only [ih hn.2, List.mem_cons]
      constructor
      · rintro ⟨hs, hk⟩
        exact ⟨Or.inr hs, hk⟩
      · rintro ⟨rfl | hs, hk⟩
        · exact absurd hk he
        · exact ⟨hs, hk⟩

theorem get?_mem (r : Registry) (key : String) (s : Subscription) (h : r.get? key = some s) :
    s ∈ r.entries ∧ s.indexKey = key :=
  ⟨List.mem_of_find?_eq_some h, by simpa using List.find?_some h⟩

theorem get?_forEach (r : Registry) (step : Subscription → Subscription × Option Notify)
    (h : ∀ s, (step s).1.indexKey = s.indexKey) (key : String) :
    (r.forEach step).1.get? key = (r.get? key).map fun s => (step s).1 := by
  simp only [get?, forEach, List.find?_map]
  congr 2
  funext s
  simp [h]

theorem keys_sweep (r : Registry) (now : Int) : (r.sweep now).1.keys.Sublist r.keys :=
  List.filter_sublist.map Subscription.indexKey

theorem get?_sweep (r : Registry) (hn : r.keys.Nodup) (now : Int) (key : String) :
    (r.sweep now).1.get? key = (r.get? key).filter fun s => !s.isExpired now := by
  have hk : (r.sweep now).1.keys.Nodup := hn.sublist (r.keys_sweep now)
  apply Option.ext
  intro s
  rw [get?_eq_some_iff _ hk, Option.filter_eq_some_iff, get?_eq_some_iff r hn]
  simp only [sweep, List.mem_filter]
  exact and_right_comm

theorem perm_of_get? (r q : Registry) (hr : r.keys.Nodup) (hq : q.keys.Nodup)
    (h : ∀ key, r.get? key = q.get? key) : r.entries.Perm q.entries := by
  have hapart : ∀ s : Registry, s.keys.Nodup → s.entries.Nodup := fun s hs =>
    List.Pairwise.of_map Subscription.indexKey (fun _ _ hne he => hne (congrArg _ he)) hs
  rw [List.perm_ext_iff_of_nodup (hapart r hr) (hapart q hq)]
  intro s
  have hs := h s.indexKey
  constructor
  · intro hm
    have hfound := (get?_eq_some_iff r hr s.indexKey s).mpr ⟨hm, rfl⟩
    exact (get?_mem q s.indexKey s (hs ▸ hfound)).1
  · intro hm
    have hfound := (get?_eq_some_iff q hq s.indexKey s).mpr ⟨hm, rfl⟩
    exact (get?_mem r s.indexKey s (hs ▸ hfound)).1

/-! ## Facts about every entry -/

/-- The keys are apart, and every entry has the property. -/
structure Holds (P : Subscription → Prop) (r : Registry) : Prop where
  keys : r.keys.Nodup
  entries : ∀ s ∈ r.entries, P s

variable {P Q : Subscription → Prop} {r : Registry}

theorem Holds.get? (h : r.Holds P) (key : String) (s : Subscription) (hs : r.get? key = some s) :
    P s :=
  h.entries s (get?_mem r key s hs).1

theorem Holds.mono (h : r.Holds P) (hpq : ∀ s, P s → Q s) : r.Holds Q :=
  ⟨h.keys, fun s hs => hpq s (h.entries s hs)⟩

theorem Holds.upsert (h : r.Holds P) (s : Subscription) (hs : P s) : (r.upsert s).Holds P := by
  constructor
  · rw [keys_upsert]
    split
    · exact h.keys
    · next hk =>
      rw [List.nodup_append]
      refine ⟨h.keys, by simp, ?_⟩
      intro a ha b hb hab
      rw [List.mem_singleton] at hb
      exact hk (hb ▸ hab ▸ ha)
  · intro e he
    simp only [Registry.upsert] at he
    split at he
    · obtain ⟨d, hd, rfl⟩ := List.mem_map.mp he
      split
      · exact hs
      · exact h.entries d hd
    · rcases List.mem_append.mp he with he | he
      · exact h.entries e he
      · rw [List.mem_singleton] at he
        exact he ▸ hs

theorem Holds.forEach (h : r.Holds P) (step : Subscription → Subscription × Option Notify)
    (hkey : ∀ s, (step s).1.indexKey = s.indexKey) (hstep : ∀ s, P s → Q (step s).1) :
    (r.forEach step).1.Holds Q := by
  constructor
  · rw [keys_forEach r step hkey]
    exact h.keys
  · intro e he
    obtain ⟨s, hs, rfl⟩ := List.mem_map.mp he
    exact hstep s (h.entries s hs)

theorem Holds.sweep (h : r.Holds P) (now : Int) : (r.sweep now).1.Holds P where
  keys := h.keys.sublist (r.keys_sweep now)
  entries := fun s hs => h.entries s (List.mem_filter.mp hs).1

/-! ## Rendering what watches -/

/-- What an update does to one entry. -/
def refresh (resource : String) (change : Subscription.Change) (mail : String → Mailbox.Counts)
    (s : Subscription) : Subscription × Option Notify :=
  if watches resource s then s.render change mail else (s, none)

theorem update_eq_forEach (r : Registry) (resource : String) (change : Subscription.Change)
    (mail : String → Mailbox.Counts) :
    r.update resource change mail = r.forEach (refresh resource change mail) := rfl

theorem refresh_delivers (resource : String) (change : Subscription.Change)
    (mail : String → Mailbox.Counts) (s : Subscription) :
    s.Delivers (refresh resource change mail s) := by
  simp only [refresh]
  split
  · exact s.render_delivers change mail
  · exact Subscription.Delivers.idle s

theorem refresh_indexKey (resource : String) (change : Subscription.Change)
    (mail : String → Mailbox.Counts) (s : Subscription) :
    (refresh resource change mail s).1.indexKey = s.indexKey :=
  (refresh_delivers resource change mail s).indexKey

/-! ## The NOTIFYs for one key -/

theorem sweep_sent (r : Registry) (now : Int) :
    (r.sweep now).2 = r.entries.filterMap fun s => (s.checkExpiry now).2 := by
  simp only [sweep, List.filterMap_filter]
  congr 1
  funext s
  simp only [Subscription.checkExpiry]
  split <;> rfl

/-- Where every entry sends only for its own key, one entry answers for all that a key hears. -/
theorem filter_filterMap (es : List Subscription) (send : Subscription → Option Notify)
    (hn : (es.map Subscription.indexKey).Nodup)
    (hown : ∀ s ∈ es, ∀ n, send s = some n → n.key? = some s.indexKey) (key : String) :
    (es.filterMap send).filter (Notify.isFor key) =
      ((es.find? fun s => s.indexKey == key).bind send).toList := by
  induction es with
  | nil => rfl
  | cons e es ih =>
    simp only [List.map_cons, List.nodup_cons] at hn
    have hrest := ih hn.2 fun s hs => hown s (List.mem_cons_of_mem e hs)
    have hfor : ∀ n, send e = some n → Notify.isFor key n = (e.indexKey == key) := by
      intro n hs
      rw [Notify.isFor, hown e List.mem_cons_self n hs]
      rfl
    by_cases he : e.indexKey = key
    · have hnone : (es.find? fun s => s.indexKey == key) = none := by
        rw [List.find?_eq_none]
        intro s hs hk
        rw [beq_iff_eq] at hk
        exact hn.1 (he ▸ hk ▸ List.mem_map_of_mem hs)
      rw [hnone] at hrest
      cases hs : send e with
      | none => simpa [hs, he] using hrest
      | some n => simpa [hs, he, hfor n hs] using hrest
    · have hb : (e.indexKey == key) = false := by simpa using he
      cases hs : send e with
      | none => simpa [hs, hb] using hrest
      | some n => simpa [hs, hb, hfor n hs] using hrest

theorem forEach_heard (r : Registry) (step : Subscription → Subscription × Option Notify)
    (hn : r.keys.Nodup)
    (hown : ∀ s ∈ r.entries, ∀ n, (step s).2 = some n → n.key? = some s.indexKey)
    (key : String) :
    (r.forEach step).2.filter (Notify.isFor key) =
      ((r.get? key).bind fun s => (step s).2).toList :=
  filter_filterMap r.entries (fun s => (step s).2) hn hown key

end SipNotifier.Registry
