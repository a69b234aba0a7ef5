import SipNotifier.Subscription

/-! Registries: the subscriptions of one package under their index keys, in the order in which the
keys came in. Main statements: what each operation does to a look-up and to the list of keys. -/
namespace SipNotifier
set_option autoImplicit false

structure Registry where
  package : Package
  entries : List Subscription := []
  deriving DecidableEq, Repr

namespace Registry

def keys (r : Registry) : List String := r.entries.map Subscription.indexKey

def get? (r : Registry) (key : String) : Option Subscription :=
  r.entries.find? fun s => s.indexKey == key

/-- Stores a subscription in the place of the entry under its key, or at the end. -/
def upsert (r : Registry) (s : Subscription) : Registry :=
  match r.get? s.indexKey with
  | some _ =>
    { r with entries := r.entries.map fun e => if e.indexKey = s.indexKey then s else e }
  | none => { r with entries := r.entries ++ [s] }

def erase (r : Registry) (key : String) : Registry :=
  { r with entries := r.entries.filter fun s => s.indexKey != key }

/-- Lets every entry take one step, in order, and collects what is sent. -/
def forEach (r : Registry) (step : Subscription → Subscription × Option Notify) :
    Registry × List Notify :=
  ({ r with entries := r.entries.map fun s => (step s).1 }, r.entries.filterMap fun s => (step s).2)

/-- The entry watches the resource; the empty key names none. -/
def watches (key : String) (s : Subscription) : Bool := !key.isEmpty && s.resourceKey == key

def watchers (r : Registry) (key : String) : Nat := r.entries.countP (watches key)

/-- Renders every watcher of a resource. -/
def update (r : Registry) (key : String) (change : Subscription.Change)
    (mail : String → Mailbox.Counts) : Registry × List Notify :=
  r.forEach fun s => if watches key s then s.render change mail else (s, none)

/-- Sends every body that waits. -/
def flush (r : Registry) : Registry × List Notify := r.forEach Subscription.flush

/-- Drops the expired entries, each with its last NOTIFY. -/
def sweep (r : Registry) (now : Int) : Registry × List Notify :=
  ({ r with entries := r.entries.filter fun s => !s.isExpired now },
    (r.entries.filter fun s => s.isExpired now).filterMap fun s => s.expire.2)

/-- The key of an entry and the time it has left. -/
def line (now : Int) (s : Subscription) : Except Seconds.Overflow String :=
  (s.remaining now).map fun left => s.indexKey ++ " expires in " ++ Int.repr left ++ "\r\n"

/-- One line for each entry. -/
def listing (r : Registry) (now : Int) : Except Seconds.Overflow String :=
  (r.entries.mapM (line now)).map String.join

/-! ## Look-ups -/

/-- Replacing the entries under a key leaves what stands under other keys. -/
theorem find?_replaced (es : List Subscription) (s : Subscription) (key : String) :
    (es.map fun e => if e.indexKey = s.indexKey then s else e).find? (fun e => e.indexKey == key) =
      if key = s.indexKey then (es.find? fun e => e.indexKey == s.indexKey).map fun _ => s
      else es.find? fun e => e.indexKey == key := by
  induction es with
  | nil => simp
  | cons e es ih =>
    by_cases hk : key = s.indexKey
    · subst hk
      by_cases he : e.indexKey = s.indexKey
      · simp [he]
      · simpa [he] using ih
    · by_cases he : e.indexKey = s.indexKey
      · simpa [he, hk, Ne.symm hk] using ih
      · by_cases hek : e.indexKey = key
        · simp [hek, hk]
        · simpa [he, hek, hk] using ih

theorem get?_upsert (r : Registry) (s : Subscription) (key : String) :
    (r.upsert s).get? key = if key = s.indexKey then some s else r.get? key := by
  simp only [upsert]
  split
  · next found h =>
    simp only [get?] at h ⊢
    rw [find?_replaced, h]
    rfl
  · next h =>
    simp only [get?, List.find?_append] at h ⊢
    by_cases hk : key = s.indexKey
    · subst hk
      simp [h]
    · have hb : (s.indexKey == key) = false := by simpa using Ne.symm hk
      simp [hb, hk]

theorem get?_erase (r : Registry) (key other : String) :
    (r.erase key).get? other = if other = key then none else r.get? other := by
  simp only [get?, erase, List.find?_filter]
  split
  · next h =>
    subst h
    simp
  · next h =>
    congr 1
    funext e
    by_cases he : e.indexKey = other
    · simp [he, h]
    · simp [he]

/-! ## The keys -/

theorem keys_forEach (r : Registry) (step : Subscription → Subscription × Option Notify)
    (h : ∀ s, (step s).1.indexKey = s.indexKey) : (r.forEach step).1.keys = r.keys := by
  simp [keys, forEach, Function.comp_def, h]

theorem keys_update (r : Registry) (key : String) (change : Subscription.Change)
    (mail : String → Mailbox.Counts) : (r.update key change mail).1.keys = r.keys := by
  apply keys_forEach
  intro s
  split
  · exact s.render_indexKey change mail
  · rfl

theorem keys_flush (r : Registry) : r.flush.1.keys = r.keys :=
  keys_forEach r _ Subscription.flush_indexKey

theorem keys_upsert (r : Registry) (s : Subscription) :
    (r.upsert s).keys = if s.indexKey ∈ r.keys then r.keys else r.keys ++ [s.indexKey] := by
  simp only [upsert]
  split
  · next found h =>
    have hm := List.mem_of_find?_eq_some h
    have hk := List.find?_some h
    rw [beq_iff_eq] at hk
    have hin : s.indexKey ∈ r.keys := hk ▸ List.mem_map_of_mem hm
    rw [if_pos hin]
    simp only [keys, List.map_map]
    apply List.map_congr_left
    intro e _
    simp only [Function.comp_apply]
    split
    · next he => exact he.symm
    · rfl
  · next h =>
    have hout : s.indexKey ∉ r.keys := by
      simp only [get?, List.find?_eq_none, beq_iff_eq] at h
      simpa [keys] using h
    rw [if_neg hout]
    simp [keys]

theorem keys_erase (r : Registry) (key : String) :
    (r.erase key).keys = r.keys.filter (· != key) := by
  simp [keys, erase, List.filter_map, Function.comp_def]

end Registry
end SipNotifier
