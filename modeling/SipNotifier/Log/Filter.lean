import SipNotifier.Log.Directive

/-! Log filters. A filter is a list of directives, and the most specific one that covers a record
decides whether it is shown (`shows_decided`). -/
namespace SipNotifier.Log
set_option autoImplicit false

structure Filter where
  directives : List Directive
  deriving DecidableEq, Repr

namespace Filter

/-- The filter that shows a level and those above it. -/
def upTo (level : Level) : Filter := ⟨[{ threshold := .upTo level }]⟩

/-- Reads the directives between commas, of which empty ones do not count. Without any, errors are
shown. -/
def parse? (text : String) : Option Filter :=
  let pieces := (Text.split ',' text.toList).filter fun piece => !piece.isEmpty
  match pieces.mapM Directive.parse? with
  | none => none
  | some [] => some (upTo .error)
  | some directives => some ⟨directives⟩

/-! ## Deciding -/

/-- The most specific of the directives that cover a record. Of two that are alike, the later one
counts. -/
def decisive? (r : Record) : List Directive → Option Directive
  | [] => none
  | d :: ds =>
    match decisive? r ds with
    | none => if d.covers r then some d else none
    | some e => if d.covers r && d.moreSpecific e then some d else some e

def shows (f : Filter) (r : Record) : Bool :=
  match decisive? r f.directives with
  | none => false
  | some d => d.threshold.shows r.level

/-! ## What decides -/

theorem decisive?_mem (r : Record) (ds : List Directive) (d : Directive)
    (h : decisive? r ds = some d) : d ∈ ds ∧ d.covers r = true := by
  induction ds with
  | nil => simp [decisive?] at h
  | cons e es ih =>
    simp only [decisive?] at h
    split at h
    · split at h
      · next hc =>
        simp only [Option.some.injEq] at h
        subst h
        exact ⟨List.mem_cons_self, hc⟩
      · simp at h
    · next later hl =>
      split at h
      · next hc =>
        simp only [Option.some.injEq] at h
        subst h
        simp only [Bool.and_eq_true] at hc
        exact ⟨List.mem_cons_self, hc.1⟩
      · simp only [Option.some.injEq] at h
        subst h
        have hi := ih hl
        exact ⟨List.mem_cons_of_mem _ hi.1, hi.2⟩

theorem decisive?_eq_none_iff (r : Record) (ds : List Directive) :
    decisive? r ds = none ↔ ∀ d ∈ ds, d.covers r = false := by
  induction ds with
  | nil => simp [decisive?]
  | cons e es ih =>
    simp only [decisive?, List.mem_cons, forall_eq_or_imp]
    split
    · next hl =>
      have hes := ih.1 hl
      cases he : e.covers r
      · simpa using hes
      · simp
    · next later hl =>
      have hne : ¬ ∀ d ∈ es, d.covers r = false := fun hes => by simp [ih.2 hes] at hl
      split <;> simp [hne]

theorem moreSpecific_decisive? (r : Record) (ds : List Directive) (d e : Directive)
    (h : decisive? r ds = some d) (he : e ∈ ds) (hc : e.covers r = true) :
    e.moreSpecific d = false := by
  induction ds generalizing d with
  | nil => simp at he
  | cons f fs ih =>
    simp only [decisive?] at h
    split at h
    · next hl =>
      split at h
      · simp only [Option.some.injEq] at h
        subst h
        rcases List.mem_cons.1 he with rfl | he
        · exact e.moreSpecific_irrefl
        · simp [(decisive?_eq_none_iff r fs).1 hl e he] at hc
      · simp at h
    · next later hl =>
      split at h
      · next hf =>
        simp only [Option.some.injEq] at h
        subst h
        simp only [Bool.and_eq_true] at hf
        rcases List.mem_cons.1 he with rfl | he
        · exact e.moreSpecific_irrefl
        · have hi := ih later hl he
          cases hn : e.moreSpecific f with
          | false => rfl
          | true => simp [e.moreSpecific_trans f later hn hf.2] at hi
      · next hf =>
        simp only [Option.some.injEq] at h
        subst h
        rcases List.mem_cons.1 he with rfl | he
        · simpa [hc] using hf
        · exact ih later hl he

/-- A directive that covers the record, and that no other such directive is more specific than,
decides whether the record is shown. Where none covers it, it is not. -/
theorem shows_decided (f : Filter) (r : Record) :
    (∃ d ∈ f.directives, d.covers r = true ∧
      (∀ e ∈ f.directives, e.covers r = true → e.moreSpecific d = false) ∧
      f.shows r = d.threshold.shows r.level) ∨
    ((∀ d ∈ f.directives, d.covers r = false) ∧ f.shows r = false) := by
  cases h : decisive? r f.directives with
  | none =>
    have hnone := (decisive?_eq_none_iff r f.directives).mp h
    exact Or.inr ⟨hnone, by simp [shows, h]⟩
  | some d =>
    obtain ⟨hmem, hcovers⟩ := decisive?_mem r f.directives d h
    have hmost := moreSpecific_decisive? r f.directives d
    exact Or.inl ⟨d, hmem, hcovers, fun e he hc => hmost e h he hc, by simp [shows, h]⟩

end Filter
end SipNotifier.Log
