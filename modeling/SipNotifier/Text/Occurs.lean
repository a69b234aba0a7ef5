/-! Whether a word stands somewhere in a text. Main statement: it does exactly when the text splits
around it. -/
namespace SipNotifier.Text
set_option autoImplicit false

def occurs (word : List Char) : List Char → Bool
  | [] => word.isEmpty
  | c :: cs => word.isPrefixOf (c :: cs) || occurs word cs

theorem occurs_iff (word cs : List Char) :
    occurs word cs = true ↔ ∃ before after, cs = before ++ word ++ after := by
  induction cs with
  | nil => simp [occurs, List.isEmpty_iff]
  | cons c cs ih =>
    simp only [occurs, Bool.or_eq_true, List.isPrefixOf_iff_prefix, ih]
    constructor
    · rintro (⟨after, h⟩ | ⟨before, after, h⟩)
      · exact ⟨[], after, h.symm⟩
      · exact ⟨c :: before, after, by simp [h]⟩
    · rintro ⟨before, after, h⟩
      cases before with
      | nil => exact Or.inl ⟨after, h.symm⟩
      | cons b before =>
        simp only [List.cons_append, List.cons.injEq] at h
        exact Or.inr ⟨before, after, h.2⟩

end SipNotifier.Text
