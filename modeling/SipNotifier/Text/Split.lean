/-! Texts cut at a separator. Main statements: the pieces with the separator between them are the
text, and the first piece ends where the separator first stands. -/
namespace SipNotifier.Text
set_option autoImplicit false

/-- The pieces between the separators, the empty ones among them. -/
def split (separator : Char) : List Char → List (List Char)
  | [] => [[]]
  | c :: cs =>
    if c = separator then [] :: split separator cs
    else match split separator cs with
      | [] => [[c]]
      | piece :: pieces => (c :: piece) :: pieces

theorem split_ne_nil (separator : Char) (cs : List Char) : split separator cs ≠ [] := by
  cases cs with
  | nil => simp [split]
  | cons c cs =>
    simp only [split]
    split
    · simp
    · split <;> simp

theorem intercalate_split (separator : Char) (cs : List Char) :
    List.intercalate [separator] (split separator cs) = cs := by
  induction cs with
  | nil => rfl
  | cons c cs ih =>
    simp only [split]
    split
    · next hc =>
      cases hs : split separator cs with
      | nil => exact absurd hs (split_ne_nil separator cs)
      | cons piece pieces =>
        rw [hs] at ih
        simp [List.intercalate, List.intersperse, hc] at ih ⊢
        exact ih
    · cases hs : split separator cs with
      | nil => exact absurd hs (split_ne_nil separator cs)
      | cons piece pieces =>
        rw [hs] at ih
        cases pieces with
        | nil => simpa [List.intercalate] using ih
        | cons next pieces => simpa [List.intercalate] using ih

theorem split_of_notMem (separator : Char) (cs : List Char) (h : separator ∉ cs) :
    split separator cs = [cs] := by
  induction cs with
  | nil => rfl
  | cons c cs ih =>
    simp only [List.mem_cons, not_or] at h
    rw [split, if_neg (Ne.symm h.1), ih h.2]

theorem split_append_cons (separator : Char) (cs rest : List Char) (h : separator ∉ cs) :
    split separator (cs ++ separator :: rest) = cs :: split separator rest := by
  induction cs with
  | nil => rw [List.nil_append, split, if_pos rfl]
  | cons c cs ih =>
    simp only [List.mem_cons, not_or] at h
    rw [List.cons_append, split, if_neg (Ne.symm h.1), ih h.2]

theorem split_pieces (separator : Char) (front : List Char) (pieces : List (List Char))
    (hf : separator ∉ front) (h : ∀ piece ∈ pieces, separator ∉ piece) :
    split separator (front ++ pieces.flatMap (separator :: ·)) = front :: pieces := by
  induction pieces generalizing front with
  | nil => simp [split_of_notMem _ _ hf]
  | cons piece pieces ih =>
    have hrest := ih piece (h piece List.mem_cons_self) fun p hp => h p (List.mem_cons_of_mem _ hp)
    rw [List.flatMap_cons, List.cons_append, split_append_cons _ _ _ hf, hrest]

/-! ## One separator among two parts -/

/-- A separator that is not in the front stands in the rest. -/
theorem separator_behind (c : Char) (front rest before after : List Char) (hc : c ∉ front)
    (h : front ++ rest = before ++ c :: after) :
    ∃ more, before = front ++ more ∧ rest = more ++ c :: after := by
  rcases List.append_eq_append_iff.mp h with ⟨more, hbefore, hrest⟩ | ⟨more, hfront, hafter⟩
  · exact ⟨more, hbefore, hrest⟩
  · cases more with
    | nil => exact ⟨[], by simpa using hfront.symm, by simpa using hafter.symm⟩
    | cons d more =>
      rw [List.cons_append, List.cons.injEq] at hafter
      simp [hfront, hafter.1] at hc

theorem separator_in_front (c : Char) (front rest before after : List Char) (hc : c ∉ rest)
    (h : front ++ rest = before ++ c :: after) :
    ∃ more, front = before ++ c :: more ∧ after = more ++ rest := by
  rcases List.append_eq_append_iff.mp h with ⟨more, -, hrest⟩ | ⟨more, hfront, hafter⟩
  · exact absurd (hrest ▸ List.mem_append_right more List.mem_cons_self) hc
  · cases more with
    | nil =>
      rw [List.nil_append] at hafter
      exact absurd (hafter ▸ List.mem_cons_self) hc
    | cons d more =>
      rw [List.cons_append, List.cons.injEq] at hafter
      exact ⟨more, hafter.1 ▸ hfront, hafter.2⟩

/-! ## Runs -/

/-- A run of characters ends where the first stands that is none of them. -/
theorem takeWhile_append_stop (p : Char → Bool) (word rest : List Char) (hw : ∀ c ∈ word, p c = true)
    (hr : ∀ c ∈ rest.head?, p c = false) :
    (word ++ rest).takeWhile p = word ∧ (word ++ rest).dropWhile p = rest := by
  rw [List.takeWhile_append_of_pos hw, List.dropWhile_append_of_pos hw]
  cases rest with
  | nil => simp
  | cons c rest =>
    have hc : p c = false := hr c rfl
    simp [hc]

theorem takeWhile_append_of_stop (p : Char → Bool) (front tail : List Char)
    (h : ∀ c ∈ tail.head?, p c = false) : (front ++ tail).takeWhile p = front.takeWhile p := by
  induction front with
  | nil => exact (takeWhile_append_stop p [] tail (by simp) h).1
  | cons c front ih => rw [List.cons_append, List.takeWhile_cons, List.takeWhile_cons, ih]

end SipNotifier.Text
