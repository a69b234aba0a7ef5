import SipNotifier.Proofs.Json.Numbers
import SipNotifier.Proofs.Json.Strings

/-! How a list of tokens may be written. There may be blanks around each token; where the tokens do not
run into one another they are what the text is cut into (`tokens_laid`). Only numbers and words can
run on: they end where a character stands that cannot continue them. -/
namespace SipNotifier.Json
set_option autoImplicit false

/-! ## Texts -/

/-- The one way to write a token that is no number and no string. -/
def Token.word? : Token → Option (List Char)
  | .openObject => some ['\x7b']
  | .closeObject => some ['\x7d']
  | .openArray => some ['[']
  | .closeArray => some [']']
  | .colon => some [':']
  | .comma => some [',']
  | .null => some "null".toList
  | .boolean true => some "true".toList
  | .boolean false => some "false".toList
  | _ => none

inductive Token.Written : Token → List Char → Prop
  | word (t : Token) (cs : List Char) (h : t.word? = some cs) : Written t cs
  | number (n : Number) (cs : List Char) (h : n.Written cs) : Written (.number n) cs
  | string (s : String) (cs : List Char) (h : StringWritten s.toList cs) :
      Written (.string s) ('"' :: (cs ++ ['"']))

/-- Blanks, or nothing. -/
def IsGap (cs : List Char) : Prop := ∀ c ∈ cs, c = ' ' ∨ c = '\n' ∨ c = '\t' ∨ c = '\r'

instance (cs : List Char) : Decidable (IsGap cs) :=
  decidable_of_iff ((cs.all fun c => decide (c = ' ' ∨ c = '\n' ∨ c = '\t' ∨ c = '\r')) = true)
    (by simp only [IsGap, List.all_eq_true, decide_eq_true_eq])

/-- The text holds the tokens in order, with gaps around them. -/
inductive Laid : List Token → List Char → Prop
  | last (gap : List Char) (h : IsGap gap) : Laid [] gap
  | next (gap : List Char) (t : Token) (word : List Char) (ts : List Token) (cs : List Char)
      (hg : IsGap gap) (ht : t.Written word) (hs : Laid ts cs) : Laid (t :: ts) (gap ++ (word ++ cs))

theorem Token.Written.wellFormed (n : Number) (word : List Char)
    (h : Token.Written (.number n) word) : n.WellFormed := by
  cases h with
  | word _ _ hw => simp [Token.word?] at hw
  | number _ _ hn => exact hn.1

theorem Laid.mem (ts : List Token) (cs : List Char) (h : Laid ts cs) (t : Token) (ht : t ∈ ts) :
    ∃ word, t.Written word := by
  induction h with
  | last gap hg => simp at ht
  | next gap u word ts cs hg hu hs ih =>
    rcases List.mem_cons.mp ht with rfl | ht
    · exact ⟨word, hu⟩
    · exact ih ht

/-! ## Where tokens end -/

/-- Whether a character ends a number or a word in front of it. -/
def isStop (c : Char) : Bool := isSpace c || (punctuation? c).isSome

def Stops (rest : List Char) : Prop := ∀ c ∈ rest.head?, isStop c = true

theorem isStop_cases (c : Char) (h : isStop c = true) :
    isNumberChar c = false ∧ c.isAlpha = false := by
  simp only [isStop, isSpace, Bool.or_eq_true, beq_iff_eq] at h
  rcases h with ((((rfl | rfl) | rfl) | rfl) | h)
  · decide
  · decide
  · decide
  · decide
  · revert h
    fun_cases punctuation? c <;> simp <;> decide

theorem not_isStop (c : Char) (h : ¬ isStop c = true) :
    isSpace c = false ∧ punctuation? c = none := by
  simpa [isStop] using h

theorem Stops.takeWhile_append (p : Char → Bool) (word rest : List Char)
    (hp : ∀ c, isStop c = true → p c = false) (hw : ∀ c ∈ word, p c = true) (h : Stops rest) :
    (word ++ rest).takeWhile p = word ∧ (word ++ rest).dropWhile p = rest :=
  Text.takeWhile_append_stop p word rest hw fun c hc => hp c (h c hc)

theorem tokens_punctuation (c : Char) (t : Token) (rest : List Char) (h : punctuation? c = some t) :
    tokens (c :: rest) = t :: tokens rest := by
  have hspace : isSpace c = false := by
    revert h
    fun_cases punctuation? c <;> simp [isSpace]
  rw [tokens, if_neg (by simp [hspace])]
  simp [nextToken, h]

theorem tokens_string (s : String) (cs rest : List Char) (h : StringWritten s.toList cs) :
    tokens ('"' :: (cs ++ '"' :: rest)) = .string s :: tokens rest := by
  have hread := readString_written s.toList cs rest h
  rw [tokens, if_neg (by decide)]
  simp [nextToken, punctuation?, hread]

theorem isNumberChar_first (c : Char) (h : isNumberChar c = true) :
    isSpace c = false ∧ punctuation? c = none ∧ c ≠ '"' := by
  obtain ⟨hspace, hpunctuation⟩ := not_isStop c fun hs => by simp [(isStop_cases c hs).1] at h
  exact ⟨hspace, hpunctuation, fun hc => by simp [hc, isNumberChar] at h⟩

theorem tokens_number (n : Number) (cs rest : List Char) (h : n.Written cs) (hr : Stops rest) :
    tokens (cs ++ rest) = .number n :: tokens rest := by
  obtain ⟨hchars, hne, hread⟩ := h.reads
  obtain ⟨c, ds, rfl⟩ := List.exists_cons_of_ne_nil hne
  obtain ⟨htake, hdrop⟩ := Stops.takeWhile_append isNumberChar ds rest
    (fun d hd => (isStop_cases d hd).1) (fun d hd => hchars d (List.mem_cons_of_mem _ hd)) hr
  have hc := hchars c List.mem_cons_self
  obtain ⟨hspace, hpunctuation, hquote⟩ := isNumberChar_first c hc
  rw [List.cons_append, tokens, if_neg (by simp [hspace])]
  simp [nextToken, hpunctuation, hquote, hc, htake, hdrop, hread]

theorem tokens_word (c : Char) (word rest : List Char) (hc : c.isAlpha = true)
    (hw : word.all Char.isAlpha = true) (hn : isNumberChar c = false) (hr : Stops rest) :
    tokens (c :: word ++ rest) = readWord (c :: word) :: tokens rest := by
  obtain ⟨htake, hdrop⟩ := Stops.takeWhile_append Char.isAlpha word rest
    (fun d hd => (isStop_cases d hd).2) (List.all_eq_true.mp hw) hr
  obtain ⟨hspace, hpunctuation⟩ := not_isStop c fun hs => by simp [(isStop_cases c hs).2] at hc
  have hquote : c ≠ '"' := fun he => by simp [he] at hc
  rw [List.cons_append, tokens, if_neg (by simp [hspace])]
  simp [nextToken, hpunctuation, hquote, hn, htake, hdrop]

/-! ## Cutting a text -/

/-- Nothing in the token says where it ends. -/
def Token.isBare : Token → Bool
  | .null | .boolean _ | .number _ => true
  | _ => false

def Token.isMark : Token → Bool
  | .openObject | .closeObject | .openArray | .closeArray | .colon | .comma => true
  | _ => false

/-- Behind a bare token there is a mark or nothing. -/
def Apart : List Token → Prop
  | [] => True
  | t :: ts => (t.isBare = true → ∀ u ∈ ts.head?, u.isMark = true) ∧ Apart ts

theorem isSpace_of_isGap (gap : List Char) (h : IsGap gap) : ∀ c ∈ gap, isSpace c = true := by
  intro c hc
  rcases h c hc with rfl | rfl | rfl | rfl <;> rfl

theorem stops_cons (c : Char) (rest : List Char) (h : isStop c = true) : Stops (c :: rest) := by
  intro d hd
  simp only [List.head?_cons, Option.mem_def, Option.some.injEq] at hd
  exact hd ▸ h

theorem stops_gap (gap cs : List Char) (h : IsGap gap) (hcs : Stops cs) : Stops (gap ++ cs) := by
  cases gap with
  | nil => exact hcs
  | cons c gap =>
    refine stops_cons c _ ?_
    rw [isStop, isSpace_of_isGap _ h c List.mem_cons_self, Bool.true_or]

theorem stops_mark (t : Token) (word cs : List Char) (ht : t.Written word) (hm : t.isMark = true) :
    Stops (word ++ cs) := by
  cases ht with
  | word _ _ h =>
    cases t <;> simp only [Token.isMark, reduceCtorEq] at hm <;>
      simp only [Token.word?, Option.some.injEq] at h <;> subst h <;> exact stops_cons _ _ rfl
  | number n _ h => simp [Token.isMark] at hm
  | string s _ h => simp [Token.isMark] at hm

theorem stops_laid (ts : List Token) (cs : List Char) (h : Laid ts cs)
    (hm : ∀ t ∈ ts.head?, t.isMark = true) : Stops cs := by
  cases h with
  | last gap hg =>
    have hstop := stops_gap cs [] hg nofun
    rwa [List.append_nil] at hstop
  | next gap t word ts rest hg ht hs => exact stops_gap gap _ hg (stops_mark t word rest ht (hm t rfl))

theorem tokens_gap (gap cs : List Char) (h : IsGap gap) : tokens (gap ++ cs) = tokens cs := by
  induction gap with
  | nil => rfl
  | cons c gap ih =>
    have hspace := isSpace_of_isGap _ h c List.mem_cons_self
    rw [List.cons_append, tokens, if_pos hspace, ih fun d hd => h d (List.mem_cons_of_mem c hd)]

theorem tokens_written (t : Token) (word rest : List Char) (h : t.Written word)
    (hr : t.isBare = true → Stops rest) : tokens (word ++ rest) = t :: tokens rest := by
  cases h with
  | word _ _ hw =>
    cases t with
    | null =>
      cases hw
      exact tokens_word 'n' _ rest (by decide) (by decide) (by decide) (hr rfl)
    | boolean b =>
      cases b <;> cases hw
      · exact tokens_word 'f' _ rest (by decide) (by decide) (by decide) (hr rfl)
      · exact tokens_word 't' _ rest (by decide) (by decide) (by decide) (hr rfl)
    | number n => simp [Token.word?] at hw
    | string s => simp [Token.word?] at hw
    | fault => simp [Token.word?] at hw
    | _ =>
      cases hw
      exact tokens_punctuation _ _ rest rfl
  | number n _ hn => exact tokens_number n word rest hn (hr rfl)
  | string s cs hs =>
    rw [List.cons_append, List.append_assoc]
    exact tokens_string s cs rest hs

theorem tokens_laid (ts : List Token) (cs : List Char) (h : Laid ts cs) (ha : Apart ts) :
    tokens cs = ts := by
  induction h with
  | last gap hg =>
    have hnil : tokens [] = [] := by rw [tokens]
    rw [← List.append_nil gap, tokens_gap gap [] hg, hnil]
  | next gap t word ts cs hg ht hs ih =>
    rw [tokens_gap gap _ hg, tokens_written t word cs ht fun hb => stops_laid ts cs hs (ha.1 hb),
      ih ha.2]

end SipNotifier.Json
