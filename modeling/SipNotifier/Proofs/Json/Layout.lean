import SipNotifier.Proofs.Json.Lexing

/-! The texts of a value. The tokens of a value do not run into one another, so they are what any of
its texts is cut into (`tokens_value`); the text that is written for it is one of these
(`laid_write`). -/
namespace SipNotifier.Json
set_option autoImplicit false

/-! ## The tokens of a value -/

mutual

def Value.tokens : Value → List Token
  | .null => [.null]
  | .boolean b => [.boolean b]
  | .number n => [.number n]
  | .string s => [.string s]
  | .array [] => [.openArray, .closeArray]
  | .array (v :: vs) => .openArray :: (v.tokens ++ (itemsTokens vs ++ [.closeArray]))
  | .object [] => [.openObject, .closeObject]
  | .object ((name, v) :: ms) =>
    .openObject :: .string name :: .colon :: (v.tokens ++ (membersTokens ms ++ [.closeObject]))

def itemsTokens : List Value → List Token
  | [] => []
  | v :: vs => .comma :: (v.tokens ++ itemsTokens vs)

def membersTokens : List (String × Value) → List Token
  | [] => []
  | (name, v) :: ms => .comma :: .string name :: .colon :: (v.tokens ++ membersTokens ms)

end

theorem toChars_array (v : Value) (vs : List Value) :
    (Value.array (v :: vs)).toChars = '[' :: v.toChars ++ itemsToChars vs ++ [']'] := rfl

theorem toChars_object (name : String) (v : Value) (ms : List (String × Value)) :
    (Value.object ((name, v) :: ms)).toChars =
      '\x7b' :: quote name ++ ':' :: v.toChars ++ membersToChars ms ++ ['\x7d'] := rfl

theorem number_mem_members (n : Number) (ms : List (String × Value))
    (h : .number n ∈ membersTokens ms) : ∃ m ∈ ms, .number n ∈ m.2.tokens := by
  induction ms with
  | nil => simp [membersTokens] at h
  | cons m ms ih =>
    obtain ⟨name, v⟩ := m
    simp only [membersTokens, List.mem_cons, reduceCtorEq, List.mem_append, false_or] at h
    rcases h with hv | hms
    · exact ⟨(name, v), List.mem_cons_self, hv⟩
    · obtain ⟨m, hm, hn⟩ := ih hms
      exact ⟨m, List.mem_cons_of_mem _ hm, hn⟩

theorem number_mem_object (n : Number) (ms : List (String × Value))
    (h : .number n ∈ (Value.object ms).tokens) : ∃ m ∈ ms, .number n ∈ m.2.tokens := by
  refine number_mem_members n ms ?_
  cases ms with
  | nil => simp [Value.tokens] at h
  | cons m ms =>
    obtain ⟨name, v⟩ := m
    simpa [Value.tokens, membersTokens] using h

/-! ## Cutting the text of a value -/

/-- Nothing, or a mark first. -/
def Marked (ts : List Token) : Prop := ∀ t ∈ ts.head?, t.isMark = true

theorem apart_cons (t : Token) (ts : List Token) (ht : t.isBare = false) (h : Apart ts) :
    Apart (t :: ts) := ⟨fun hb => absurd hb (by rw [ht]; decide), h⟩

theorem apart_bare (t : Token) (ts : List Token) (hm : Marked ts) (h : Apart ts) : Apart (t :: ts) :=
  ⟨fun _ => hm, h⟩

theorem marked_cons (t : Token) (ts : List Token) (ht : t.isMark = true) : Marked (t :: ts) := by
  intro u hu
  rw [List.head?_cons, Option.mem_some] at hu
  exact hu ▸ ht

theorem marked_items (vs : List Value) (rest : List Token) (h : Marked rest) :
    Marked (itemsTokens vs ++ rest) := by
  cases vs with
  | nil => exact h
  | cons v vs => exact marked_cons .comma _ rfl

theorem marked_members (ms : List (String × Value)) (rest : List Token) (h : Marked rest) :
    Marked (membersTokens ms ++ rest) := by
  cases ms with
  | nil => exact h
  | cons m ms => exact marked_cons .comma _ rfl

mutual

theorem apart_value (v : Value) (rest : List Token) (h : Apart rest) (hm : Marked rest) :
    Apart (v.tokens ++ rest) := by
  match v with
  | .null => exact apart_bare _ rest hm h
  | .boolean b => exact apart_bare _ rest hm h
  | .number n => exact apart_bare _ rest hm h
  | .string s => exact apart_cons _ rest rfl h
  | .array [] => exact apart_cons _ _ rfl (apart_cons _ rest rfl h)
  | .array (w :: vs) =>
    have hclosed := apart_cons .closeArray rest rfl h
    have hmark := marked_cons .closeArray rest rfl
    have hvs := apart_items vs _ hclosed hmark
    have hw := apart_value w _ hvs (marked_items vs _ hmark)
    simp only [Value.tokens, List.append_assoc, List.cons_append, List.nil_append]
    exact apart_cons _ _ rfl hw
  | .object [] => exact apart_cons _ _ rfl (apart_cons _ rest rfl h)
  | .object ((name, w) :: ms) =>
    have hclosed := apart_cons .closeObject rest rfl h
    have hmark := marked_cons .closeObject rest rfl
    have hms := apart_members ms _ hclosed hmark
    have hw := apart_value w _ hms (marked_members ms _ hmark)
    simp only [Value.tokens, List.append_assoc, List.cons_append, List.nil_append]
    exact apart_cons _ _ rfl (apart_cons _ _ rfl (apart_cons _ _ rfl hw))

theorem apart_items (vs : List Value) (rest : List Token) (h : Apart rest) (hm : Marked rest) :
    Apart (itemsTokens vs ++ rest) := by
  match vs with
  | [] => exact h
  | v :: vs =>
    have hvs := apart_items vs rest h hm
    have hv := apart_value v _ hvs (marked_items vs rest hm)
    simp only [itemsTokens, List.append_assoc, List.cons_append]
    exact apart_cons _ _ rfl hv

theorem apart_members (ms : List (String × Value)) (rest : List Token) (h : Apart rest)
    (hm : Marked rest) : Apart (membersTokens ms ++ rest) := by
  match ms with
  | [] => exact h
  | (name, v) :: ms =>
    have hms := apart_members ms rest h hm
    have hv := apart_value v _ hms (marked_members ms rest hm)
    simp only [membersTokens, List.append_assoc, List.cons_append]
    exact apart_cons _ _ rfl (apart_cons _ _ rfl (apart_cons _ _ rfl hv))

end

theorem tokens_value (v : Value) (cs : List Char) (h : Laid v.tokens cs) : tokens cs = v.tokens := by
  have hapart := apart_value v [] trivial nofun
  rw [List.append_nil] at hapart
  exact tokens_laid v.tokens cs h hapart

/-! ## The plain layout -/

theorem laid_token (t : Token) (word : List Char) (ts : List Token) (cs : List Char)
    (ht : t.Written word) (h : Laid ts cs) : Laid (t :: ts) (word ++ cs) :=
  .next [] t word ts cs nofun ht h

theorem laid_mark (t : Token) (c : Char) (ts : List Token) (cs : List Char)
    (ht : t.word? = some [c]) (h : Laid ts cs) : Laid (t :: ts) (c :: cs) :=
  laid_token t [c] ts cs (.word t [c] ht) h

theorem laid_quote (s : String) (ts : List Token) (cs : List Char) (h : Laid ts cs) :
    Laid (.string s :: ts) (quote s ++ cs) :=
  laid_token _ _ ts cs (.string s _ (stringWritten_escape s.toList)) h

/-- The name of a member with its colon. -/
theorem laid_name (name : String) (ts : List Token) (cs : List Char) (h : Laid ts cs) :
    Laid (.string name :: .colon :: ts) (quote name ++ ':' :: cs) :=
  laid_quote name _ _ (laid_mark .colon ':' ts cs rfl h)

mutual

theorem laid_value (v : Value) (ts : List Token) (cs : List Char)
    (hn : ∀ n, .number n ∈ v.tokens → n.WellFormed) (h : Laid ts cs) :
    Laid (v.tokens ++ ts) (v.toChars ++ cs) := by
  match v with
  | .null => exact laid_token _ _ ts cs (.word .null _ rfl) h
  | .boolean true => exact laid_token _ _ ts cs (.word (.boolean true) _ rfl) h
  | .boolean false => exact laid_token _ _ ts cs (.word (.boolean false) _ rfl) h
  | .number n => exact laid_token _ _ ts cs (.number n _ ((hn n List.mem_cons_self).written n)) h
  | .string s => exact laid_quote s ts cs h
  | .array [] =>
    exact laid_mark .openArray '[' _ _ rfl (laid_mark .closeArray ']' ts cs rfl h)
  | .array (w :: vs) =>
    have hclosed := laid_mark .closeArray ']' ts cs rfl h
    have hvs := laid_items vs _ _ (fun n hmem => hn n (by simp [Value.tokens, hmem])) hclosed
    have hw := laid_value w _ _ (fun n hmem => hn n (by simp [Value.tokens, hmem])) hvs
    simp only [toChars_array, Value.tokens, List.append_assoc, List.cons_append, List.nil_append]
    exact laid_mark .openArray '[' _ _ rfl hw
  | .object [] =>
    exact laid_mark .openObject '\x7b' _ _ rfl (laid_mark .closeObject '\x7d' ts cs rfl h)
  | .object ((name, w) :: ms) =>
    have hclosed := laid_mark .closeObject '\x7d' ts cs rfl h
    have hms := laid_members ms _ _ (fun n hmem => hn n (by simp [Value.tokens, hmem])) hclosed
    have hw := laid_value w _ _ (fun n hmem => hn n (by simp [Value.tokens, hmem])) hms
    simp only [toChars_object, Value.tokens, List.append_assoc, List.cons_append, List.nil_append]
    exact laid_mark .openObject '\x7b' _ _ rfl (laid_name name _ _ hw)

theorem laid_items (vs : List Value) (ts : List Token) (cs : List Char)
    (hn : ∀ n, .number n ∈ itemsTokens vs → n.WellFormed) (h : Laid ts cs) :
    Laid (itemsTokens vs ++ ts) (itemsToChars vs ++ cs) := by
  match vs with
  | [] => exact h
  | v :: vs =>
    have hvs := laid_items vs ts cs (fun n hmem => hn n (by simp [itemsTokens, hmem])) h
    have hv := laid_value v _ _ (fun n hmem => hn n (by simp [itemsTokens, hmem])) hvs
    simp only [itemsToChars, itemsTokens, List.append_assoc, List.cons_append]
    exact laid_mark .comma ',' _ _ rfl hv

theorem laid_members (ms : List (String × Value)) (ts : List Token) (cs : List Char)
    (hn : ∀ n, .number n ∈ membersTokens ms → n.WellFormed) (h : Laid ts cs) :
    Laid (membersTokens ms ++ ts) (membersToChars ms ++ cs) := by
  match ms with
  | [] => exact h
  | (name, v) :: ms =>
    have hms := laid_members ms ts cs (fun n hmem => hn n (by simp [membersTokens, hmem])) h
    have hv := laid_value v _ _ (fun n hmem => hn n (by simp [membersTokens, hmem])) hms
    simp only [membersToChars, membersTokens, List.append_assoc, List.cons_append]
    exact laid_mark .comma ',' _ _ rfl (laid_name name _ _ hv)

end

theorem laid_write (v : Value) (hn : ∀ n, .number n ∈ v.tokens → n.WellFormed) :
    Laid v.tokens v.write.toList := by
  have hlaid := laid_value v [] [] hn (.last [] nofun)
  rwa [List.append_nil, List.append_nil, ← String.toList_ofList (l := v.toChars)] at hlaid

end SipNotifier.Json
