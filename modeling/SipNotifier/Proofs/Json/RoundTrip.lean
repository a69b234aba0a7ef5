import SipNotifier.Json.Reader
import SipNotifier.Proofs.Json.Layout

/-! Reading what was written. The text of a value is cut into the value's tokens, and the machine
that takes them hands the value to the container around it. Main statements: a value that fits the
reader's depth is read back from any of its texts (`read_laid`), and the text that is written for it
has no control character in it (`printable_value`). -/
namespace SipNotifier.Json
set_option autoImplicit false

/-! ## Values that can be read -/

mutual

/-- The numbers can be read, and no more containers stand in one another than there is room for. -/
def Value.Fits : Value → Nat → Prop
  | .number n, _ => n.Readable
  | .array vs, room => 0 < room ∧ ItemsFit vs (room - 1)
  | .object ms, room => 0 < room ∧ MembersFit ms (room - 1)
  | _, _ => True

def ItemsFit : List Value → Nat → Prop
  | [], _ => True
  | v :: vs, room => v.Fits room ∧ ItemsFit vs room

def MembersFit : List (String × Value) → Nat → Prop
  | [], _ => True
  | (_, v) :: ms, room => v.Fits room ∧ MembersFit ms room

end

mutual

/-- How many containers stand in one another. -/
def Value.depth : Value → Nat
  | .array vs => itemsDepth vs + 1
  | .object ms => membersDepth ms + 1
  | _ => 0

def itemsDepth : List Value → Nat
  | [] => 0
  | v :: vs => max v.depth (itemsDepth vs)

def membersDepth : List (String × Value) → Nat
  | [] => 0
  | (_, v) :: ms => max v.depth (membersDepth ms)

end

theorem membersDepth_le (ms : List (String × Value)) (room : Nat)
    (h : ∀ m ∈ ms, m.2.depth ≤ room) : membersDepth ms ≤ room := by
  induction ms with
  | nil => exact Nat.zero_le room
  | cons m ms ih =>
    obtain ⟨hm, hms⟩ := List.forall_mem_cons.mp h
    exact Nat.max_le.mpr ⟨hm, ih hms⟩

mutual

theorem fits_value (v : Value) (room : Nat) (hd : v.depth ≤ room)
    (hn : ∀ n, .number n ∈ v.tokens → n.Readable) : v.Fits room := by
  match v with
  | .null => trivial
  | .boolean b => trivial
  | .number n => exact hn n List.mem_cons_self
  | .string s => trivial
  | .array [] =>
    rw [Value.depth] at hd
    exact ⟨by omega, trivial⟩
  | .array (w :: vs) =>
    rw [Value.depth, itemsDepth] at hd
    refine ⟨by omega, fits_value w _ (by omega) ?_, fits_items vs _ (by omega) ?_⟩
    · intro n hmem
      exact hn n (by simp [Value.tokens, hmem])
    · intro n hmem
      exact hn n (by simp [Value.tokens, hmem])
  | .object [] =>
    rw [Value.depth] at hd
    exact ⟨by omega, trivial⟩
  | .object ((name, w) :: ms) =>
    rw [Value.depth, membersDepth] at hd
    refine ⟨by omega, fits_value w _ (by omega) ?_, fits_members ms _ (by omega) ?_⟩
    · intro n hmem
      exact hn n (by simp [Value.tokens, hmem])
    · intro n hmem
      exact hn n (by simp [Value.tokens, hmem])

theorem fits_items (vs : List Value) (room : Nat) (hd : itemsDepth vs ≤ room)
    (hn : ∀ n, .number n ∈ itemsTokens vs → n.Readable) : ItemsFit vs room := by
  match vs with
  | [] => trivial
  | v :: vs =>
    rw [itemsDepth] at hd
    refine ⟨fits_value v _ (by omega) ?_, fits_items vs _ (by omega) ?_⟩
    · intro n hmem
      exact hn n (by simp [itemsTokens, hmem])
    · intro n hmem
      exact hn n (by simp [itemsTokens, hmem])

theorem fits_members (ms : List (String × Value)) (room : Nat) (hd : membersDepth ms ≤ room)
    (hn : ∀ n, .number n ∈ membersTokens ms → n.Readable) : MembersFit ms room := by
  match ms with
  | [] => trivial
  | (name, v) :: ms =>
    rw [membersDepth] at hd
    refine ⟨fits_value v _ (by omega) ?_, fits_members ms _ (by omega) ?_⟩
    · intro n hmem
      exact hn n (by simp [membersTokens, hmem])
    · intro n hmem
      exact hn n (by simp [membersTokens, hmem])

end

/-! ## The machine -/

/-- The reading that goes on behind a complete value. -/
def handOver (v : Value) : List Frame → List Token → Reading
  | [], ts => .complete v ts
  | .items done :: around, ts => Machine.run ⟨.arrayNext (v :: done), around⟩ ts
  | .member done name :: around, ts => Machine.run ⟨.objectNext ((name, v) :: done), around⟩ ts

namespace Machine

theorem run_deliver (m : Machine) (t : Token) (v : Value) (around : List Frame) (ts : List Token)
    (h : m.step t = deliver v around) : m.run (t :: ts) = handOver v around ts := by
  rw [run, h]
  match around with
  | [] => rfl
  | .items done :: around => rfl
  | .member done name :: around => rfl

theorem run_go (m m' : Machine) (t : Token) (ts : List Token) (h : m.step t = .go m') :
    m.run (t :: ts) = m'.run ts := by
  rw [run, h]

/-- Any token but the end of an array starts a value here, inside these containers. -/
def Awaits (m : Machine) (around : List Frame) : Prop :=
  ∀ t, t ≠ .closeArray → m.step t = start around t

theorem awaits_value (around : List Frame) : Awaits ⟨.value, around⟩ around := fun _ _ => rfl

theorem awaits_arrayStart (around : List Frame) :
    Awaits ⟨.arrayStart, around⟩ (.items [] :: around) := by
  intro t ht
  cases t with
  | closeArray => exact absurd rfl ht
  | _ => rfl

end Machine

mutual

theorem run_value (v : Value) (room : Nat) (m : Machine) (around : List Frame) (rest : List Token)
    (h : v.Fits room) (hroom : around.length + room ≤ maxDepth) (hm : m.Awaits around) :
    m.run (v.tokens ++ rest) = handOver v around rest := by
  match v with
  | .null => exact m.run_deliver .null .null around rest (hm .null nofun)
  | .boolean b => exact m.run_deliver (.boolean b) (.boolean b) around rest (hm (.boolean b) nofun)
  | .number n => exact m.run_deliver (.number n) (.number n) around rest (hm (.number n) nofun)
  | .string s => exact m.run_deliver (.string s) (.string s) around rest (hm (.string s) nofun)
  | .array vs =>
    -- There is room for one more container, which the depth check asks for.
    obtain ⟨hpos, hfit⟩ := h
    have hopen : m.step .openArray = .go ⟨.arrayStart, around⟩ := by
      rw [hm .openArray nofun, Machine.start, if_pos (by omega)]
    match vs with
    | [] => exact (m.run_go _ _ _ hopen).trans (Machine.run_deliver _ .closeArray _ around rest rfl)
    | w :: vs =>
      have hw := run_value w (room - 1) ⟨.arrayStart, around⟩ (.items [] :: around)
        (itemsTokens vs ++ .closeArray :: rest) hfit.1 (by simp only [List.length_cons]; omega)
        (Machine.awaits_arrayStart around)
      have hvs := run_items vs (room - 1) [w] around rest hfit.2 (by omega)
      simp only [Value.tokens, List.append_assoc, List.cons_append, List.nil_append]
      rw [m.run_go _ _ _ hopen, hw, handOver, hvs]
      rfl
  | .object ms =>
    obtain ⟨hpos, hfit⟩ := h
    have hopen : m.step .openObject = .go ⟨.objectStart, around⟩ := by
      rw [hm .openObject nofun, Machine.start, if_pos (by omega)]
    match ms with
    | [] => exact (m.run_go _ _ _ hopen).trans (Machine.run_deliver _ .closeObject _ around rest rfl)
    | (name, w) :: ms =>
      have hw := run_value w (room - 1) ⟨.value, .member [] name :: around⟩
        (.member [] name :: around) (membersTokens ms ++ .closeObject :: rest) hfit.1
        (by simp only [List.length_cons]; omega) (Machine.awaits_value _)
      have hms := run_members ms (room - 1) [(name, w)] around rest hfit.2 (by omega)
      simp only [Value.tokens, List.append_assoc, List.cons_append, List.nil_append]
      rw [m.run_go _ _ _ hopen, Machine.run_go _ ⟨.objectColon [] name, around⟩ _ _ rfl,
        Machine.run_go _ ⟨.value, .member [] name :: around⟩ _ _ rfl, hw, handOver, hms]
      rfl

theorem run_items (vs : List Value) (room : Nat) (done : List Value) (around : List Frame)
    (rest : List Token) (h : ItemsFit vs room) (hroom : around.length + 1 + room ≤ maxDepth) :
    Machine.run ⟨.arrayNext done, around⟩ (itemsTokens vs ++ .closeArray :: rest) =
      handOver (.array (done.reverse ++ vs)) around rest := by
  match vs with
  | [] =>
    rw [List.append_nil]
    exact Machine.run_deliver _ .closeArray _ around rest rfl
  | v :: vs =>
    have hv := run_value v room ⟨.value, .items done :: around⟩ (.items done :: around)
      (itemsTokens vs ++ .closeArray :: rest) h.1 (by simp only [List.length_cons]; omega)
      (Machine.awaits_value _)
    have hvs := run_items vs room (v :: done) around rest h.2 hroom
    simp only [itemsTokens, List.append_assoc, List.cons_append]
    rw [Machine.run_go _ ⟨.value, .items done :: around⟩ _ _ rfl, hv, handOver, hvs]
    simp

theorem run_members (ms : List (String × Value)) (room : Nat) (done : List (String × Value))
    (around : List Frame) (rest : List Token) (h : MembersFit ms room)
    (hroom : around.length + 1 + room ≤ maxDepth) :
    Machine.run ⟨.objectNext done, around⟩ (membersTokens ms ++ .closeObject :: rest) =
      handOver (.object (done.reverse ++ ms)) around rest := by
  match ms with
  | [] =>
    rw [List.append_nil]
    exact Machine.run_deliver _ .closeObject _ around rest rfl
  | (name, v) :: ms =>
    have hv := run_value v room ⟨.value, .member done name :: around⟩ (.member done name :: around)
      (membersTokens ms ++ .closeObject :: rest) h.1 (by simp only [List.length_cons]; omega)
      (Machine.awaits_value _)
    have hms := run_members ms room ((name, v) :: done) around rest h.2 hroom
    simp only [membersTokens, List.append_assoc, List.cons_append]
    rw [Machine.run_go _ ⟨.objectName done, around⟩ _ _ rfl,
      Machine.run_go _ ⟨.objectColon done name, around⟩ _ _ rfl,
      Machine.run_go _ ⟨.value, .member done name :: around⟩ _ _ rfl, hv, handOver, hms]
    simp

end

/-! ## Whole texts -/

theorem read_laid (v : Value) (cs : List Char) (hd : v.depth ≤ maxDepth) (h : Laid v.tokens cs) :
    read cs = .complete v [] := by
  have hnumbers : ∀ n, .number n ∈ v.tokens → n.Readable := by
    intro n hn
    obtain ⟨word, hw⟩ := h.mem _ _ _ hn
    exact (hw.wellFormed n word).readable
  have hrun := run_value v maxDepth {} [] [] (fits_value v maxDepth hd hnumbers) (by simp)
    (Machine.awaits_value [])
  rw [List.append_nil] at hrun
  rw [read, tokens_value v cs h, hrun]
  rfl

theorem parse?_write (v : Value) (hd : v.depth ≤ maxDepth)
    (hn : ∀ n, .number n ∈ v.tokens → n.WellFormed) : parse? v.write = some v := by
  rw [parse?, read_laid v _ hd (laid_write v hn)]

/-! ## Control characters -/

def Printable (cs : List Char) : Prop := ∀ c ∈ cs, 0x20 ≤ c.toNat

instance (cs : List Char) : Decidable (Printable cs) :=
  decidable_of_decidable_of_iff (p := (cs.all fun c => decide (0x20 ≤ c.toNat)) = true)
    (by simp only [Printable, List.all_eq_true, decide_eq_true_eq])

theorem printable_append (cs ds : List Char) (hc : Printable cs) (hd : Printable ds) :
    Printable (cs ++ ds) := List.forall_mem_append.mpr ⟨hc, hd⟩

theorem printable_cons (c : Char) (cs : List Char) (h : 0x20 ≤ c.toNat) (hc : Printable cs) :
    Printable (c :: cs) := List.forall_mem_cons.mpr ⟨h, hc⟩

theorem printable_escapeChar (c : Char) : Printable (escapeChar c) := by
  have hdigit : ∀ d : Fin 16, 0x20 ≤ (Text.hexDigit d.val).toNat := by decide
  unfold escapeChar
  split
  · decide
  · decide
  · decide
  · decide
  · decide
  · decide
  · decide
  · split
    · have hhigh := hdigit ⟨c.toNat / 16, by omega⟩
      have hlow := hdigit ⟨c.toNat % 16, by omega⟩
      simp only [Printable, List.forall_mem_cons]
      exact ⟨by decide, by decide, by decide, by decide, hhigh, hlow, nofun⟩
    · simpa [Printable] using by omega

theorem printable_quote (s : String) : Printable (quote s) := by
  have hbody : Printable (s.toList.flatMap escapeChar) := by
    intro c hc
    obtain ⟨d, -, hd⟩ := List.mem_flatMap.mp hc
    exact printable_escapeChar d c hd
  exact printable_append _ _ (printable_cons '"' _ (by decide) hbody) (by decide)

theorem printable_number (n : Number) (h : n.Readable) : Printable n.toChars := by
  intro c hc
  have hchar := h.chars c hc
  simp only [isNumberChar, Char.isDigit, Bool.or_eq_true, Bool.and_eq_true, decide_eq_true_eq,
    beq_iff_eq] at hchar
  rcases hchar with (((((⟨hlow, -⟩ | rfl) | rfl) | rfl) | rfl) | rfl)
  · exact Nat.le_trans (by decide) hlow
  · decide
  · decide
  · decide
  · decide
  · decide

mutual

theorem printable_value (v : Value) (room : Nat) (h : v.Fits room) : Printable v.toChars := by
  match v with
  | .null => exact (by decide : Printable "null".toList)
  | .boolean true => exact (by decide : Printable "true".toList)
  | .boolean false => exact (by decide : Printable "false".toList)
  | .number n => exact printable_number n h
  | .string s => exact printable_quote s
  | .array [] => exact (by decide : Printable ['[', ']'])
  | .array (w :: vs) =>
    have hw := printable_value w (room - 1) h.2.1
    have hvs := printable_items vs (room - 1) h.2.2
    rw [toChars_array]
    exact printable_append _ _ (printable_append _ _ (printable_cons '[' _ (by decide) hw) hvs)
      (by decide)
  | .object [] => exact (by decide : Printable ['\x7b', '\x7d'])
  | .object ((name, w) :: ms) =>
    have hname := printable_quote name
    have hw := printable_value w (room - 1) h.2.1
    have hms := printable_members ms (room - 1) h.2.2
    rw [toChars_object]
    exact printable_append _ _ (printable_append _ _ (printable_append _ _
      (printable_cons '\x7b' _ (by decide) hname) (printable_cons ':' _ (by decide) hw)) hms)
      (by decide)

theorem printable_items (vs : List Value) (room : Nat) (h : ItemsFit vs room) :
    Printable (itemsToChars vs) := by
  match vs with
  | [] => exact nofun
  | v :: vs =>
    have hv := printable_value v room h.1
    have hvs := printable_items vs room h.2
    exact printable_append _ _ (printable_cons ',' _ (by decide) hv) hvs

theorem printable_members (ms : List (String × Value)) (room : Nat) (h : MembersFit ms room) :
    Printable (membersToChars ms) := by
  match ms with
  | [] => exact nofun
  | (name, v) :: ms =>
    have hname := printable_quote name
    have hv := printable_value v room h.1
    have hms := printable_members ms room h.2
    exact printable_append _ _ (printable_append _ _ (printable_cons ',' _ (by decide) hname)
      (printable_cons ':' _ (by decide) hv)) hms

end

end SipNotifier.Json
