import SipNotifier.Json.Token
import SipNotifier.Json.Writer
import SipNotifier.Text.Split

/-! How numbers may be written: a power of ten has either letter, and a plus sign may stand in front of
its digits. Main statements: a number is read back from any of its forms (`Number.Written.reads`), and
an integer that fits a word of 64 bits has such a form (`wellFormed_ofInt`). -/
namespace SipNotifier.Json
set_option autoImplicit false

/-! ## Forms -/

/-- The number is what a reader makes of its characters. -/
structure Number.Readable (n : Number) : Prop where
  chars : ∀ c ∈ n.toChars, isNumberChar c = true
  nonempty : n.toChars ≠ []
  read : readNumber n.toChars = some n

/-- A run of digits, at least one. -/
def IsDigits (cs : List Char) : Prop := cs ≠ [] ∧ ∀ c ∈ cs, c.isDigit = true

instance (cs : List Char) : Decidable (IsDigits cs) :=
  decidable_of_iff (cs ≠ [] ∧ cs.all Char.isDigit = true) (by rw [IsDigits, List.all_eq_true])

/-- The number has the form of a JSON number, without idle zeros in front, and is in range. -/
structure Number.WellFormed (n : Number) : Prop where
  whole : IsDigits n.whole
  lead : n.whole.head? = some '0' → n.whole.length = 1
  fraction : ∀ c ∈ n.fraction, c.isDigit = true
  power : ∀ below digits, n.exponent = some (below, digits) → IsDigits digits
  range : n.inRange = true

/-- The ways to write a power of ten: either letter, and a sign that may be left out for plus. -/
inductive PowerWritten : Option (Bool × List Char) → List Char → Prop
  | none : PowerWritten none []
  | below (mark : Char) (digits : List Char) (h : mark = 'e' ∨ mark = 'E') :
      PowerWritten (some (true, digits)) (mark :: '-' :: digits)
  | plain (mark : Char) (digits : List Char) (h : mark = 'e' ∨ mark = 'E') :
      PowerWritten (some (false, digits)) (mark :: digits)
  | plus (mark : Char) (digits : List Char) (h : mark = 'e' ∨ mark = 'E') :
      PowerWritten (some (false, digits)) (mark :: '+' :: digits)

namespace Number

def sign (n : Number) : List Char := if n.negative then ['-'] else []

def point (n : Number) : List Char := if n.fraction.isEmpty then [] else '.' :: n.fraction

/-- The ways to write a number. -/
def Written (n : Number) (cs : List Char) : Prop :=
  n.WellFormed ∧ ∃ power, PowerWritten n.exponent power ∧
    cs = n.sign ++ (n.whole ++ (n.point ++ power))

end Number

/-! ## The range -/

theorem roundToDouble_le (n : Nat) (h : 0 < n) : Text.roundToDouble n ≤ 2 * n := by
  have hlog : 2 ^ n.log2 ≤ n := Nat.log2_self_le (by omega)
  have hpow : 2 ^ (n.log2 - 52) ≤ n :=
    Nat.le_trans (Nat.pow_le_pow_right (by omega) (by omega)) hlog
  have hkept : n / 2 ^ (n.log2 - 52) * 2 ^ (n.log2 - 52) ≤ n := Nat.div_mul_le_self _ _
  simp only [Text.roundToDouble, Nat.shiftLeft_eq, Nat.shiftRight_eq_div_pow]
  split
  · omega
  · split
    · omega
    · rw [Nat.add_mul]
      omega

theorem le_digits (ds : List Char) (word : Nat) :
    word ≤ ds.foldl (fun n d => 10 * n + (d.toNat - '0'.toNat)) word := by
  induction ds generalizing word with
  | nil => exact Nat.le_refl word
  | cons d ds ih =>
    have hnext := ih (10 * word + (d.toNat - '0'.toNat))
    rw [List.foldl_cons]
    omega

theorem fill_digits (ds : List Char) (word : Nat)
    (h : ds.foldl (fun n d => 10 * n + (d.toNat - '0'.toNat)) word < Number.wordLimit) :
    Number.fill word ds = (ds.foldl (fun n d => 10 * n + (d.toNat - '0'.toNat)) word, []) := by
  induction ds generalizing word with
  | nil => rfl
  | cons d ds ih =>
    have hnext := le_digits ds (10 * word + (d.toNat - '0'.toNat))
    rw [List.foldl_cons] at h ⊢
    simp only [Number.fill]
    rw [if_pos (Nat.lt_of_le_of_lt hnext h), ih _ h]

theorem isFinite_word (m : Nat) (h : m < Number.wordLimit) : Number.isFinite m 0 = true := by
  have hlimit : 2 * Number.wordLimit < Text.doubleLimit := by decide +kernel
  have hone : Text.roundToDouble (Nat.pow 10 0) = 1 := by decide +kernel
  unfold Number.isFinite
  split
  · rfl
  · next hm =>
    have hround := roundToDouble_le m (by omega)
    have hfinite : Text.roundToDouble m * Text.roundToDouble (Nat.pow 10 0) < Text.doubleLimit := by
      rw [hone, Nat.mul_one]
      omega
    change (decide (0 ≤ 308) && decide (Text.roundToDouble m * Text.roundToDouble (Nat.pow 10 0) <
      Text.doubleLimit)) = true
    rw [decide_eq_true hfinite, Bool.and_true]
    rfl

theorem inRange_digits (negative : Bool) (m : Nat) (h : m < Number.wordLimit) :
    Number.inRange ⟨negative, Nat.toDigits 10 m, [], none⟩ = true := by
  have hvalue : (Nat.toDigits 10 m).foldl (fun n d => 10 * n + (d.toNat - '0'.toNat)) 0 = m :=
    Text.decimalValue_toDigits m
  have hfill := fill_digits (Nat.toDigits 10 m) 0 (by rw [hvalue]; exact h)
  have hscaled : Number.scaled ⟨negative, Nat.toDigits 10 m, [], none⟩ = (m, 0) := by
    rw [hvalue] at hfill
    simp only [Number.scaled, hfill, Number.fill]
    rfl
  rw [Number.inRange, hscaled]
  exact isFinite_word m h

/-! ## Reading -/

/-- Reads a number behind its sign. -/
def readMagnitude (negative : Bool) (cs : List Char) : Option Number :=
  let whole := cs.takeWhile Char.isDigit
  if whole.isEmpty || (whole.head? == some '0' && decide (1 < whole.length)) then none
  else (readTail negative whole (cs.dropWhile Char.isDigit)).filter Number.inRange

theorem readNumber_minus (cs : List Char) : readNumber ('-' :: cs) = readMagnitude true cs := rfl

theorem readNumber_plain (cs : List Char) (h : ∀ rest, cs ≠ '-' :: rest) :
    readNumber cs = readMagnitude false cs := by
  unfold readNumber
  split
  next heq =>
    split at heq
    · next rest => exact absurd rfl (h rest)
    · simp only [Prod.mk.injEq] at heq
      obtain ⟨rfl, rfl⟩ := heq
      rfl

theorem power_head (exponent : Option (Bool × List Char)) (power : List Char)
    (h : PowerWritten exponent power) : ∀ c ∈ power.head?, c = 'e' ∨ c = 'E' := by
  cases h with
  | none => simp
  | below mark digits h => simpa using h
  | plain mark digits h => simpa using h
  | plus mark digits h => simpa using h

theorem point_chars (n : Number) (h : n.WellFormed) :
    ∀ c ∈ n.point, c = '.' ∨ c.isDigit = true := by
  intro c hc
  unfold Number.point at hc
  split at hc
  · simp at hc
  · rcases List.mem_cons.mp hc with rfl | hc
    · exact .inl rfl
    · exact .inr (h.fraction c hc)

/-- Digits end where the rest of the number starts. -/
theorem tail_head (n : Number) (power : List Char) (hp : PowerWritten n.exponent power) :
    ∀ c ∈ (n.point ++ power).head?, c.isDigit = false := by
  intro c hc
  unfold Number.point at hc
  split at hc
  · rcases power_head _ _ hp c hc with rfl | rfl <;> rfl
  · rw [List.cons_append, List.head?_cons, Option.mem_some] at hc
    rw [← hc]
    rfl

theorem readPoint_point (n : Number) (h : n.WellFormed) : readPoint n.point = some n.fraction := by
  have hall := List.all_eq_true.mpr h.fraction
  unfold Number.point
  split
  · next hnil => rw [List.isEmpty_iff.mp hnil, readPoint]
  · next hnil => simp [readPoint, hnil, hall]

theorem readExponent_plain (digits : List Char) (h : IsDigits digits) :
    readExponent digits = some (false, digits) := by
  have hall := List.all_eq_true.mpr h.2
  have hne := h.1
  unfold readExponent
  split
  · exact absurd (h.2 '-' List.mem_cons_self) (by decide)
  · exact absurd (h.2 '+' List.mem_cons_self) (by decide)
  · simp [hall, hne]

theorem readPower_written (exponent : Option (Bool × List Char)) (power : List Char)
    (hp : PowerWritten exponent power)
    (hd : ∀ below digits, exponent = some (below, digits) → IsDigits digits) :
    readPower power = some exponent := by
  have hsigned : ∀ below digits, exponent = some (below, digits) →
      (digits.isEmpty || !digits.all Char.isDigit) = false := by
    intro below digits he
    obtain ⟨hne, hall⟩ := hd below digits he
    simp [hne, List.all_eq_true.mpr hall]
  cases hp with
  | none => rfl
  | below mark digits _ => simp [readPower, readExponent, hsigned true digits rfl]
  | plain mark digits _ => simp [readPower, readExponent_plain digits (hd false digits rfl)]
  | plus mark digits _ => simp [readPower, readExponent, hsigned false digits rfl]

theorem readTail_written (n : Number) (power : List Char) (h : n.WellFormed)
    (hp : PowerWritten n.exponent power) :
    readTail n.negative n.whole (n.point ++ power) = some n := by
  have hmarks : ∀ c ∈ n.point, (c != 'e' && c != 'E') = true := by
    intro c hc
    rcases point_chars n h c hc with rfl | hd
    · rfl
    · rw [Bool.and_eq_true, bne_iff_ne, bne_iff_ne]
      exact ⟨fun he => absurd (he ▸ hd) (by decide), fun he => absurd (he ▸ hd) (by decide)⟩
  have hstop : ∀ c ∈ power.head?, (c != 'e' && c != 'E') = false := by
    intro c hc
    rcases power_head _ _ hp c hc with rfl | rfl <;> rfl
  obtain ⟨hpoint, hpower⟩ := Text.takeWhile_append_stop _ n.point power hmarks hstop
  rw [readTail, hpoint, hpower, readPoint_point n h, readPower_written _ _ hp h.power]

theorem readMagnitude_written (n : Number) (power : List Char) (h : n.WellFormed)
    (hp : PowerWritten n.exponent power) :
    readMagnitude n.negative (n.whole ++ (n.point ++ power)) = some n := by
  obtain ⟨hwhole, htail⟩ :=
    Text.takeWhile_append_stop Char.isDigit n.whole (n.point ++ power) h.whole.2 (tail_head n power hp)
  have hlead : ¬ (n.whole.isEmpty || (n.whole.head? == some '0' && decide (1 < n.whole.length))) =
      true := by
    simp only [Bool.or_eq_true, List.isEmpty_iff, Bool.and_eq_true, beq_iff_eq, decide_eq_true_eq]
    rintro (hnil | ⟨hhead, hlen⟩)
    · exact h.whole.1 hnil
    · rw [h.lead hhead] at hlen
      exact absurd hlen (by decide)
  simp only [readMagnitude, hwhole, htail]
  rw [if_neg hlead, readTail_written n power h hp]
  simp [h.range]

theorem isNumberChar_power (n : Number) (power : List Char) (h : n.WellFormed)
    (hp : PowerWritten n.exponent power) : ∀ c ∈ power, isNumberChar c = true := by
  have hmark : ∀ c, c = 'e' ∨ c = 'E' → isNumberChar c = true := by
    rintro c (rfl | rfl) <;> rfl
  have hdigits : ∀ below digits, n.exponent = some (below, digits) →
      ∀ c ∈ digits, isNumberChar c = true := by
    intro below digits he c hc
    simp [isNumberChar, (h.power below digits he).2 c hc]
  generalize he : n.exponent = exponent at hp hdigits
  cases hp with
  | none => simp
  | below mark digits hm =>
    rw [List.forall_mem_cons, List.forall_mem_cons]
    exact ⟨hmark mark hm, rfl, hdigits true digits rfl⟩
  | plain mark digits hm =>
    rw [List.forall_mem_cons]
    exact ⟨hmark mark hm, hdigits false digits rfl⟩
  | plus mark digits hm =>
    rw [List.forall_mem_cons, List.forall_mem_cons]
    exact ⟨hmark mark hm, rfl, hdigits false digits rfl⟩

theorem Number.Written.reads (n : Number) (cs : List Char) (hw : n.Written cs) :
    (∀ c ∈ cs, isNumberChar c = true) ∧ cs ≠ [] ∧ readNumber cs = some n := by
  obtain ⟨h, power, hp, rfl⟩ := hw
  refine ⟨?chars, ?nonempty, ?read⟩
  case chars =>
    simp only [List.forall_mem_append]
    refine ⟨?_, fun c hc => by simp [isNumberChar, h.whole.2 c hc], ?_,
      isNumberChar_power n power h hp⟩
    · intro c hc
      unfold Number.sign at hc
      split at hc
      · rw [List.mem_singleton.mp hc]
        rfl
      · simp at hc
    · intro c hc
      rcases point_chars n h c hc with rfl | hd
      · rfl
      · simp [isNumberChar, hd]
  case nonempty =>
    exact List.append_ne_nil_of_right_ne_nil _ (List.append_ne_nil_of_left_ne_nil h.whole.1 _)
  case read =>
    have hread := readMagnitude_written n power h hp
    cases hneg : n.negative with
    | true =>
      rw [hneg] at hread
      simpa [Number.sign, hneg, readNumber_minus] using hread
    | false =>
      rw [hneg] at hread
      rw [Number.sign, hneg, if_neg (by decide), List.nil_append, readNumber_plain _ ?_, hread]
      intro rest hrest
      obtain ⟨d, ds, hd⟩ := List.exists_cons_of_ne_nil h.whole.1
      have hdigit := h.whole.2 d (hd ▸ List.mem_cons_self)
      rw [hd, List.cons_append, List.cons.injEq] at hrest
      rw [hrest.1] at hdigit
      exact absurd hdigit (by decide)

theorem Number.WellFormed.written (n : Number) (h : n.WellFormed) : n.Written n.toChars := by
  obtain ⟨negative, whole, fraction, exponent⟩ := n
  cases exponent with
  | none => exact ⟨h, [], .none, by simp [Number.toChars, Number.sign, Number.point]⟩
  | some power =>
    obtain ⟨below, digits⟩ := power
    cases below with
    | true =>
      exact ⟨h, _, .below 'e' digits (.inl rfl),
        by simp [Number.toChars, Number.sign, Number.point]⟩
    | false =>
      exact ⟨h, _, .plain 'e' digits (.inl rfl),
        by simp [Number.toChars, Number.sign, Number.point]⟩

theorem Number.WellFormed.readable (n : Number) (h : n.WellFormed) : n.Readable :=
  have hreads := (h.written n).reads
  ⟨hreads.1, hreads.2.1, hreads.2.2⟩

theorem wellFormed_ofInt (n : Int) (h : n.natAbs < Number.wordLimit) :
    (Number.ofInt n).WellFormed := by
  have hnumber : Number.ofInt n = ⟨decide (n < 0), Nat.toDigits 10 n.natAbs, [], none⟩ := by
    simp [Number.ofInt]
  rw [hnumber]
  refine ⟨⟨Nat.toDigits_ne_nil, fun c hc => Nat.isDigit_of_mem_toDigits (by decide) (by decide) hc⟩,
    ?_, nofun, nofun, inRange_digits _ _ h⟩
  intro hhead
  rcases Nat.eq_zero_or_pos n.natAbs with h0 | hpos
  · simp [h0]
  · exact absurd hhead (Text.head?_toDigits _ hpos)

end SipNotifier.Json
