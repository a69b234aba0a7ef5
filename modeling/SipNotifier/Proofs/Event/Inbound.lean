import Mathlib.Data.List.Nodup
import SipNotifier.Event.Decode
import SipNotifier.Proofs.Event.Outbound

/-! Reading an inbound event, however its line is laid out. The members of the object may stand in any
order and others may stand among them; an absent field may be null or left out. What counts is which
values the members of each name hold (`valuesOf`): none or one for a field, one for the kind. -/
namespace SipNotifier.Inbound
open Json
set_option autoImplicit false

/-! ## Layouts -/

def allFields (e : Inbound) : List Field := e.kind.fields ++ e.kind.statusFields

/-- Each field of the record with what it holds. -/
def entries (e : Inbound) : List (Field × Content) := e.allFields.zip e.contents

/-- The member for a field. An absent field is null, where `nulls` names it, or left out. -/
def member? (nulls : String → Bool) (p : Field × Content) : Option (String × Value) :=
  if p.2 = .absent ∧ nulls p.1.name = false then none else some (p.1.name, p.2.toValue)

def members (e : Inbound) (nulls : String → Bool) : List (String × Value) :=
  e.entries.filterMap (member? nulls)

/-- The line is an object with the members of the event and others, in any order. -/
structure Layout (e : Inbound) (nulls : String → Bool) (others members : List (String × Value))
    (line : String) : Prop where
  foreign : ∀ m ∈ others, m.1 ≠ "type" ∧ ∀ f ∈ e.allFields, m.1 ≠ f.name
  order : members.Perm (("type", .string e.kind.name) :: (e.members nulls ++ others))
  depth : (Value.object members).depth ≤ maxDepth
  text : Laid (Value.object members).tokens line.toList

/-- The times that the event names fit a word of 64 bits. -/
def TimesFit : Inbound → Prop
  | subscribe request => ∀ time ∈ request.expires, Seconds.Fits time
  | timerTick time => Seconds.Fits time
  | _ => True

/-! ## Members by name -/

def valuesOf (name : String) (ms : List (String × Value)) : List Value :=
  (ms.filter fun m => m.1 == name).map Prod.snd

theorem valuesOf_cons_self (name : String) (v : Value) (ms : List (String × Value)) :
    valuesOf name ((name, v) :: ms) = v :: valuesOf name ms := by
  simp [valuesOf]

theorem valuesOf_cons_ne (name other : String) (v : Value) (ms : List (String × Value))
    (h : other ≠ name) : valuesOf name ((other, v) :: ms) = valuesOf name ms := by
  simp [valuesOf, h]

theorem valuesOf_append (name : String) (ms ns : List (String × Value)) :
    valuesOf name (ms ++ ns) = valuesOf name ms ++ valuesOf name ns := by
  simp [valuesOf]

theorem valuesOf_eq_nil (name : String) (ms : List (String × Value)) (h : ∀ m ∈ ms, m.1 ≠ name) :
    valuesOf name ms = [] := by
  simpa [valuesOf] using h

theorem valuesOf_perm (name : String) (ms ns : List (String × Value)) (h : ms.Perm ns) :
    (valuesOf name ms).Perm (valuesOf name ns) := (h.filter _).map _

/-- What the members of a field's name may hold. -/
def Held (ms : List (String × Value)) (p : Field × Content) : Prop :=
  valuesOf p.1.name ms = [p.2.toValue] ∨ valuesOf p.1.name ms = [] ∧ p.2 = .absent

/-! ## The kind -/

theorem splitKind_of_nil (found : Option Kind) (ms : List (String × Value))
    (h : valuesOf "type" ms = []) : splitKind found ms = .ok (found, ms) := by
  induction ms with
  | nil => rfl
  | cons m ms ih =>
    obtain ⟨name, v⟩ := m
    by_cases hname : name = "type"
    · subst hname
      rw [valuesOf_cons_self] at h
      simp at h
    · rw [valuesOf_cons_ne _ _ _ _ hname] at h
      unfold splitKind
      rw [kindMember, if_neg hname, ih h]

theorem splitKind_of_one (k : Kind) (ms : List (String × Value))
    (h : valuesOf "type" ms = [.string k.name]) :
    ∃ rest, splitKind none ms = .ok (some k, rest) ∧
      ∀ name, name ≠ "type" → valuesOf name rest = valuesOf name ms := by
  induction ms with
  | nil => simp [valuesOf] at h
  | cons m ms ih =>
    obtain ⟨name, v⟩ := m
    by_cases hname : name = "type"
    · subst hname
      rw [valuesOf_cons_self, List.cons.injEq] at h
      obtain ⟨rfl, hrest⟩ := h
      refine ⟨ms, ?_, fun other hother => (valuesOf_cons_ne _ _ _ _ hother.symm).symm⟩
      rw [splitKind, kindMember, if_pos rfl]
      simp only [kindOf, Kind.ofName?_name]
      exact splitKind_of_nil (some k) ms hrest
    · rw [valuesOf_cons_ne _ _ _ _ hname] at h
      obtain ⟨rest, hsplit, hsame⟩ := ih h
      refine ⟨(name, v) :: rest, by rw [splitKind, kindMember, if_neg hname, hsplit], ?_⟩
      intro other hother
      have hrest := hsame other hother
      by_cases hown : name = other
      · subst hown
        rw [valuesOf_cons_self, valuesOf_cons_self, hrest]
      · rw [valuesOf_cons_ne _ _ _ _ hown, valuesOf_cons_ne _ _ _ _ hown, hrest]

/-! ## Fields -/

/-- The field can be read from the value of what it holds. -/
def Readable (p : Field × Content) : Prop := p.1.shape.read p.2.toValue = some p.2

theorem optional_of_readable (p : Field × Content) (h : Readable p) (ha : p.2 = .absent) :
    p.1.shape.isRequired = false := by
  obtain ⟨⟨name, shape⟩, content⟩ := p
  simp only at ha
  subst ha
  cases shape <;> simp [Readable, Content.toValue, Shape.read] at h <;> rfl

variable (plan : List (Field × Content)) (ms : List (String × Value))

theorem gather_held (hn : (plan.map fun p => p.1.name).Nodup) (hr : ∀ p ∈ plan, Readable p)
    (got : List (String × Content))
    (h : ∀ p ∈ plan, valuesOf p.1.name ms = [] ∨
      got.lookup p.1.name = none ∧ valuesOf p.1.name ms = [p.2.toValue]) :
    ∃ all, gather (plan.map Prod.fst) got ms = .ok all ∧ ∀ p ∈ plan,
      all.lookup p.1.name = if valuesOf p.1.name ms = [] then got.lookup p.1.name else some p.2 := by
  -- What the members to come hold for a name settles its field; the rest is in `got` already.
  induction ms generalizing got with
  | nil => exact ⟨got, rfl, fun p hp => by simp [valuesOf]⟩
  | cons m ms ih =>
    obtain ⟨name, v⟩ := m
    rw [gather]
    cases hf : (plan.map Prod.fst).find? fun f => f.name == name with
    | none =>
      have hforeign : ∀ p ∈ plan, name ≠ p.1.name := by
        intro p hp he
        have hnot := List.find?_eq_none.mp hf p.1 (List.mem_map_of_mem hp)
        simp [he] at hnot
      have hskip : ∀ p ∈ plan, valuesOf p.1.name ((name, v) :: ms) = valuesOf p.1.name ms :=
        fun p hp => valuesOf_cons_ne _ _ _ _ (hforeign p hp)
      obtain ⟨all, hall, hlook⟩ := ih got fun p hp => hskip p hp ▸ h p hp
      exact ⟨all, hall, fun p hp => by rw [hlook p hp, hskip p hp]⟩
    | some f =>
      obtain ⟨q, hq, rfl⟩ := List.mem_map.mp (List.mem_of_find?_eq_some hf)
      obtain rfl : q.1.name = name := by simpa using List.find?_some hf
      have hown := h q hq
      rw [valuesOf_cons_self] at hown
      obtain ⟨hfree, hone⟩ := hown.resolve_left (List.cons_ne_nil _ _)
      obtain ⟨rfl, hlast⟩ := List.cons.inj hone
      have hread : q.1.shape.read q.2.toValue = some q.2 := hr q hq
      have hcheck : ¬ ((got.lookup q.1.name).isSome = true) := by simp [hfree]
      simp only [hread]
      rw [if_neg hcheck]
      have hnext : ∀ p ∈ plan, valuesOf p.1.name ms = [] ∨
          ((q.1.name, q.2) :: got).lookup p.1.name = none ∧
            valuesOf p.1.name ms = [p.2.toValue] := by
        intro p hp
        by_cases hpq : q.1.name = p.1.name
        · exact .inl (hpq ▸ hlast)
        · have hp' := h p hp
          rw [valuesOf_cons_ne _ _ _ _ hpq] at hp'
          have hb : (p.1.name == q.1.name) = false := by simpa using Ne.symm hpq
          rwa [List.lookup_cons, hb]
      obtain ⟨all, hall, hlook⟩ := ih _ hnext
      refine ⟨all, hall, ?_⟩
      intro p hp
      rw [hlook p hp]
      by_cases hpq : q.1.name = p.1.name
      · -- Names are apart, so this is the field that was just read.
        obtain rfl := List.inj_on_of_nodup_map hn hq hp hpq
        rw [valuesOf_cons_self, hlast, if_pos rfl, if_neg (List.cons_ne_nil _ _)]
        simp
      · have hb : (p.1.name == q.1.name) = false := by simpa using Ne.symm hpq
        rw [valuesOf_cons_ne _ _ _ _ hpq, List.lookup_cons, hb]

theorem arrange_held (got : List (String × Content)) (hr : ∀ p ∈ plan, Readable p)
    (h : ∀ p ∈ plan, got.lookup p.1.name = some p.2 ∨
      got.lookup p.1.name = none ∧ p.2 = .absent) :
    arrange got (plan.map Prod.fst) = .ok (plan.map Prod.snd) := by
  induction plan with
  | nil => rfl
  | cons p plan ih =>
    rw [List.forall_mem_cons] at h hr
    have hrest := ih hr.2 h.2
    rw [List.map_cons, arrange]
    rcases h.1 with hsome | ⟨hnone, habsent⟩
    · rw [hsome, hrest]
      rfl
    · rw [hnone, hrest]
      simp [optional_of_readable p hr.1 habsent, habsent, Except.map]

theorem readFields_held (hn : (plan.map fun p => p.1.name).Nodup) (hr : ∀ p ∈ plan, Readable p)
    (h : ∀ p ∈ plan, Held ms p) :
    readFields (plan.map Prod.fst) ms = .ok (plan.map Prod.snd) := by
  obtain ⟨all, hall, hlook⟩ := gather_held plan ms hn hr [] fun p hp =>
    (h p hp).elim (fun hone => .inr ⟨rfl, hone⟩) fun hnone => .inl hnone.1
  have harrange := arrange_held plan all hr fun p hp => by
    rw [hlook p hp]
    rcases h p hp with hone | ⟨hnone, habsent⟩
    · exact .inl (by rw [hone, if_neg (List.cons_ne_nil _ _)])
    · exact .inr ⟨by rw [if_pos hnone]; rfl, habsent⟩
  rw [readFields, hall]
  exact harrange

/-! ## Records -/

theorem map_entries (e : Inbound) :
    e.entries.map Prod.fst = e.allFields ∧ e.entries.map Prod.snd = e.contents := by
  cases e <;> exact ⟨rfl, rfl⟩

theorem Kind.mem_all (k : Kind) : k ∈ Kind.all := by cases k <;> decide

theorem nodup_names (e : Inbound) : (e.entries.map fun p => p.1.name).Nodup := by
  have hkinds : ∀ k ∈ Kind.all, ((k.fields ++ k.statusFields).map Field.name).Nodup := by decide
  have hnames := hkinds e.kind (Kind.mem_all e.kind)
  rwa [← allFields, ← (map_entries e).1, List.map_map] at hnames

theorem type_ne_name (e : Inbound) (p : Field × Content) (hp : p ∈ e.entries) :
    p.1.name ≠ "type" := by
  have hkinds : ∀ k ∈ Kind.all, ∀ f ∈ k.fields ++ k.statusFields, f.name ≠ "type" := by decide
  refine hkinds e.kind (Kind.mem_all e.kind) p.1 ?_
  rw [← allFields, ← (map_entries e).1]
  exact List.mem_map_of_mem hp

theorem read_ofText (s : Option String) :
    Shape.optionalText.read (Content.ofText s).toValue = some (.ofText s) := by
  cases s <;> rfl

theorem read_time (time : Int) (h : Seconds.Fits time) :
    Shape.time.read (Content.time time).toValue = some (.time time) := by
  rw [Content.toValue, Shape.read, Number.toInt?_ofInt, Option.bind_some, if_pos h]

theorem read_ofTime (time : Option Int) (h : ∀ t ∈ time, Seconds.Fits t) :
    Shape.optionalTime.read (Content.ofTime time).toValue = some (.ofTime time) := by
  cases time with
  | none => rfl
  | some t =>
    rw [Content.ofTime, Content.toValue, Shape.read, Number.toInt?_ofInt, Option.bind_some,
      if_pos (h t rfl)]

theorem readable_entries (e : Inbound) (h : e.TimesFit) : ∀ p ∈ e.entries, Readable p := by
  cases e <;>
    simp only [entries, allFields, kind, Kind.fields, Kind.statusFields, callStatusFields, contents,
      List.append_nil, List.cons_append, List.nil_append, List.zip_cons_cons, List.zip_nil_right,
      List.forall_mem_cons, List.not_mem_nil, false_implies, implies_true, and_true]
  case subscribe request =>
    exact ⟨rfl, rfl, rfl, rfl, rfl, rfl, rfl, read_ofTime _ h, rfl, Shape.read_port _,
      read_ofText _⟩
  case mailboxUpdate user => exact rfl
  case callUpdate external channel call =>
    exact ⟨rfl, read_ofText _, read_ofText _, read_ofText _, read_ofText _⟩
  case channelUpdate id call => exact ⟨rfl, read_ofText _, read_ofText _, read_ofText _⟩
  case timerTick time => exact read_time time h

theorem ofMembers_held (e : Inbound) (h : e.TimesFit) (ms : List (String × Value))
    (hm : ∀ p ∈ e.entries, Held ms p) : ofMembers e.kind ms = .ok e := by
  obtain ⟨hfields, hcontents⟩ := map_entries e
  have hown := readFields_held (e.entries.take e.kind.fields.length) ms
    ((nodup_names e).sublist ((List.take_sublist _ _).map _))
    (fun p hp => readable_entries e h p (List.mem_of_mem_take hp))
    fun p hp => hm p (List.mem_of_mem_take hp)
  have hstatus := readFields_held (e.entries.drop e.kind.fields.length) ms
    ((nodup_names e).sublist ((List.drop_sublist _ _).map _))
    (fun p hp => readable_entries e h p (List.mem_of_mem_drop hp))
    fun p hp => hm p (List.mem_of_mem_drop hp)
  rw [List.map_take, List.map_take, hfields, hcontents, allFields, List.take_left] at hown
  rw [List.map_drop, List.map_drop, hfields, hcontents, allFields, List.drop_left] at hstatus
  simp only [ofMembers, hown, hstatus, bind, Except.bind, List.take_append_drop, build_contents]
  rfl

/-! ## Lines -/

theorem member?_eq_some (nulls : String → Bool) (p : Field × Content) (m : String × Value)
    (h : member? nulls p = some m) : m = (p.1.name, p.2.toValue) := by
  rw [member?] at h
  split at h
  · simp at h
  · exact (Option.some.inj h).symm

theorem member?_eq_none (nulls : String → Bool) (p : Field × Content) (h : member? nulls p = none) :
    p.2 = .absent := by
  rw [member?] at h
  split at h
  · next habsent => exact habsent.1
  · simp at h

theorem valuesOf_members_far (nulls : String → Bool) (name : String)
    (h : ∀ p ∈ plan, p.1.name ≠ name) : valuesOf name (plan.filterMap (member? nulls)) = [] := by
  refine valuesOf_eq_nil _ _ fun m hm => ?_
  obtain ⟨p, hp, hmp⟩ := List.mem_filterMap.mp hm
  rw [member?_eq_some nulls p m hmp]
  exact h p hp

theorem held_member (nulls : String → Bool) (p : Field × Content)
    (hn : (plan.map fun p => p.1.name).Nodup) (hp : p ∈ plan) :
    Held (plan.filterMap (member? nulls)) p := by
  induction plan with
  | nil => simp at hp
  | cons q plan ih =>
    obtain ⟨hnot, hn⟩ := List.nodup_cons.mp hn
    rcases List.mem_cons.mp hp with rfl | hp
    · have hrest := valuesOf_members_far plan nulls p.1.name fun q hq hname =>
        hnot (List.mem_map.mpr ⟨q, hq, hname⟩)
      cases hmember : member? nulls p with
      | none =>
        rw [List.filterMap_cons_none hmember]
        exact .inr ⟨hrest, member?_eq_none nulls p hmember⟩
      | some m =>
        rw [List.filterMap_cons_some hmember, member?_eq_some nulls p m hmember, Held,
          valuesOf_cons_self, hrest]
        exact .inl rfl
    · have hne : q.1.name ≠ p.1.name := fun he => hnot (List.mem_map.mpr ⟨p, hp, he.symm⟩)
      cases hmember : member? nulls q with
      | none =>
        rw [List.filterMap_cons_none hmember]
        exact ih hn hp
      | some m =>
        rw [List.filterMap_cons_some hmember, member?_eq_some nulls q m hmember, Held,
          valuesOf_cons_ne _ _ _ _ hne]
        exact ih hn hp

namespace Layout

variable (e : Inbound) (nulls : String → Bool) (others ms : List (String × Value)) (line : String)

theorem valuesOf_kind (h : e.Layout nulls others ms line) :
    valuesOf "type" ms = [.string e.kind.name] := by
  have hown : valuesOf "type" (e.members nulls) = [] :=
    valuesOf_members_far e.entries nulls "type" (type_ne_name e)
  have hothers := valuesOf_eq_nil "type" others fun m hm => (h.foreign m hm).1
  have hperm := valuesOf_perm "type" _ _ h.order
  rw [valuesOf_cons_self, valuesOf_append, hown, hothers] at hperm
  exact List.perm_singleton.mp hperm

theorem held (h : e.Layout nulls others ms line) (p : Field × Content) (hp : p ∈ e.entries) :
    Held ms p := by
  have hfield : p.1 ∈ e.allFields := (map_entries e).1 ▸ List.mem_map_of_mem hp
  have hothers := valuesOf_eq_nil p.1.name others fun m hm => (h.foreign m hm).2 p.1 hfield
  have hperm := valuesOf_perm p.1.name _ _ h.order
  rw [valuesOf_cons_ne _ _ _ _ (type_ne_name e p hp).symm, valuesOf_append, hothers,
    List.append_nil] at hperm
  rcases held_member e.entries nulls p (nodup_names e) hp with hone | ⟨hnone, habsent⟩
  · exact .inl (List.perm_singleton.mp (hone ▸ hperm))
  · exact .inr ⟨List.perm_nil.mp (hnone ▸ hperm), habsent⟩

theorem decode_eq (h : e.Layout nulls others ms line) (he : e.TimesFit) : decode line = .ok e := by
  obtain ⟨rest, hsplit, hsame⟩ := splitKind_of_one e.kind ms h.valuesOf_kind
  have hheld : ∀ p ∈ e.entries, Held rest p := by
    intro p hp
    rw [Held, hsame _ (type_ne_name e p hp)]
    exact h.held e nulls others ms line p hp
  rw [decode, read_laid _ _ h.depth h.text]
  simp only [ofValue, hsplit, ofMembers_held e he rest hheld]
  rfl

end Layout

/-! ## The plain layout -/

theorem wellFormed_of_readable (p : Field × Content) (h : Readable p) (n : Number)
    (hn : .number n ∈ p.2.toValue.tokens) : n.WellFormed := by
  obtain ⟨⟨name, shape⟩, content⟩ := p
  cases content with
  | text s => simp [Content.toValue, Value.tokens] at hn
  | absent => simp [Content.toValue, Value.tokens] at hn
  | port q =>
    have hlimit : q.toNat < Number.wordLimit := Nat.lt_of_lt_of_le q.toNat_lt (by decide)
    obtain rfl : n = .ofInt q.toNat := by simpa [Content.toValue, Value.tokens] using hn
    exact wellFormed_ofInt q.toNat hlimit
  | time t =>
    obtain rfl : n = .ofInt t := by simpa [Content.toValue, Value.tokens] using hn
    have hfits : Seconds.Fits t := by
      by_contra hout
      cases shape <;>
        simp [Readable, Content.toValue, Shape.read, Number.toInt?_ofInt, hout] at h
    refine wellFormed_ofInt t ?_
    simp only [Seconds.Fits, Seconds.least, Seconds.greatest] at hfits
    simp only [Number.wordLimit]
    omega

theorem depth_content (c : Content) : c.toValue.depth = 0 := by cases c <;> rfl

theorem layout_write (e : Inbound) (he : e.TimesFit) (nulls : String → Bool)
    (others ms : List (String × Value))
    (hf : ∀ m ∈ others, m.1 ≠ "type" ∧ ∀ f ∈ e.allFields, m.1 ≠ f.name)
    (ho : ms.Perm (("type", .string e.kind.name) :: (e.members nulls ++ others)))
    (hd : ∀ m ∈ others, m.2.depth < maxDepth)
    (hn : ∀ m ∈ others, ∀ n, .number n ∈ m.2.tokens → n.WellFormed) :
    e.Layout nulls others ms (Value.object ms).write := by
  have hcases : ∀ m ∈ ms, m = ("type", .string e.kind.name) ∨
      (∃ p ∈ e.entries, m.2 = p.2.toValue) ∨ m ∈ others := by
    intro m hm
    rcases List.mem_cons.mp (ho.mem_iff.mp hm) with hkind | hrest
    · exact .inl hkind
    · refine .inr ((List.mem_append.mp hrest).imp_left fun hown => ?_)
      obtain ⟨p, hp, hmp⟩ := List.mem_filterMap.mp hown
      exact ⟨p, hp, by rw [member?_eq_some nulls p m hmp]⟩
  have hdepth : membersDepth ms ≤ maxDepth - 1 := by
    refine membersDepth_le ms _ fun m hm => ?_
    rcases hcases m hm with rfl | ⟨p, -, hp⟩ | hm
    · exact Nat.zero_le _
    · rw [hp, depth_content]
      exact Nat.zero_le _
    · exact Nat.le_sub_one_of_lt (hd m hm)
  refine ⟨hf, ho, ?_, laid_write _ fun n hmem => ?_⟩
  · rw [Value.depth]
    exact Nat.succ_le_of_lt (Nat.lt_of_le_of_lt hdepth (by decide))
  · obtain ⟨m, hm, hnm⟩ := number_mem_object n ms hmem
    rcases hcases m hm with rfl | ⟨p, hp, hval⟩ | hm
    · simp [Value.tokens] at hnm
    · exact wellFormed_of_readable p (readable_entries e he p hp) n (hval ▸ hnm)
    · exact hn m hm n hnm

theorem toValue_eq (e : Inbound) :
    e.toValue = .object (("type", .string e.kind.name) :: e.members fun _ => true) := by
  have hmember : member? (fun _ => true) = some ∘ Prod.map Field.name Content.toValue := by
    funext p
    simp [member?, Prod.map]
  rw [toValue, members, hmember, List.filterMap_eq_map, entries, allFields, List.zip_map]

/-- Every layout of an event is read as that event, and the plain text of it is one. -/
theorem decode_layout (e : Inbound) (he : e.TimesFit) :
    (∀ nulls others ms line, e.Layout nulls others ms line → decode line = .ok e) ∧
      e.Layout (fun _ => true) [] (("type", .string e.kind.name) :: e.members fun _ => true)
        e.toValue.write := by
  refine ⟨fun nulls others ms line h => h.decode_eq e nulls others ms line he, ?_⟩
  rw [toValue_eq]
  exact layout_write e he _ [] _ nofun (by rw [List.append_nil]) nofun nofun

/-- A call update in a line of many kinds of spelling: other members, two of one name, stand among its
own, the kind comes last, and two strings have escapes. -/
theorem decode_layout_call :
    decode (" \x7b\"x\":true,\"x\" :[1E+2,\x7b\x7d],\"operation\":\"\\u0065nd\",\"chan\":null," ++
      "\"external\":\"\\uD83d\\uDE00\",\t\"type\":\"call_update\"\x7d\n") =
        .ok (.callUpdate "😀" none ⟨some "end", none, none⟩) := by
  have hletter : CharWritten 'e' "\\u0065".toList :=
    .unit _ (by decide)
      (.digits '0' '0' '6' '5' (by decide) (by decide) (by decide) (by decide))
  have hoperation : StringWritten "end".toList "\\u0065nd".toList :=
    .cons 'e' _ _ _ hletter (stringWritten_escape ['n', 'd'])
  have hface : CharWritten '😀' "\\uD83d\\uDE00".toList :=
    .pair _ _ (by decide)
      (.digits 'D' '8' '3' 'd' (by decide) (by decide) (by decide) (by decide))
      (.digits 'D' 'E' '0' '0' (by decide) (by decide) (by decide) (by decide))
  have hexternal : StringWritten "😀".toList "\\uD83d\\uDE00".toList :=
    .cons '😀' _ _ _ hface .nil
  have hnumber : Number.Written ⟨false, ['1'], [], some (false, ['2'])⟩ ['1', 'E', '+', '2'] := by
    refine ⟨⟨by decide, by decide, nofun, ?_, by decide +kernel⟩, _,
      .plus 'E' ['2'] (.inr rfl), rfl⟩
    rintro _ _ ⟨⟩
    decide
  -- The text is laid from its end.
  have hend : Laid [] ['\n'] := .last _ (by decide)
  have hclosed := laid_mark .closeObject '\x7d' _ _ rfl hend
  have hkind := Laid.next ['\t'] _ _ _ _ (by decide) (.string "type" _ (stringWritten_escape _))
    (laid_mark .colon ':' _ _ rfl (laid_quote "call_update" _ _ hclosed))
  have hexternal := laid_name "external" _ _
    (laid_token _ _ _ _ (.string "😀" _ hexternal) (laid_mark .comma ',' _ _ rfl hkind))
  have hchan := laid_name "chan" _ _
    (laid_token .null _ _ _ (.word _ _ rfl) (laid_mark .comma ',' _ _ rfl hexternal))
  have hoperation := laid_name "operation" _ _
    (laid_token _ _ _ _ (.string "end" _ hoperation) (laid_mark .comma ',' _ _ rfl hchan))
  have hnested := laid_mark .openObject '\x7b' _ _ rfl (laid_mark .closeObject '\x7d' _ _ rfl
    (laid_mark .closeArray ']' _ _ rfl (laid_mark .comma ',' _ _ rfl hoperation)))
  have hitems := laid_mark .openArray '[' _ _ rfl
    (laid_token _ _ _ _ (.number _ _ hnumber) (laid_mark .comma ',' _ _ rfl hnested))
  have hsecond := laid_quote "x" _ _ (.next [' '] .colon [':'] _ _ (by decide) (.word _ _ rfl) hitems)
  have hfirst := laid_name "x" _ _
    (laid_token (.boolean true) _ _ _ (.word _ _ rfl) (laid_mark .comma ',' _ _ rfl hsecond))
  have hline := Laid.next [' '] .openObject ['\x7b'] _ _ (by decide) (.word _ _ rfl) hfirst
  -- The members stand in the opposite order.
  exact (decode_layout (.callUpdate "😀" none ⟨some "end", none, none⟩) trivial).1 (· == "chan")
    [("x", .array [.number ⟨false, ['1'], [], some (false, ['2'])⟩, .object []]),
      ("x", .boolean true)]
    _ _ ⟨by decide, List.reverse_perm [_, _, _, _, _, _], by decide, hline⟩

end SipNotifier.Inbound
