import SipNotifier.Bus

/-! Lines of bytes and lines of characters. The bytes of a character that is not one byte long are all
above the ends of lines, so the bytes of a text are cut exactly where its characters end a line, and
no line of a text fails to be text again. -/
namespace SipNotifier.Bus
set_option autoImplicit false

/-! ## The bytes of a text -/

def utf8 (cs : List Char) : List UInt8 := cs.flatMap String.utf8EncodeChar

theorem toList_toUTF8 (s : String) : s.toUTF8.data.toList = utf8 s.toList := by
  rw [String.toUTF8_eq_toByteArray, ← String.utf8Encode_toList, List.utf8Encode,
    List.toList_data_toByteArray]
  rfl

theorem utf8_append (a b : List Char) : utf8 (a ++ b) = utf8 a ++ utf8 b := List.flatMap_append

/-- A byte of seven bits is a character of its own. -/
theorem utf8EncodeChar_ascii (c : Char) (b : UInt8) (hb : b.toNat < 128)
    (h : b ∈ String.utf8EncodeChar c) :
    c.toNat = b.toNat ∧ String.utf8EncodeChar c = [b] := by
  simp only [String.utf8EncodeChar] at h ⊢
  split at h
  · next hc =>
    rw [if_pos hc]
    simp only [List.mem_singleton] at h
    subst h
    refine ⟨?_, rfl⟩
    have hval : c.toNat = c.val.toNat := rfl
    rw [UInt8.toNat_ofNat']
    omega
  · exfalso
    split at h
    · simp only [List.mem_cons, List.not_mem_nil, or_false] at h
      rcases h with rfl | rfl <;> rw [UInt8.toNat_ofNat'] at hb <;> omega
    · split at h
      · simp only [List.mem_cons, List.not_mem_nil, or_false] at h
        rcases h with rfl | rfl | rfl <;> rw [UInt8.toNat_ofNat'] at hb <;> omega
      · simp only [List.mem_cons, List.not_mem_nil, or_false] at h
        rcases h with rfl | rfl | rfl | rfl <;> rw [UInt8.toNat_ofNat'] at hb <;> omega

theorem mem_utf8 (cs : List Char) (d : Char) (b : UInt8) (hb : b.toNat < 128)
    (hd : d.toNat = b.toNat) (h : b ∈ utf8 cs) : d ∈ cs := by
  obtain ⟨c, hc, hbc⟩ := List.mem_flatMap.mp h
  have hval := (utf8EncodeChar_ascii c b hb hbc).1
  have hcd : c = d := Char.toNat_inj.mp (hval.trans hd.symm)
  exact hcd ▸ hc

theorem decodeUtf8?_utf8 (s : String) : decodeUtf8? (utf8 s.toList) = some s := by
  have hbytes : (⟨(utf8 s.toList).toArray⟩ : ByteArray) = s.toByteArray := by
    rw [← toList_toUTF8, Array.toArray_toList, String.toUTF8_eq_toByteArray]
  rw [decodeUtf8?, hbytes, String.fromUTF8?, dif_pos s.isValidUTF8]
  rfl

/-! ## Lines of bytes

A line is kept in reverse until it ends. -/

/-- A line without the carriage return at its end. -/
def completed (line : List UInt8) : List UInt8 :=
  if line.head? = some 13 then line.tail.reverse else line.reverse

theorem go_end (line rest : List UInt8) :
    splitLines.go line (10 :: rest) = completed line :: splitLines.go [] rest := by
  rw [splitLines.go.eq_def]
  simp only [if_true]
  unfold completed
  split
  · rfl
  · next hline =>
    have hhead : ¬ line.head? = some 13 := by
      intro h
      obtain ⟨before, hbefore⟩ := List.head?_eq_some_iff.mp h
      exact hline before hbefore
    rw [if_neg hhead]

theorem go_byte (b : UInt8) (line rest : List UInt8) (h : b ≠ 10) :
    splitLines.go line (b :: rest) = splitLines.go (b :: line) rest := by
  rw [splitLines.go.eq_def]
  exact if_neg h

theorem go_append (bytes line rest : List UInt8) (h : (10 : UInt8) ∉ bytes) :
    splitLines.go line (bytes ++ rest) = splitLines.go (bytes.reverse ++ line) rest := by
  induction bytes generalizing line with
  | nil => rfl
  | cons b bytes ih =>
    simp only [List.mem_cons, not_or] at h
    rw [List.cons_append, go_byte b line _ (Ne.symm h.1), ih (b :: line) h.2]
    simp

theorem completed_eq_reverse (line : List UInt8) (h : (13 : UInt8) ∉ line) :
    completed line = line.reverse :=
  if_neg fun hhead => h (List.mem_of_mem_head? hhead)

/-- A line that holds no end of a line and no carriage return is the first of the text that it
begins. -/
theorem splitLines_line (line rest : List UInt8) (hend : (10 : UInt8) ∉ line)
    (hreturn : (13 : UInt8) ∉ line) :
    splitLines (line ++ 10 :: rest) = line :: splitLines rest := by
  have hcompleted := completed_eq_reverse line.reverse (by simpa using hreturn)
  rw [splitLines, go_append line [] _ hend, List.append_nil, go_end, hcompleted,
    List.reverse_reverse]
  rfl

/-! ## Lines of a text -/

/-- The lines of the characters, where those in front are kept in reverse. -/
def textLines (line : List Char) : List Char → List (List Char)
  | [] => if line.isEmpty then [] else [line.reverse]
  | c :: rest =>
    if c = '\n' then
      (if line.head? = some '\r' then line.tail.reverse else line.reverse) :: textLines [] rest
    else textLines (c :: line) rest

def reversed (line : List Char) : List UInt8 := (utf8 line.reverse).reverse

theorem reversed_cons (c : Char) (line : List Char) :
    reversed (c :: line) = (String.utf8EncodeChar c).reverse ++ reversed line := by
  simp [reversed, utf8]

theorem completed_reversed (line : List Char) : completed (reversed line) =
    utf8 (if line.head? = some '\r' then line.tail.reverse else line.reverse) := by
  have hplain : (reversed line).reverse = utf8 line.reverse := List.reverse_reverse _
  cases line with
  | nil => rfl
  | cons c rest =>
    by_cases hc : c = '\r'
    · have hreturn : reversed ('\r' :: rest) = 13 :: reversed rest := reversed_cons '\r' rest
      rw [hc, hreturn, completed, if_pos (List.head?_cons ..), if_pos (List.head?_cons ..)]
      exact List.reverse_reverse _
    · have hhead : ¬ (reversed (c :: rest)).head? = some 13 := by
        intro h
        obtain ⟨b, bs, hb⟩ := List.exists_cons_of_ne_nil
          (List.reverse_ne_nil_iff.mpr (String.utf8EncodeChar_ne_nil (c := c)))
        rw [reversed_cons, hb, List.cons_append, List.head?_cons, Option.some.injEq] at h
        have hlast : (13 : UInt8) ∈ String.utf8EncodeChar c :=
          List.mem_reverse.mp (hb ▸ h ▸ List.mem_cons_self)
        exact hc (Char.toNat_inj.mp (utf8EncodeChar_ascii c 13 (by decide) hlast).1)
      rw [completed, if_neg hhead, hplain, if_neg (by simpa using hc)]

theorem go_reversed (cs line : List Char) :
    splitLines.go (reversed line) (utf8 cs) = (textLines line cs).map utf8 := by
  induction cs generalizing line with
  | nil =>
    have hnil : utf8 [] = [] := rfl
    rw [hnil, splitLines.go, textLines]
    cases line with
    | nil => rfl
    | cons c rest =>
      have hne : (reversed (c :: rest)).isEmpty = false := by
        simp [reversed_cons, String.utf8EncodeChar_ne_nil]
      rw [hne]
      simp [reversed]
  | cons c cs ih =>
    have hcons : utf8 (c :: cs) = String.utf8EncodeChar c ++ utf8 cs := rfl
    rw [textLines, hcons]
    split
    · next hc =>
      have hend : String.utf8EncodeChar '\n' = [10] := rfl
      rw [hc, hend, List.singleton_append, go_end, completed_reversed, List.map_cons]
      exact congrArg _ (ih [])
    · next hc =>
      have hnot : (10 : UInt8) ∉ String.utf8EncodeChar c := fun hmem =>
        hc (Char.toNat_inj.mp (utf8EncodeChar_ascii c 10 (by decide) hmem).1)
      rw [go_append _ _ _ hnot, ← reversed_cons, ih]

theorem splitLines_utf8 (cs : List Char) : splitLines (utf8 cs) = (textLines [] cs).map utf8 :=
  go_reversed cs []

/-- The lines of a text are texts. -/
theorem lines?_utf8 (text : String) :
    lines? (utf8 text.toList) = some ((textLines [] text.toList).map String.ofList) := by
  rw [lines?, splitLines_utf8]
  induction textLines [] text.toList with
  | nil => rfl
  | cons line rest ih =>
    have hline := decodeUtf8?_utf8 (String.ofList line)
    rw [String.toList_ofList] at hline
    rw [List.map_cons, List.mapM_cons, hline, ih]
    rfl

end SipNotifier.Bus
