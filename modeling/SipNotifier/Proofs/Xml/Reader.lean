import SipNotifier.Text.Hex
import SipNotifier.Text.Occurs
import SipNotifier.Text.Split

/-! XML 1.0 documents as a conforming reader sees them. The reader covers what needs no document type:
elements, attributes and text with references, behind an optional declaration of the version alone. It
knows no comment, no processing instruction and no CDATA section, so what it reads is well formed, and
what it refuses may still be so if it has one of these. Neither a value nor a text holds the mark `<`,
which is why a document can be cut at it before all else. -/
namespace SipNotifier.Xml
open Text
set_option autoImplicit false

/-! ## Characters -/

def inRanges (ranges : List (Nat × Nat)) (c : Char) : Bool :=
  ranges.any fun r => decide (r.1 ≤ c.toNat) && decide (c.toNat ≤ r.2)

/-- The characters that a document may have. -/
def isChar : Char → Bool :=
  inRanges [(0x9, 0xA), (0xD, 0xD), (0x20, 0xD7FF), (0xE000, 0xFFFD), (0x10000, 0x10FFFF)]

def isSpace (c : Char) : Bool := c == ' ' || c == '\t' || c == '\n' || c == '\r'

def nameStartRanges : List (Nat × Nat) :=
  [(0x3A, 0x3A), (0x41, 0x5A), (0x5F, 0x5F), (0x61, 0x7A), (0xC0, 0xD6), (0xD8, 0xF6), (0xF8, 0x2FF),
   (0x370, 0x37D), (0x37F, 0x1FFF), (0x200C, 0x200D), (0x2070, 0x218F), (0x2C00, 0x2FEF),
   (0x3001, 0xD7FF), (0xF900, 0xFDCF), (0xFDF0, 0xFFFD), (0x10000, 0xEFFFF)]

def isNameChar : Char → Bool :=
  inRanges (nameStartRanges ++
    [(0x2D, 0x2E), (0x30, 0x39), (0xB7, 0xB7), (0x300, 0x36F), (0x203F, 0x2040)])

def isName (cs : List Char) : Bool := cs.head?.any (inRanges nameStartRanges) && cs.all isNameChar

theorem isChar_iff (c : Char) : isChar c = true ↔
    (c = '\t' ∨ c = '\n' ∨ c = '\r' ∨ 0x20 ≤ c.toNat) ∧
      c.toNat ≠ 0xFFFE ∧ c.toNat ≠ 0xFFFF := by
  have hvalid := c.valid
  have hsame : ∀ d : Char, c = d ↔ c.toNat = d.toNat := fun d => Char.toNat_inj.symm
  simp only [UInt32.isValidChar, Nat.isValidChar] at hvalid
  have hval : c.val.toNat = c.toNat := rfl
  -- no character is a surrogate, so the gap in the ranges is no gap among characters
  rw [hval] at hvalid
  simp only [isChar, inRanges, List.any_cons, List.any_nil, Bool.or_false, Bool.or_eq_true,
    Bool.and_eq_true, decide_eq_true_eq, hsame, Char.reduceToNat]
  omega

theorem isChar_of_isNameChar (c : Char) (h : isNameChar c = true) : isChar c = true := by
  simp only [isNameChar, nameStartRanges, inRanges, List.any_append, List.any_cons, List.any_nil,
    Bool.or_false, Bool.or_eq_true, Bool.and_eq_true, decide_eq_true_eq] at h
  rw [isChar_iff]
  omega

/-! ## Values -/

def lineEnds : List Char → List Char
  | [] => []
  | c :: cs =>
    if c = '\r' ∧ cs.head? = some '\n' then lineEnds cs
    else (if c = '\r' then '\n' else c) :: lineEnds cs

/-- A space in a value, of whatever kind, is read as a blank. -/
def flatten (c : Char) : Char := if isSpace c then ' ' else c

/-- What a reader makes of a value that is written as it is. -/
def normal (value : String) : String := String.ofList ((lineEnds value.toList).map flatten)

def entities : List (List Char × Char) :=
  [("lt".toList, '<'), ("gt".toList, '>'), ("amp".toList, '&'), ("apos".toList, '\''),
   ("quot".toList, '"')]

/-- The character that a reference names, by its number or as one of the five entities. -/
def reference? (name : List Char) : Option Char :=
  match name with
  | '#' :: 'x' :: digits => character? (valueInBase? 16 digits)
  | '#' :: digits => character? (valueInBase? 10 digits)
  | _ => entities.lookup name
where
  character? (number : Option Nat) : Option Char :=
    (number.filter fun n => n.isValidChar).bind fun n => some (Char.ofNat n) |>.filter isChar

/-- Replaces the references, and takes every other character as `plain` has it. Of a reference that is
not closed yet, the name so far is given. -/
def resolve? (plain : Char → Char) : Option (List Char) → List Char → Option (List Char)
  | none, [] => some []
  | some _, [] => none
  | none, c :: cs =>
    if c = '&' then resolve? plain (some []) cs
    else (resolve? plain none cs).map (plain c :: ·)
  | some name, c :: cs =>
    if c = ';' then (reference? name).bind fun d => (resolve? plain none cs).map (d :: ·)
    else resolve? plain (some (name ++ [c])) cs

theorem lineEnds_plain_append (a b : List Char) (h : '\r' ∉ a) : lineEnds (a ++ b) = a ++ lineEnds b := by
  induction a with
  | nil => rfl
  | cons c a ih =>
    simp only [List.mem_cons, not_or] at h
    have hc : ¬ c = '\r' := Ne.symm h.1
    rw [List.cons_append, lineEnds, if_neg (fun hboth => hc hboth.1), if_neg hc, ih h.2,
      List.cons_append]

theorem lineEnds_of_plain (cs : List Char) (h : '\r' ∉ cs) : lineEnds cs = cs := by
  have happend := lineEnds_plain_append cs [] h
  rwa [List.append_nil, lineEnds, List.append_nil] at happend

theorem lineEnds_append (a b : List Char) (h : b.head? ≠ some '\n') :
    lineEnds (a ++ b) = lineEnds a ++ lineEnds b := by
  induction a with
  | nil => rfl
  | cons c a ih =>
    have hhead : (a ++ b).head? = some '\n' ↔ a.head? = some '\n' := by
      cases a with
      | nil => simpa using h
      | cons d a => rfl
    simp only [List.cons_append, lineEnds, hhead, ih]
    split <;> rfl

theorem mem_lineEnds (c : Char) (cs : List Char) (h : c ∈ lineEnds cs) : c ∈ cs ∨ c = '\n' := by
  induction cs with
  | nil => cases h
  | cons d cs ih =>
    rw [lineEnds] at h
    split at h
    · exact (ih h).imp_left (List.mem_cons_of_mem d)
    · rcases List.mem_cons.mp h with hc | hc
      · split at hc
        · exact .inr hc
        · exact .inl (hc ▸ List.mem_cons_self)
      · exact (ih hc).imp_left (List.mem_cons_of_mem d)

theorem lineEnds_pieces (pieces : List (List Char)) :
    lineEnds (pieces.flatMap ('<' :: ·)) = (pieces.map lineEnds).flatMap ('<' :: ·) := by
  induction pieces with
  | nil => rfl
  | cons piece pieces ih =>
    have hnext : (pieces.flatMap ('<' :: ·)).head? ≠ some '\n' := by
      cases pieces with
      | nil => simp
      | cons next pieces => simp
    have hmark : '\r' ∉ ['<'] := by decide
    rw [List.flatMap_cons, lineEnds_append _ _ hnext, ih]
    exact congrArg (· ++ _) (lineEnds_plain_append ['<'] piece hmark)

theorem mem_flattened (cs : List Char) (c : Char) (h : c ∈ cs.map flatten) :
    c ≠ '\t' ∧ c ≠ '\n' ∧ c ≠ '\r' := by
  obtain ⟨d, -, rfl⟩ := List.mem_map.mp h
  simp only [flatten]
  split
  · decide
  · next hd =>
    simp only [isSpace, Bool.or_eq_true, beq_iff_eq, not_or] at hd
    exact ⟨hd.1.1.2, hd.1.2, hd.2⟩

theorem flatten_eq_self (c : Char) (h : c ≠ '\t' ∧ c ≠ '\n' ∧ c ≠ '\r') : flatten c = c := by
  rw [flatten]
  split
  · next hc =>
    simp only [isSpace, Bool.or_eq_true, beq_iff_eq] at hc
    rcases hc with ((rfl | hc) | hc) | hc
    · rfl
    · exact absurd hc h.1
    · exact absurd hc h.2.1
    · exact absurd hc h.2.2
  · rfl

theorem normal_eq_self_iff (value : String) :
    normal value = value ↔ ∀ c ∈ value.toList, c ≠ '\t' ∧ c ≠ '\n' ∧ c ≠ '\r' := by
  constructor
  · intro h c hc
    rw [← h, normal, String.toList_ofList] at hc
    exact mem_flattened _ c hc
  · intro h
    have hreturn : '\r' ∉ value.toList := fun hmem => (h '\r' hmem).2.2 rfl
    have hsame : value.toList.map flatten = value.toList :=
      (List.map_congr_left fun c hc => flatten_eq_self c (h c hc)).trans (List.map_id _)
    rw [normal, lineEnds_of_plain _ hreturn, hsame, String.ofList_toList]

theorem resolve?_plain (plain : Char → Char) (cs : List Char) (h : '&' ∉ cs) :
    resolve? plain none cs = some (cs.map plain) := by
  induction cs with
  | nil => rfl
  | cons c cs ih =>
    simp only [List.mem_cons, not_or] at h
    rw [resolve?, if_neg (Ne.symm h.1), ih h.2]
    rfl

/-! ## Tags -/

/-- What a reader meets on its way through a document. An element with nothing inside is met as a start
and a stop. -/
inductive Event where
  | start (name : String) (attributes : List (String × String))
  | stop (name : String)
  | text (value : String)
  deriving DecidableEq, Repr

/-- Inside of a value, only the quote that opened it is one. -/
def isQuote (opened : Option Char) (c : Char) : Bool :=
  match opened with
  | none => c == '"' || c == '\''
  | some quote => c == quote

/-- A tag behind its opening mark, cut at its quotes, and what stands behind its closing mark. -/
def parts? : Option Char → List Char → Option (List (List Char) × List Char)
  | _, [] => none
  | opened, c :: cs =>
    if opened = none ∧ c = '>' then some ([[]], cs)
    else if isQuote opened c then
      (parts? (if opened = none then some c else none) cs).map fun (pieces, text) =>
        ([] :: pieces, text)
    else (parts? opened cs).map fun (pieces, text) => (pieces.modifyHead (c :: ·), text)

/-- The name of an attribute, with a space in front of it and an equals sign behind it. -/
def label? (cs : List Char) : Option (List Char) :=
  match cs.reverse.dropWhile isSpace with
  | '=' :: before =>
    let name := (before.dropWhile isSpace).reverse.dropWhile isSpace
    if cs.head?.any isSpace && isName name then some name else none
  | _ => none

def attributes? : List (List Char) → Option (List (String × String) × List Char)
  | [] => none
  | [ending] => some ([], ending)
  | label :: value :: rest => do
    let name ← label? label
    let seen ← resolve? flatten none value
    let (more, ending) ← attributes? rest
    return ((String.ofList name, String.ofList seen) :: more, ending)

def startTag? (parts : List (List Char)) (name : List Char) : Option (List Event) := do
  let (attributes, ending) ← attributes? parts
  if isName name ∧ (attributes.map Prod.fst).Nodup then
    match ending.dropWhile isSpace with
    | [] => some [.start (String.ofList name) attributes]
    | ['/'] => some [.start (String.ofList name) attributes, .stop (String.ofList name)]
    | _ => none
  else none

def stopTag? (label : List Char) : Option (List Event) :=
  let name := (label.reverse.dropWhile isSpace).reverse
  if isName name then some [.stop (String.ofList name)] else none

def tagOf? : List (List Char) → Option (List Event)
  | [] => none
  | [('/' :: label)] => stopTag? label
  | label :: rest => startTag? (label.dropWhile isNameChar :: rest) (label.takeWhile isNameChar)

/-- The events of a tag behind its opening mark, and the text behind it as it is written. -/
def tag? (cs : List Char) : Option (List Event × List Char) := do
  let (parts, text) ← parts? none cs
  let events ← tagOf? parts
  return (events, text)

theorem parts?_append (opened : Option Char) (front rest : List Char)
    (h : ∀ c ∈ front, isQuote opened c = false ∧ ¬ (opened = none ∧ c = '>')) :
    parts? opened (front ++ rest) =
      (parts? opened rest).map fun (pieces, text) => (pieces.modifyHead (front ++ ·), text) := by
  induction front with
  | nil =>
    rw [List.nil_append]
    cases parts? opened rest with
    | none => rfl
    | some found =>
      obtain ⟨pieces, text⟩ := found
      cases pieces <;> rfl
  | cons c front ih =>
    obtain ⟨hquote, hclose⟩ := h c List.mem_cons_self
    rw [List.cons_append, parts?, if_neg hclose, if_neg (by simp [hquote]),
      ih fun d hd => h d (List.mem_cons_of_mem c hd), Option.map_map]
    simp [Function.comp_def]

theorem parts?_value (value rest : List Char) (h : '"' ∉ value) :
    parts? none ('"' :: value ++ '"' :: rest) =
      (parts? none rest).map fun (pieces, text) => ([] :: value :: pieces, text) := by
  have hinside : ∀ c ∈ value, isQuote (some '"') c = false ∧ ¬ (some '"' = none ∧ c = '>') := by
    intro c hc
    exact ⟨by simpa [isQuote] using fun he : c = '"' => h (he ▸ hc), by simp⟩
  have hclosed : parts? (some '"') ('"' :: rest) =
      (parts? none rest).map fun (pieces, text) => ([] :: pieces, text) := rfl
  have hopened : parts? none ('"' :: (value ++ '"' :: rest)) =
      (parts? (some '"') (value ++ '"' :: rest)).map fun (pieces, text) => ([] :: pieces, text) := rfl
  rw [List.cons_append, hopened, parts?_append _ _ _ hinside, hclosed, Option.map_map, Option.map_map]
  simp [Function.comp_def]

/-- Outside of a value, no character of the text ends a piece, a tag or a line. -/
def Unmarked (cs : List Char) : Prop := ∀ c ∈ cs, isQuote none c = false ∧ c ≠ '>' ∧ c ≠ '\r'

theorem parts?_unmarked (front rest : List Char) (h : Unmarked front) :
    parts? none (lineEnds (front ++ rest)) =
      (parts? none (lineEnds rest)).map fun (pieces, text) => (pieces.modifyHead (front ++ ·), text) := by
  have hreturn : '\r' ∉ front := fun hmem => (h _ hmem).2.2 rfl
  rw [lineEnds_plain_append _ _ hreturn]
  exact parts?_append none front _ fun c hc => ⟨(h c hc).1, fun hboth => (h c hc).2.1 hboth.2⟩

theorem parts?_closed (text : List Char) :
    parts? none (lineEnds ('>' :: text)) = some ([[]], lineEnds text) := by
  have hends : lineEnds ('>' :: text) = '>' :: lineEnds text := lineEnds_plain_append ['>'] text (by decide)
  rw [hends]
  rfl

theorem isNameChar_apart (c : Char) (h : isNameChar c = true) :
    isQuote none c = false ∧ c ≠ '>' ∧ c ≠ '/' ∧ c ≠ '\r' ∧ isSpace c = false := by
  have hnot : ∀ d : Char, isNameChar d = false → c ≠ d := by
    rintro d hd rfl
    rw [h] at hd
    cases hd
  have hspace := hnot ' ' (by decide)
  have htab := hnot '\t' (by decide)
  have hfeed := hnot '\n' (by decide)
  have hreturn := hnot '\r' (by decide)
  have hquote := hnot '"' (by decide)
  have hsingle := hnot '\'' (by decide)
  refine ⟨?_, hnot '>' (by decide), hnot '/' (by decide), hreturn, ?_⟩
  · simp [isQuote, hquote, hsingle]
  · simp [isSpace, hspace, htab, hfeed, hreturn]

theorem isNameChar_of_isName (name : List Char) (h : isName name = true) :
    ∀ c ∈ name, isNameChar c = true := by
  simp only [isName, Bool.and_eq_true, List.all_eq_true] at h
  exact h.2

theorem unmarked_of_isName (name : List Char) (h : isName name = true) : Unmarked name := by
  intro c hc
  obtain ⟨hquote, hclose, -, hreturn, -⟩ := isNameChar_apart c (isNameChar_of_isName name h c hc)
  exact ⟨hquote, hclose, hreturn⟩

theorem label?_written (name : List Char) (h : isName name = true) :
    label? (' ' :: (name ++ ['='])) = some name := by
  obtain ⟨c, cs, rfl⟩ : ∃ c cs, name = c :: cs := by
    cases name with
    | nil => simp [isName] at h
    | cons c cs => exact ⟨c, cs, rfl⟩
  have hspaces : ∀ d ∈ c :: cs, isSpace d = false := fun d hd =>
    (isNameChar_apart d (isNameChar_of_isName _ h d hd)).2.2.2.2
  -- a name neither begins nor ends with a space, so that trimming on either side stops at it
  have hback : ((c :: cs).reverse ++ [' ']).dropWhile isSpace = (c :: cs).reverse ++ [' '] := by
    refine (takeWhile_append_stop isSpace [] _ (by simp) ?_).2
    intro d hd
    obtain ⟨last, before, hlast⟩ := List.exists_cons_of_ne_nil (by simp : (c :: cs).reverse ≠ [])
    rw [hlast] at hd
    obtain rfl : last = d := Option.some.inj hd
    exact hspaces last (List.mem_reverse.mp (hlast ▸ List.mem_cons_self))
  have hfront : (' ' :: (c :: cs)).dropWhile isSpace = c :: cs :=
    (takeWhile_append_stop isSpace [' '] (c :: cs) (by simp [isSpace]) fun d hd =>
      hspaces d (List.mem_of_mem_head? hd)).2
  have hequals : (' ' :: (c :: cs ++ ['='])).reverse.dropWhile isSpace =
      '=' :: ((c :: cs).reverse ++ [' ']) := by
    simp [isSpace]
  rw [label?, hequals]
  simp only [hback, List.reverse_append, List.reverse_reverse, List.reverse_singleton,
    List.singleton_append]
  rw [hfront, if_pos (by simp [h, isSpace])]

theorem tagOf?_start (name rest : List Char) (pieces : List (List Char)) (h : isName name = true)
    (hrest : ∀ c ∈ rest.head?, isNameChar c = false) :
    tagOf? ((name ++ rest) :: pieces) = startTag? (rest :: pieces) name := by
  have hchars := isNameChar_of_isName name h
  obtain ⟨htake, hdrop⟩ := takeWhile_append_stop isNameChar name rest hchars hrest
  cases name with
  | nil => simp [isName] at h
  | cons c cs =>
    have hc := (isNameChar_apart c (hchars c List.mem_cons_self)).2.2.1
    rw [tagOf?]
    · rw [htake, hdrop]
    · intro label he
      exact absurd (List.cons.inj he).1 hc

theorem stopTag?_name (name : List Char) (h : isName name = true) :
    stopTag? name = some [.stop (String.ofList name)] := by
  have hback : name.reverse.dropWhile isSpace = name.reverse := by
    refine (takeWhile_append_stop isSpace [] _ (by simp) fun c hc => ?_).2
    have hmem : c ∈ name := List.mem_reverse.mp (List.mem_of_mem_head? hc)
    exact (isNameChar_apart c (isNameChar_of_isName name h c hmem)).2.2.2.2
  simp only [stopTag?, hback, List.reverse_reverse, h, if_true]

/-! ## Documents -/

def text? (cs : List Char) : Option Event :=
  if occurs "]]>".toList cs then none
  else (resolve? id none cs).map fun value => .text (String.ofList value)

theorem text?_plain (cs : List Char) (h : '&' ∉ cs) (hend : ']' ∉ cs) :
    text? cs = some (.text (String.ofList cs)) := by
  have hfree : ¬ occurs "]]>".toList cs = true := by
    rw [occurs_iff]
    rintro ⟨before, after, rfl⟩
    exact hend (by simp)
  rw [text?, if_neg hfree, resolve?_plain id cs h, List.map_id]
  rfl

/-- The events of a document that is cut in front of its tags. Behind the last tag there may be spaces
only, and no reference to one. -/
def events? : List (List Char) → Option (List Event)
  | [] => some []
  | [last] => do
    let (tag, behind) ← tag? last
    if behind.all isSpace then some tag else none
  | piece :: next :: rest => do
    let (tag, behind) ← tag? piece
    let text ← text? behind
    let more ← events? (next :: rest)
    return tag ++ text :: more

def declaration : List Char := "?xml version=\"1.0\"?>".toList

def behindDeclaration? : List (List Char) → Option (List (List Char))
  | [] => none
  | front :: pieces =>
    match pieces with
    | piece :: rest =>
      if front = [] ∧ declaration.isPrefixOf piece then
        if (piece.drop declaration.length).all isSpace then some rest else none
      else if front.all isSpace then some pieces else none
    | [] => none

/-- The open elements, the innermost one first, end in that order, and nothing comes behind the last. -/
def closes : List String → List Event → Bool
  | [], events => events.isEmpty
  | _ :: _, [] => false
  | top :: opened, .start name _ :: events => closes (name :: top :: opened) events
  | top :: opened, .stop name :: events => name == top && closes opened events
  | top :: opened, .text _ :: events => closes (top :: opened) events

def isRooted : List Event → Bool
  | .start name _ :: events => closes [name] events
  | _ => false

def read? (text : String) : Option (List Event) := do
  let pieces ← behindDeclaration? (split '<' (lineEnds text.toList))
  let events ← events? pieces
  if isRooted events then some events else none

def Legal (text : String) : Prop := ∀ c ∈ text.toList, isChar c = true

instance (text : String) : Decidable (Legal text) :=
  decidable_of_iff (text.toList.all isChar = true) List.all_eq_true

/-- Every character stands for itself, also in a value: none is a control character in front of the
blank, and none is one of the two that are no characters. -/
def Plain (text : String) : Prop :=
  ∀ c ∈ text.toList, 0x20 ≤ c.toNat ∧ c.toNat ≠ 0xFFFE ∧ c.toNat ≠ 0xFFFF

instance (text : String) : Decidable (Plain text) :=
  decidable_of_decidable_of_iff
    (p := (text.toList.all fun c =>
      decide (0x20 ≤ c.toNat ∧ c.toNat ≠ 0xFFFE ∧ c.toNat ≠ 0xFFFF)) = true)
    (by simp only [Plain, List.all_eq_true, decide_eq_true_eq])

theorem plain_iff (text : String) : Plain text ↔ Legal text ∧ normal text = text := by
  rw [normal_eq_self_iff]
  constructor
  · intro h
    constructor
    · intro c hc
      obtain ⟨hlow, hapart⟩ := h c hc
      exact (isChar_iff c).mpr ⟨.inr (.inr (.inr hlow)), hapart⟩
    · intro c hc
      have hlow := (h c hc).1
      refine ⟨?_, ?_, ?_⟩ <;> rintro rfl <;> exact absurd hlow (by decide)
  · rintro ⟨hlegal, hspaces⟩ c hc
    obtain ⟨hlow, hapart⟩ := (isChar_iff c).mp (hlegal c hc)
    obtain ⟨htab, hfeed, hreturn⟩ := hspaces c hc
    exact ⟨((hlow.resolve_left htab).resolve_left hfeed).resolve_left hreturn, hapart⟩

/-- The text is a well-formed document in which a reader meets these events. -/
structure Reads (text : String) (events : List Event) : Prop where
  legal : Legal text
  read : read? text = some events

/-- The values that an attribute has in the elements of a name, in order. -/
def valuesOf (element label : String) (events : List Event) : List String :=
  events.filterMap fun
    | .start name attributes => if name = element then attributes.lookup label else none
    | _ => none

/-- Quotes of both kinds, references, line ends and an element with nothing inside. -/
example : read? "<?xml version=\"1.0\"?>\r\n<a>x&#x41;\r\n<b c='\"&lt;\t' d = \"&#10;\r\n\" /></a>\n" =
    some [.start "a" [], .text "xA\n", .start "b" [("c", "\"< "), ("d", "\n ")], .stop "b",
      .text "", .stop "a"] := by decide +kernel

/-- An element that is not closed in time, a bare ampersand, and an attribute given twice. -/
example : [read? "<a><b></a></b>", read? "<a>&</a>", read? "<a b=\"1\" b=\"2\"/>", read? "<a/><b/>"] =
    [none, none, none, none] := by decide +kernel

end SipNotifier.Xml
