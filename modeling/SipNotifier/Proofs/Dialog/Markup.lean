import SipNotifier.Dialog.Document
import SipNotifier.Text.Split

/-! Markup as it is written and as it is read. A tag is written with its values escaped and read by
cutting at the marks: a tag ends at the next `>`, a value at the next quote, and the entities in a
value are undone. Escaped values hold no mark, so reading undoes writing (`readTags_written`), and
the marks of a text count its tags and their attributes, whatever the values are
(`delimiters_written`). -/
namespace SipNotifier.Dialog
set_option autoImplicit false

/-! ## Values -/

/-- Undoes the five entities; any other ampersand stands for itself. -/
def unescape : List Char → List Char
  | '&' :: 'l' :: 't' :: ';' :: cs => '<' :: unescape cs
  | '&' :: 'g' :: 't' :: ';' :: cs => '>' :: unescape cs
  | '&' :: 'a' :: 'm' :: 'p' :: ';' :: cs => '&' :: unescape cs
  | '&' :: 'a' :: 'p' :: 'o' :: 's' :: ';' :: cs => '\'' :: unescape cs
  | '&' :: 'q' :: 'u' :: 'o' :: 't' :: ';' :: cs => '"' :: unescape cs
  | c :: cs => c :: unescape cs
  | [] => []

theorem unescape_cons (c : Char) (cs : List Char) (h : c ≠ '&') :
    unescape (c :: cs) = c :: unescape cs := by
  rw [unescape] <;> exact fun _ hc => absurd hc h

theorem unescape_escapeChar (c : Char) (cs : List Char) :
    unescape (escapeChar c ++ cs) = c :: unescape cs := by
  unfold escapeChar
  split
  · rfl
  · rfl
  · rfl
  · rfl
  · rfl
  · next hlt hgt hamp hapos hquot => exact unescape_cons c cs hamp

theorem unescape_escape (cs : List Char) : unescape (cs.flatMap escapeChar) = cs := by
  induction cs with
  | nil => rfl
  | cons c cs ih => rw [List.flatMap_cons, unescape_escapeChar, ih]

/-! ## Marks -/

/-- The marks that give a document its structure. -/
def isDelimiter (c : Char) : Bool := c == '<' || c == '>' || c == '"'

def delimiters (cs : List Char) : List Char := cs.filter isDelimiter

theorem delimiters_append (a b : List Char) : delimiters (a ++ b) = delimiters a ++ delimiters b :=
  List.filter_append a b

theorem delimiters_escapeChar (c : Char) : delimiters (escapeChar c) = [] := by
  unfold escapeChar
  split
  · rfl
  · rfl
  · rfl
  · rfl
  · rfl
  · next hlt hgt hamp hapos hquot => simpa [delimiters, isDelimiter] using ⟨⟨hlt, hgt⟩, hquot⟩

theorem delimiters_escape (cs : List Char) : delimiters (cs.flatMap escapeChar) = [] := by
  induction cs with
  | nil => rfl
  | cons c cs ih => rw [List.flatMap_cons, delimiters_append, delimiters_escapeChar, ih]; rfl

theorem notMem_of_delimiters (c : Char) (cs : List Char) (h : delimiters cs = [])
    (hc : isDelimiter c = true) : c ∉ cs := by
  intro hmem
  rw [delimiters, List.filter_eq_nil_iff] at h
  exact h c hmem hc

/-! ## Tags -/

/-- A tag and the text behind it, up to the next tag. -/
structure Tag where
  name : String
  attributes : List (String × String)
  /-- What stands in front of the closing mark: a stroke where nothing is inside. -/
  ending : String
  text : String
  deriving DecidableEq, Repr

/-- What stands between the marks of a tag. -/
def Tag.inside (t : Tag) : List Char :=
  t.name.toList ++ t.attributes.flatMap (fun a => (quoted a.1 a.2).toList) ++ t.ending.toList

def Tag.write (t : Tag) : List Char := '<' :: t.inside ++ '>' :: t.text.toList

/-- Names and values by turns, with the ending last. -/
def readAttributes : List (List Char) → List (String × String) × String
  | name :: value :: rest =>
    let (found, ending) := readAttributes rest
    ((String.ofList ((name.drop 1).takeWhile (· != '=')), String.ofList (unescape value)) :: found,
      ending)
  | [ending] => ([], String.ofList ending)
  | [] => ([], "")

/-- Reads a tag behind its opening mark. -/
def Tag.read (cs : List Char) : Tag :=
  let inside := cs.takeWhile (· != '>')
  let (attributes, ending) := readAttributes (Text.split '"' (inside.dropWhile (· != ' ')))
  { name := String.ofList (inside.takeWhile (· != ' ')), attributes := attributes
    ending := ending, text := String.ofList ((cs.dropWhile (· != '>')).drop 1) }

/-- The tags of a text, in order. -/
def readTags (text : String) : List Tag := ((Text.split '<' text.toList).drop 1).map Tag.read

/-! ## Reading what was written -/

/-- A word in front of which a value can start: no mark, no blank and no equals sign. -/
def IsWord (s : String) : Prop := ∀ c ∈ s.toList, isDelimiter c = false ∧ c ≠ ' ' ∧ c ≠ '='

instance (s : String) : Decidable (IsWord s) :=
  decidable_of_decidable_of_iff
    (p := (s.toList.all fun c => decide (isDelimiter c = false ∧ c ≠ ' ' ∧ c ≠ '=')) = true)
    (by simp only [IsWord, List.all_eq_true, decide_eq_true_eq])

/-- The names are words, and only values hold what comes from outside. -/
structure Tag.WellFormed (t : Tag) : Prop where
  name : IsWord t.name
  attributes : ∀ a ∈ t.attributes, IsWord a.1
  ending : IsWord t.ending
  bare : t.attributes = [] → t.ending = ""
  text : delimiters t.text.toList = []

theorem IsWord.delimiters (s : String) (h : IsWord s) : delimiters s.toList = [] := by
  rw [Dialog.delimiters, List.filter_eq_nil_iff]
  intro c hc
  rw [(h c hc).1]
  decide

theorem toList_quoted (name value : String) : (quoted name value).toList =
    ' ' :: name.toList ++ '=' :: '"' :: value.toList.flatMap escapeChar ++ ['"'] := by
  simp [quoted, escape, String.toList_append]

theorem readAttributes_written (attributes : List (String × String)) (ending : String)
    (h : ∀ a ∈ attributes, IsWord a.1) (he : IsWord ending) :
    readAttributes (Text.split '"' (attributes.flatMap (fun a => (quoted a.1 a.2).toList) ++
      ending.toList)) = (attributes, ending) := by
  induction attributes with
  | nil =>
    have hquote := notMem_of_delimiters '"' _ he.delimiters rfl
    simp [Text.split_of_notMem _ _ hquote, readAttributes]
  | cons a rest ih =>
    obtain ⟨name, value⟩ := a
    have hname := h (name, value) List.mem_cons_self
    have hequals : '=' ∉ name.toList := fun hmem => (hname '=' hmem).2.2 rfl
    have hbefore : '"' ∉ ' ' :: (name.toList ++ ['=']) := by
      simpa using notMem_of_delimiters '"' _ hname.delimiters rfl
    have hvalue := notMem_of_delimiters '"' _ (delimiters_escape value.toList) rfl
    have hsplit : ((name, value) :: rest).flatMap (fun a => (quoted a.1 a.2).toList) ++
        ending.toList = (' ' :: (name.toList ++ ['='])) ++ '"' ::
          (value.toList.flatMap escapeChar ++ '"' ::
            (rest.flatMap (fun a => (quoted a.1 a.2).toList) ++ ending.toList)) := by
      simp [toList_quoted]
    have hword : (name.toList ++ ['=']).takeWhile (· != '=') = name.toList := by
      rw [List.takeWhile_append_of_pos]
      · simp
      · intro c hc
        simpa using fun hce : c = '=' => hequals (hce ▸ hc)
    rw [hsplit, Text.split_append_cons _ _ _ hbefore, Text.split_append_cons _ _ _ hvalue]
    simp [readAttributes, ih fun a ha => h a (List.mem_cons_of_mem _ ha), hword, unescape_escape]

theorem delimiters_quoted (name value : String) (h : IsWord name) :
    delimiters (quoted name value).toList = ['"', '"'] := by
  have hname := h.delimiters
  have hvalue := delimiters_escape value.toList
  rw [toList_quoted]
  simp only [delimiters] at hname hvalue ⊢
  simp [hname, hvalue, isDelimiter]

theorem delimiters_attributes (attributes : List (String × String))
    (h : ∀ a ∈ attributes, IsWord a.1) :
    delimiters (attributes.flatMap fun a => (quoted a.1 a.2).toList) =
      List.replicate (2 * attributes.length) '"' := by
  induction attributes with
  | nil => rfl
  | cons a rest ih =>
    have hfirst := delimiters_quoted a.1 a.2 (h a List.mem_cons_self)
    have hrest := ih fun b hb => h b (List.mem_cons_of_mem _ hb)
    rw [List.flatMap_cons, delimiters_append, hfirst, hrest]
    rfl

namespace Tag

theorem delimiters_inside (t : Tag) (h : t.WellFormed) :
    delimiters t.inside = List.replicate (2 * t.attributes.length) '"' := by
  rw [inside, delimiters_append, delimiters_append, delimiters_attributes _ h.attributes,
    h.name.delimiters, h.ending.delimiters]
  simp

theorem notMem_inside (t : Tag) (h : t.WellFormed) : '<' ∉ t.inside ∧ '>' ∉ t.inside := by
  have hquotes : ∀ c ∈ t.inside, isDelimiter c = true → c = '"' := by
    intro c hc hd
    have hmem : c ∈ delimiters t.inside := List.mem_filter.mpr ⟨hc, hd⟩
    rw [delimiters_inside t h] at hmem
    exact (List.mem_replicate.mp hmem).2
  exact ⟨fun hc => absurd (hquotes _ hc rfl) (by decide),
    fun hc => absurd (hquotes _ hc rfl) (by decide)⟩

/-- The marks of a tag and how many attributes lie between them. -/
def marks (attributes : Nat) : List Char := '<' :: List.replicate (2 * attributes) '"' ++ ['>']

theorem delimiters_write (t : Tag) (h : t.WellFormed) :
    delimiters t.write = marks t.attributes.length := by
  have hinside := delimiters_inside t h
  have htext := h.text
  simp only [delimiters] at hinside htext
  simp [write, delimiters, hinside, htext, isDelimiter, marks]

/-- Behind the name there is a blank, or nothing at all. -/
theorem inside_words (t : Tag) (h : t.WellFormed) :
    t.inside.takeWhile (· != ' ') = t.name.toList ∧
      t.inside.dropWhile (· != ' ') =
        t.attributes.flatMap (fun a => (quoted a.1 a.2).toList) ++ t.ending.toList := by
  rw [inside, List.append_assoc]
  refine Text.takeWhile_append_stop _ _ _ (fun c hc => by simpa using (h.name c hc).2.1) ?_
  cases hattributes : t.attributes with
  | nil => simp [h.bare hattributes]
  | cons a rest => simp [toList_quoted]

theorem read_inside (t : Tag) (h : t.WellFormed) : Tag.read (t.inside ++ '>' :: t.text.toList) = t := by
  have hclose : ∀ c ∈ t.inside, (c != '>') = true := by
    intro c hc
    simpa using fun he : c = '>' => (notMem_inside t h).2 (he ▸ hc)
  obtain ⟨hinside, htext⟩ := Text.takeWhile_append_stop _ t.inside ('>' :: t.text.toList) hclose (by simp)
  obtain ⟨hname, hrest⟩ := inside_words t h
  have hattributes := readAttributes_written t.attributes t.ending h.attributes h.ending
  simp [Tag.read, hinside, htext, hname, hrest, hattributes]

end Tag

/-! ## Whole texts -/

/-- What stands between the opening mark of a tag and the next one. -/
def Tag.piece (t : Tag) : List Char := t.inside ++ '>' :: t.text.toList

theorem flatMap_write (tags : List Tag) :
    tags.flatMap Tag.write = (tags.map Tag.piece).flatMap ('<' :: ·) := by
  rw [List.flatMap_map]
  rfl

theorem Tag.notMem_piece (t : Tag) (h : t.WellFormed) : '<' ∉ t.piece := by
  have htext := notMem_of_delimiters '<' _ h.text rfl
  simp [piece, (t.notMem_inside h).1, htext]

theorem readTags_written (text : String) (tags : List Tag) (h : ∀ t ∈ tags, t.WellFormed)
    (ht : text.toList = tags.flatMap Tag.write) : readTags text = tags := by
  have hpieces : ∀ piece ∈ tags.map Tag.piece, '<' ∉ piece := by
    intro piece hmem
    obtain ⟨t, ht, rfl⟩ := List.mem_map.mp hmem
    exact t.notMem_piece (h t ht)
  have hsplit := Text.split_pieces '<' [] _ List.not_mem_nil hpieces
  rw [List.nil_append, ← flatMap_write] at hsplit
  have hread : ∀ t ∈ tags, Tag.read t.piece = id t := fun t hmem => Tag.read_inside t (h t hmem)
  rw [readTags, ht, hsplit, List.drop_succ_cons, List.drop_zero, List.map_map]
  exact (List.map_congr_left hread).trans (List.map_id tags)

theorem delimiters_written (tags : List Tag) (h : ∀ t ∈ tags, t.WellFormed) :
    delimiters (tags.flatMap Tag.write) = tags.flatMap fun t => Tag.marks t.attributes.length := by
  induction tags with
  | nil => rfl
  | cons t rest ih =>
    have hrest := ih fun u hu => h u (List.mem_cons_of_mem _ hu)
    rw [List.flatMap_cons, delimiters_append, Tag.delimiters_write t (h t List.mem_cons_self), hrest,
      List.flatMap_cons]

end SipNotifier.Dialog
