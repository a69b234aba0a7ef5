import SipNotifier.Proofs.Dialog.ReadBack
import SipNotifier.Proofs.Uri.Grammar
import SipNotifier.Proofs.Xml.Reader

/-! Dialog documents as XML. Whatever texts a document is made from, a reader finds one root element with
its tags in balance, and each text as its value, with the line ends and spaces in it made blanks
(`read?_document`). The document is well formed exactly if all these texts are of characters that a
document may have (`legal_document_iff`): no reference helps the others, and none is written for the
spaces. -/
namespace SipNotifier.Dialog
open Xml
set_option autoImplicit false

/-! ## Values -/

theorem lineEnds_escapeChar (c : Char) (cs : List Char) (h : c ≠ '\r') :
    lineEnds (escapeChar c ++ cs) = escapeChar c ++ lineEnds cs := by
  have hplain : '\r' ∉ escapeChar c := by
    unfold escapeChar
    split
    · decide
    · decide
    · decide
    · decide
    · decide
    · simpa using Ne.symm h
  exact lineEnds_plain_append _ _ hplain

theorem head?_escape (cs : List Char) :
    (cs.flatMap escapeChar).head? = some '\n' ↔ cs.head? = some '\n' := by
  cases cs with
  | nil => rfl
  | cons c cs =>
    rw [List.flatMap_cons]
    unfold escapeChar
    split <;> simp

/-- Escaping leaves the line ends of a value to the reader. -/
theorem lineEnds_escape (cs : List Char) :
    lineEnds (cs.flatMap escapeChar) = (lineEnds cs).flatMap escapeChar := by
  induction cs with
  | nil => rfl
  | cons c cs ih =>
    by_cases hc : c = '\r'
    · subst hc
      have hwritten : ('\r' :: cs).flatMap escapeChar = '\r' :: cs.flatMap escapeChar := rfl
      have hfeed : escapeChar '\n' = ['\n'] := rfl
      simp only [hwritten, lineEnds, head?_escape, ih, true_and, if_true]
      split
      · rfl
      · rw [List.flatMap_cons, hfeed, List.singleton_append]
    · rw [List.flatMap_cons, lineEnds_escapeChar c _ hc, lineEnds, if_neg (fun h => hc h.1), if_neg hc,
        List.flatMap_cons, ih]

theorem resolve?_escapeChar (c : Char) (cs : List Char) :
    resolve? flatten none (escapeChar c ++ cs) = (resolve? flatten none cs).map (flatten c :: ·) := by
  unfold escapeChar
  split
  · rfl
  · rfl
  · rfl
  · rfl
  · rfl
  · next hlt hgt hamp hapos hquot => exact if_neg hamp

theorem resolve?_escape (cs : List Char) :
    resolve? flatten none (cs.flatMap escapeChar) = some (cs.map flatten) := by
  induction cs with
  | nil => rfl
  | cons c cs ih =>
    rw [List.flatMap_cons, resolve?_escapeChar, ih]
    rfl

theorem isChar_escapeChar (c : Char) : (∀ d ∈ escapeChar c, isChar d = true) ↔ isChar c = true := by
  rw [← List.all_eq_true]
  unfold escapeChar
  split
  · decide
  · decide
  · decide
  · decide
  · decide
  · simp

/-! ## Tags -/

/-- The pieces between the quotes of attributes, and what stands behind the last of them. -/
def quotedPieces (ending : List Char) : List (String × String) → List (List Char)
  | [] => [ending]
  | (name, value) :: rest =>
    (' ' :: (name.toList ++ ['='])) :: (lineEnds value.toList).flatMap escapeChar ::
      quotedPieces ending rest

def seen (attributes : List (String × String)) : List (String × String) :=
  attributes.map fun a => (a.1, normal a.2)

theorem parts?_attributes (attributes : List (String × String)) (ending text : List Char)
    (h : ∀ a ∈ attributes, isName a.1.toList = true) (hending : Unmarked ending) :
    parts? none (lineEnds (attributes.flatMap (fun a => (quoted a.1 a.2).toList) ++
      (ending ++ '>' :: text))) = some (quotedPieces ending attributes, lineEnds text) := by
  induction attributes with
  | nil =>
    rw [List.flatMap_nil, List.nil_append, parts?_unmarked _ _ hending, parts?_closed]
    simp [quotedPieces]
  | cons a rest ih =>
    obtain ⟨name, value⟩ := a
    have hname := unmarked_of_isName _ (h (name, value) List.mem_cons_self)
    have hmore := ih fun b hb => h b (List.mem_cons_of_mem _ hb)
    generalize htail : rest.flatMap (fun a => (quoted a.1 a.2).toList) ++ (ending ++ '>' :: text) = tail
      at hmore
    have hsplit : ((name, value) :: rest).flatMap (fun a => (quoted a.1 a.2).toList) ++
        (ending ++ '>' :: text) = (' ' :: (name.toList ++ ['='])) ++
          (['"'] ++ (value.toList.flatMap escapeChar ++ '"' :: tail)) := by
      simp [toList_quoted, ← htail]
    have hlabel : Unmarked (' ' :: (name.toList ++ ['='])) := by
      intro c hc
      simp only [List.mem_cons, List.mem_append, List.not_mem_nil, or_false] at hc
      rcases hc with rfl | hc | rfl
      · decide
      · exact hname c hc
      · decide
    have hquote : ∀ cs, lineEnds ('"' :: cs) = '"' :: lineEnds cs := fun cs =>
      lineEnds_plain_append ['"'] cs (by decide)
    -- the line ends of the value and of the rest are taken apart at the quote between them
    have hends : lineEnds (['"'] ++ (value.toList.flatMap escapeChar ++ '"' :: tail)) =
        '"' :: (lineEnds value.toList).flatMap escapeChar ++ '"' :: lineEnds tail := by
      rw [List.singleton_append, hquote, lineEnds_append _ _ (by simp), lineEnds_escape, hquote,
        List.cons_append]
    have hvalue := notMem_of_delimiters '"' _ (delimiters_escape (lineEnds value.toList)) rfl
    rw [hsplit, parts?_unmarked _ _ hlabel, hends, parts?_value _ _ hvalue, hmore]
    simp [quotedPieces]

theorem attributes?_quotedPieces (attributes : List (String × String)) (ending : List Char)
    (h : ∀ a ∈ attributes, isName a.1.toList = true) :
    attributes? (quotedPieces ending attributes) = some (seen attributes, ending) := by
  induction attributes with
  | nil => rfl
  | cons a rest ih =>
    obtain ⟨name, value⟩ := a
    have hlabel := label?_written name.toList (h (name, value) List.mem_cons_self)
    have hmore := ih fun b hb => h b (List.mem_cons_of_mem _ hb)
    simp [quotedPieces, attributes?, hlabel, resolve?_escape, hmore, seen, normal]

namespace Tag

/-- A tag with names that a reader takes as such, no two of its attributes having the same one. -/
structure Opens (t : Tag) : Prop where
  name : isName t.name.toList = true
  attributes : ∀ a ∈ t.attributes, isName a.1.toList = true
  unique : (t.attributes.map Prod.fst).Nodup
  ending : t.ending = "" ∨ t.ending = "/"

inductive Legible : Tag → Prop
  | opening (t : Tag) (h : t.Opens) : Legible t
  | closing (name text : String) (h : isName name.toList = true) :
      Legible (.bare ("/" ++ name) text)

def events (t : Tag) : List Event :=
  if t.name.toList.head? = some '/' then [.stop (String.ofList (t.name.toList.drop 1))]
  else .start t.name (seen t.attributes) :: if t.ending = "/" then [.stop t.name] else []

theorem tagOf?_opening (t : Tag) (h : t.Opens) :
    tagOf? ((quotedPieces t.ending.toList t.attributes).modifyHead (t.name.toList ++ ·)) =
      startTag? (quotedPieces t.ending.toList t.attributes) t.name.toList := by
  -- behind the name in the first piece there is a blank, a stroke or nothing
  cases hattributes : t.attributes with
  | nil =>
    have hstroke : isNameChar '/' = false := by decide
    refine tagOf?_start t.name.toList t.ending.toList [] h.name ?_
    rcases h.ending with he | he <;> simp [he, hstroke]
  | cons a rest =>
    refine tagOf?_start t.name.toList (' ' :: (a.1.toList ++ ['='])) _ h.name fun c hc => ?_
    obtain rfl : ' ' = c := Option.some.inj hc
    decide

theorem startTag?_opening (t : Tag) (h : t.Opens) :
    startTag? (quotedPieces t.ending.toList t.attributes) t.name.toList = some t.events := by
  have hattributes := attributes?_quotedPieces t.attributes t.ending.toList h.attributes
  have hunique : ((seen t.attributes).map Prod.fst).Nodup := by
    have hsame : (seen t.attributes).map Prod.fst = t.attributes.map Prod.fst := by
      simp [seen, Function.comp_def]
    rw [hsame]
    exact h.unique
  have hfirst : ¬ t.name.toList.head? = some '/' := fun hhead =>
    (isNameChar_apart '/' (isNameChar_of_isName _ h.name '/' (List.mem_of_mem_head? hhead))).2.2.1 rfl
  simp only [startTag?, hattributes, Option.bind_eq_bind, Option.bind_some, h.name, hunique, and_self,
    if_true, events, hfirst, if_false, String.ofList_toList]
  rcases h.ending with he | he <;> simp [he, isSpace]

theorem tag?_opening (t : Tag) (h : t.Opens) :
    tag? (lineEnds t.piece) = some (t.events, lineEnds t.text.toList) := by
  have hending : Unmarked t.ending.toList := by
    rcases h.ending with he | he <;> simp [he, Unmarked, isQuote]
  have hparts := parts?_attributes t.attributes t.ending.toList t.text.toList h.attributes hending
  generalize hbehind : t.attributes.flatMap (fun a => (quoted a.1 a.2).toList) ++
    (t.ending.toList ++ '>' :: t.text.toList) = behind at hparts
  have hpiece : t.piece = t.name.toList ++ behind := by
    simp [piece, inside, ← hbehind]
  have hcut := parts?_unmarked t.name.toList behind (unmarked_of_isName _ h.name)
  rw [hparts, ← hpiece] at hcut
  simp [tag?, hcut, tagOf?_opening t h, startTag?_opening t h]

theorem tag?_closing (name text : String) (h : isName name.toList = true) :
    tag? (lineEnds (Tag.bare ("/" ++ name) text).piece) =
      some ((Tag.bare ("/" ++ name) text).events, lineEnds text.toList) := by
  have hpiece : (Tag.bare ("/" ++ name) text).piece = ('/' :: name.toList) ++ '>' :: text.toList := by
    simp [piece, inside, bare, String.toList_append]
  have hlabel : Unmarked ('/' :: name.toList) := by
    intro c hc
    rcases List.mem_cons.mp hc with rfl | hc
    · decide
    · exact unmarked_of_isName _ h c hc
  have htag : tagOf? [('/' :: name.toList)] = some [.stop name] := by
    rw [tagOf?, stopTag?_name _ h, String.ofList_toList]
  have hevents : (Tag.bare ("/" ++ name) text).events = [.stop name] := by
    simp [events, bare, String.toList_append]
  rw [hpiece, tag?, parts?_unmarked _ _ hlabel, parts?_closed, hevents]
  simp [htag]

theorem tag?_piece (t : Tag) (h : t.Legible) :
    tag? (lineEnds t.piece) = some (t.events, lineEnds t.text.toList) := by
  cases h with
  | opening _ h => exact t.tag?_opening h
  | closing name text h => exact tag?_closing name text h

end Tag

/-! ## Whole texts -/

/-- What stands behind a tag is met as it is, up to its line ends. -/
def ended (text : String) : String := String.ofList (lineEnds text.toList)

/-- What a reader meets at tags, and between them. -/
def eventsOf : List Tag → List Event
  | [] => []
  | [last] => last.events
  | t :: next :: rest => t.events ++ .text (ended t.text) :: eventsOf (next :: rest)

/-- A text that holds no reference and cannot be taken for the end of a CDATA section. -/
structure Bland (text : String) : Prop where
  reference : '&' ∉ text.toList
  bracket : ']' ∉ text.toList
  legal : Legal text

instance (text : String) : Decidable (Bland text) :=
  decidable_of_iff ('&' ∉ text.toList ∧ ']' ∉ text.toList ∧ Legal text)
    ⟨fun h => ⟨h.1, h.2.1, h.2.2⟩, fun h => ⟨h.reference, h.bracket, h.legal⟩⟩

theorem text?_bland (text : String) (h : Bland text) :
    text? (lineEnds text.toList) = some (.text (ended text)) := by
  have hkept : ∀ c : Char, c ≠ '\n' → c ∉ text.toList → c ∉ lineEnds text.toList :=
    fun c hc hnot hmem => (mem_lineEnds c _ hmem).elim hnot hc
  exact text?_plain _ (hkept '&' (by decide) h.reference) (hkept ']' (by decide) h.bracket)

theorem events?_pieces (tags : List Tag) (h : ∀ t ∈ tags, t.Legible)
    (htext : ∀ t ∈ tags, Bland t.text)
    (hlast : ∀ t ∈ tags.getLast?, (lineEnds t.text.toList).all isSpace = true) :
    events? (tags.map fun t => lineEnds t.piece) = some (eventsOf tags) := by
  induction tags with
  | nil => rfl
  | cons t tags ih =>
    have ht := t.tag?_piece (h t List.mem_cons_self)
    cases tags with
    | nil =>
      have hspaces := hlast t (by simp)
      rw [List.map_cons, List.map_nil, events?, ht]
      simp only [Option.bind_eq_bind, Option.bind_some, hspaces, if_true]
      rfl
    | cons next rest =>
      have hmore := ih (fun u hu => h u (List.mem_cons_of_mem _ hu))
        (fun u hu => htext u (List.mem_cons_of_mem _ hu)) fun u hu => hlast u (by simpa using hu)
      have htold := text?_bland t.text (htext t List.mem_cons_self)
      simp only [List.map_cons] at hmore ⊢
      simp [events?, ht, htold, hmore, eventsOf]

/-! ## Documents -/

/-- The tags of a document behind its declaration. -/
def contentTags (version : Nat) (entity : String) (element : Option Element) : List Tag :=
  (documentTags version entity element).drop 1

theorem Tag.legible_bare (name text : String) (h : isName name.toList = true) :
    (Tag.bare name text).Legible :=
  .opening _ ⟨h, by simp [bare], by simp [bare], .inl rfl⟩

theorem Element.tags_legible (e : Element) (entity : String) :
    ∀ t ∈ e.tags entity, t.Legible ∧ Bland t.text := by
  have hstate : Bland e.state.name := by
    cases e.state <;> decide
  simp only [Element.tags, List.forall_mem_cons, List.not_mem_nil, false_implies, implies_true,
    and_true]
  refine ⟨⟨.opening _ ?dialog, (by decide : Bland "\r\n    ")⟩,
    ⟨Tag.legible_bare _ _ (by decide), hstate⟩,
    ⟨.closing "state" _ (by decide), (by decide : Bland "\r\n    ")⟩,
    ⟨Tag.legible_bare _ _ (by decide), (by decide : Bland "")⟩,
    ⟨.opening _ ?target, (by decide : Bland "")⟩,
    ⟨.closing "remote" _ (by decide), (by decide : Bland "\r\n  ")⟩,
    ⟨.closing "dialog" _ (by decide), (by decide : Bland "\r\n")⟩⟩
  case dialog =>
    exact {
      name := (by decide : isName "dialog".toList = true)
      attributes := by cases e.direction <;> simp <;> decide
      unique := by cases e.direction <;> simp
      ending := .inl rfl }
  case target =>
    exact {
      name := (by decide : isName "target".toList = true)
      attributes := by simpa using (by decide : isName "uri".toList = true)
      unique := by simp
      ending := .inr rfl }

theorem contentTags_eq (version : Nat) (entity : String) (element : Option Element) :
    contentTags version entity element =
      { name := "dialog-info"
        attributes := [("xmlns", "urn:ietf:params:xml:ns:dialog-info"), ("version", Nat.repr version),
          ("entity", entity), ("notify-state", "full")]
        ending := "", text := if element.isSome then "\r\n  " else "\r\n" } ::
      (element.elim [] (fun e => e.tags entity) ++ [.bare "/dialog-info" "\r\n"]) := rfl

theorem contentTags_legible (version : Nat) (entity : String) (element : Option Element) :
    ∀ t ∈ contentTags version entity element, t.Legible ∧ Bland t.text := by
  have helement : ∀ t ∈ element.elim [] (fun e => e.tags entity), t.Legible ∧ Bland t.text := by
    cases element with
    | none => simp
    | some e => exact e.tags_legible entity
  have htext : Bland (if element.isSome then "\r\n  " else "\r\n") := by
    split <;> decide
  rw [contentTags_eq]
  simp only [List.forall_mem_append, List.forall_mem_cons, List.not_mem_nil, false_implies, implies_true,
    and_true]
  refine ⟨⟨.opening _ ?info, htext⟩, helement, .closing "dialog-info" _ (by decide),
    (by decide : Bland "\r\n")⟩
  case info =>
    exact {
      name := (by decide : isName "dialog-info".toList = true)
      attributes := by simp; decide
      unique := by simp
      ending := .inl rfl }

def documentEvents (version : Nat) (entity : String) (element : Option Element) : List Event :=
  eventsOf (contentTags version entity element)

theorem isRooted_document (version : Nat) (entity : String) (element : Option Element) :
    isRooted (documentEvents version entity element) = true := by
  cases element with
  | none =>
    simp [documentEvents, contentTags, documentTags, eventsOf, Tag.events, Tag.bare, isRooted, closes]
  | some e =>
    simp [documentEvents, contentTags, documentTags, Element.tags, eventsOf, Tag.events, Tag.bare,
      isRooted, closes]

theorem split_document (version : Nat) (entity : String) (element : Option Element) :
    Text.split '<' (lineEnds (document version entity element).toList) =
      [] :: (declaration ++ ['\n']) :: (contentTags version entity element).map fun t =>
        lineEnds t.piece := by
  have htags := documentTags_wellFormed version entity element
  have hfree : ∀ piece ∈ ((documentTags version entity element).map Tag.piece).map lineEnds,
      '<' ∉ piece := by
    intro piece hpiece hmark
    simp only [List.mem_map] at hpiece
    obtain ⟨_, ⟨t, ht, rfl⟩, rfl⟩ := hpiece
    exact (mem_lineEnds '<' _ hmark).elim (t.notMem_piece (htags t ht)) (by decide)
  have hsplit := Text.split_pieces '<' [] _ List.not_mem_nil hfree
  rw [List.nil_append, ← lineEnds_pieces, ← flatMap_write, ← toList_document, List.map_map] at hsplit
  have hfirst : lineEnds (Tag.mk "?xml" [("version", "1.0")] "?" "\r\n").piece =
      declaration ++ ['\n'] := by
    decide
  rw [hsplit, ← hfirst]
  rfl

/-- Every document can be read, whatever it is made from. -/
theorem read?_document (version : Nat) (entity : String) (element : Option Element) :
    read? (document version entity element) = some (documentEvents version entity element) := by
  have htags := contentTags_legible version entity element
  have hlast : (contentTags version entity element).getLast? = some (.bare "/dialog-info" "\r\n") := by
    rw [contentTags_eq, ← List.cons_append, List.getLast?_concat]
  have hpieces := events?_pieces _ (fun t ht => (htags t ht).1) (fun t ht => (htags t ht).2)
    (fun t ht => by
      rw [hlast] at ht
      obtain rfl := Option.some.inj ht
      decide)
  have hdeclared : behindDeclaration? ([] :: (declaration ++ ['\n']) ::
      (contentTags version entity element).map fun t => lineEnds t.piece) =
        some ((contentTags version entity element).map fun t => lineEnds t.piece) := rfl
  have hrooted := isRooted_document version entity element
  rw [documentEvents] at hrooted ⊢
  simp only [read?, split_document, hdeclared, hpieces, Option.bind_eq_bind, Option.bind_some, hrooted,
    if_true]

theorem valuesOf_document (version : Nat) (entity : String) (element : Option Element) :
    valuesOf "dialog-info" "entity" (documentEvents version entity element) = [normal entity] ∧
      valuesOf "dialog" "id" (documentEvents version entity element) =
        (element.map fun e => normal e.id).toList ∧
      valuesOf "dialog" "call-id" (documentEvents version entity element) =
        (element.map fun e => normal e.id).toList := by
  cases element with
  | none =>
    simp [documentEvents, contentTags, documentTags, eventsOf, Tag.events, Tag.bare, valuesOf, seen,
      List.lookup_cons]
  | some e =>
    simp [documentEvents, contentTags, documentTags, Element.tags, eventsOf, Tag.events, Tag.bare,
      valuesOf, seen, List.lookup_cons]

/-! ## Legal characters -/

theorem legal_escape (value : String) :
    (∀ c ∈ value.toList.flatMap escapeChar, isChar c = true) ↔ Legal value := by
  simp only [List.mem_flatMap, forall_exists_index, and_imp, Legal]
  constructor
  · intro h c hc
    exact (isChar_escapeChar c).mp fun d hd => h d c hc hd
  · intro h d c hc hd
    exact (isChar_escapeChar c).mpr (h c hc) d hd

theorem legal_of_isName (name : String) (h : isName name.toList = true) : Legal name :=
  fun c hc => isChar_of_isNameChar c (isNameChar_of_isName _ h c hc)

theorem legal_quoted (name value : String) (h : isName name.toList = true) :
    Legal (quoted name value) ↔ Legal value := by
  have hname := legal_of_isName name h
  have hmarks : isChar ' ' = true ∧ isChar '=' = true ∧ isChar '"' = true := by decide
  rw [← legal_escape value]
  simp only [Legal] at hname
  simp only [Legal, toList_quoted, List.mem_append, List.mem_cons, List.not_mem_nil, or_false]
  grind

theorem legal_attributes (attributes : List (String × String))
    (h : ∀ a ∈ attributes, isName a.1.toList = true) :
    (∀ c ∈ attributes.flatMap (fun a => (quoted a.1 a.2).toList), isChar c = true) ↔
      ∀ a ∈ attributes, Legal a.2 := by
  simp only [List.mem_flatMap, forall_exists_index, and_imp]
  constructor
  · intro hall a ha
    exact (legal_quoted a.1 a.2 (h a ha)).mp fun c hc => hall c a ha hc
  · intro hall c a ha hc
    exact (legal_quoted a.1 a.2 (h a ha)).mpr (hall a ha) c hc

/-- All that can go wrong in a tag is a character of a value. -/
theorem Tag.legal_write (t : Tag) (h : t.Legible) (hb : Bland t.text) :
    (∀ c ∈ t.write, isChar c = true) ↔ ∀ a ∈ t.attributes, Legal a.2 := by
  have hmarks : isChar '<' = true ∧ isChar '>' = true ∧ isChar '/' = true := by decide
  have htext := hb.legal
  cases h with
  | opening _ h =>
    have hname := legal_of_isName _ h.name
    have hending : Legal t.ending := by
      rcases h.ending with he | he <;> rw [he] <;> decide
    rw [← legal_attributes t.attributes h.attributes]
    simp only [Legal] at hname hending htext
    simp only [write, inside, List.mem_append, List.mem_cons]
    grind
  | closing name text h =>
    have hname := legal_of_isName _ h
    simp only [Legal] at hname htext
    simp only [write, inside, bare, String.toList_append, List.mem_append, List.mem_cons] at htext ⊢
    grind

theorem legal_repr (n : Nat) : Legal (Nat.repr n) := by
  intro c hc
  rw [Nat.repr_eq_ofList_toDigits, String.toList_ofList] at hc
  have hdigit := Nat.isDigit_of_mem_toDigits (by decide) (by decide) hc
  have hrange : 48 ≤ c.toNat ∧ c.toNat ≤ 57 := by
    simpa [Char.isDigit, UInt32.le_iff_toNat_le] using hdigit
  rw [isChar_iff]
  omega

theorem legal_target (entity : String) (h : Legal entity) : Legal (target entity) := by
  intro c hc
  rw [target, String.toList_ofList] at hc
  exact h c (Uri.mem_stripBrackets _ c hc)

theorem legal_tags (tags : List Tag) (h : ∀ t ∈ tags, t.Legible ∧ Bland t.text) :
    (∀ c ∈ tags.flatMap Tag.write, isChar c = true) ↔
      ∀ t ∈ tags, ∀ a ∈ t.attributes, Legal a.2 := by
  simp only [List.mem_flatMap, forall_exists_index, and_imp]
  constructor
  · intro hall t ht
    exact (t.legal_write (h t ht).1 (h t ht).2).mp fun c hc => hall c t ht hc
  · intro hall c t ht hc
    exact (t.legal_write (h t ht).1 (h t ht).2).mpr (hall t ht) c hc

theorem Element.legal_tags (e : Element) (entity : String) :
    (∀ t ∈ e.tags entity, ∀ a ∈ t.attributes, Legal a.2) ↔
      Legal e.id ∧ Legal e.tag ∧ Legal (target entity) := by
  have hdirection : ∀ a ∈ (e.direction.map fun d => ("direction", d.name)).toList, Legal a.2 := by
    cases e.direction with
    | none => simp
    | some d => cases d <;> decide
  simp only [Element.tags, Tag.bare, List.forall_mem_cons, List.forall_mem_append, List.not_mem_nil,
    false_implies, implies_true, and_true, true_and]
  constructor
  · rintro ⟨⟨⟨hid, -, htag, -⟩, -⟩, htarget⟩
    exact ⟨hid, htag, htarget⟩
  · rintro ⟨hid, htag, htarget⟩
    exact ⟨⟨⟨hid, hid, htag, htag⟩, hdirection⟩, htarget⟩

theorem legal_document_iff (version : Nat) (entity : String) (element : Option Element) :
    Legal (document version entity element) ↔
      Legal entity ∧ ∀ e ∈ element, Legal e.id ∧ Legal e.tag := by
  have hsplit : (document version entity element).toList =
      (Tag.mk "?xml" [("version", "1.0")] "?" "\r\n").write ++
        (contentTags version entity element).flatMap Tag.write := by
    rw [toList_document]
    rfl
  have hdeclared : ∀ c ∈ (Tag.mk "?xml" [("version", "1.0")] "?" "\r\n").write, isChar c = true :=
    List.all_eq_true.mp (by decide)
  have hfixed : Legal "urn:ietf:params:xml:ns:dialog-info" ∧ Legal "full" := by decide
  have hcontent := legal_tags _ (contentTags_legible version entity element)
  rw [Legal, hsplit, List.forall_mem_append, hcontent, contentTags_eq]
  simp only [List.forall_mem_cons, List.forall_mem_append, List.not_mem_nil, false_implies, implies_true,
    and_true, Tag.bare]
  cases element with
  | none =>
    constructor
    · rintro ⟨-, ⟨-, -, hentity, -⟩, -⟩
      exact ⟨hentity, by simp⟩
    · rintro ⟨hentity, -⟩
      exact ⟨hdeclared, ⟨hfixed.1, legal_repr version, hentity, hfixed.2⟩, by simp⟩
  | some e =>
    have helement := e.legal_tags entity
    constructor
    · rintro ⟨-, ⟨-, -, hentity, -⟩, htags⟩
      obtain ⟨hid, htag, -⟩ := helement.mp htags
      exact ⟨hentity, fun d hd => Option.some.inj hd ▸ ⟨hid, htag⟩⟩
    · rintro ⟨hentity, hall⟩
      obtain ⟨hid, htag⟩ := hall e rfl
      exact ⟨hdeclared, ⟨hfixed.1, legal_repr version, hentity, hfixed.2⟩,
        helement.mpr ⟨hid, htag, legal_target entity hentity⟩⟩

/-! ## What a reader sees -/

/-- A reader takes the text as a well-formed document whose root has the entity, and whose dialog, if
there is an identifier, has it as its own and as the call's. -/
def Shows (text entity : String) (id : Option String) : Prop :=
  ∃ events, Reads text events ∧ valuesOf "dialog-info" "entity" events = [entity] ∧
    valuesOf "dialog" "id" events = id.toList ∧ valuesOf "dialog" "call-id" events = id.toList

theorem shows_document_iff (version : Nat) (entity : String) (element : Option Element)
    (htag : ∀ e ∈ element, ∀ c ∈ e.tag.toList, c ∈ entity.toList) :
    Shows (document version entity element) entity (element.map fun e => e.id) ↔
      Plain entity ∧ ∀ e ∈ element, Plain e.id := by
  have hread := read?_document version entity element
  have hlegal := legal_document_iff version entity element
  obtain ⟨hentity, hid, hcall⟩ := valuesOf_document version entity element
  constructor
  · rintro ⟨events, hreads, hroot, hdialog, -⟩
    obtain rfl : documentEvents version entity element = events :=
      Option.some.inj (hread.symm.trans hreads.read)
    obtain ⟨hlegalEntity, hlegalElement⟩ := hlegal.mp hreads.legal
    rw [hentity, List.singleton_inj] at hroot
    refine ⟨(plain_iff entity).mpr ⟨hlegalEntity, hroot⟩, ?_⟩
    rintro e rfl
    rw [hid] at hdialog
    have hkept : normal e.id = e.id := by simpa using hdialog
    exact (plain_iff e.id).mpr ⟨(hlegalElement e rfl).1, hkept⟩
  · rintro ⟨hplain, hplainId⟩
    have hentityPlain := (plain_iff entity).mp hplain
    have hkept : element.map (fun e => normal e.id) = element.map fun e => e.id :=
      Option.map_congr fun e he => ((plain_iff e.id).mp (hplainId e he)).2
    refine ⟨_, ⟨hlegal.mpr ⟨hentityPlain.1, fun e he => ⟨?_, ?_⟩⟩, hread⟩, ?_, ?_, ?_⟩
    · exact ((plain_iff e.id).mp (hplainId e he)).1
    · exact fun c hc => hentityPlain.1 c (htag e he c hc)
    · rw [hentity, hentityPlain.2]
    · rw [hid, hkept]
    · rw [hcall, hkept]

end SipNotifier.Dialog
