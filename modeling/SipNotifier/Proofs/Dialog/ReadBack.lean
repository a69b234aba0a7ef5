import SipNotifier.Proofs.Dialog.Markup
import SipNotifier.Text.Decimal

/-! Reading a dialog document back. A document is the text of a list of tags in which everything that
comes from outside stands in attribute values, so those tags are what its reader finds, and their
values are what the document was made from. The marks of a document depend on whether it has a
dialog and whether that has a direction, and on nothing else. -/
namespace SipNotifier.Dialog
set_option autoImplicit false

/-! ## The tags of a document -/

def Tag.bare (name text : String) : Tag :=
  { name := name, attributes := [], ending := "", text := text }

def Element.tags (e : Element) (entity : String) : List Tag :=
  [{ name := "dialog"
     attributes := [("id", e.id), ("call-id", e.id), ("local-tag", e.tag), ("remote-tag", e.tag)] ++
      (e.direction.map fun d => ("direction", d.name)).toList
     ending := "", text := "\r\n    " },
   .bare "state" e.state.name, .bare "/state" "\r\n    ", .bare "remote" "",
   { name := "target", attributes := [("uri", target entity)], ending := "/", text := "" },
   .bare "/remote" "\r\n  ", .bare "/dialog" "\r\n"]

def documentTags (version : Nat) (entity : String) (element : Option Element) : List Tag :=
  [{ name := "?xml", attributes := [("version", "1.0")], ending := "?", text := "\r\n" },
   { name := "dialog-info"
     attributes := [("xmlns", "urn:ietf:params:xml:ns:dialog-info"), ("version", Nat.repr version),
      ("entity", entity), ("notify-state", "full")]
     ending := "", text := if element.isSome then "\r\n  " else "\r\n" }] ++
  element.elim [] (fun e => e.tags entity) ++ [.bare "/dialog-info" "\r\n"]

theorem toList_document (version : Nat) (entity : String) (element : Option Element) :
    (document version entity element).toList =
      (documentTags version entity element).flatMap Tag.write := by
  have hxml : (quoted "version" "1.0").toList = " version=\"1.0\"".toList := by
    rw [toList_quoted]
    rfl
  unfold document
  cases element with
  | none => simp [documentTags, Tag.bare, Tag.write, Tag.inside, String.toList_append, hxml]
  | some e =>
    obtain ⟨id, tag, direction, state⟩ := e
    unfold Element.render
    cases direction <;>
      simp [documentTags, Element.tags, Tag.bare, Tag.write, Tag.inside, String.toList_append, hxml]

theorem Tag.wellFormed_bare (name text : String) (hn : IsWord name)
    (ht : delimiters text.toList = []) : (Tag.bare name text).WellFormed where
  name := hn
  attributes := by simp [Tag.bare]
  ending := (by decide : IsWord "")
  bare := fun _ => rfl
  text := ht

theorem Element.tags_wellFormed (e : Element) (entity : String) :
    ∀ t ∈ e.tags entity, t.WellFormed := by
  have hstate : delimiters e.state.name.toList = [] := by
    cases e.state <;> decide
  have hdirection : ∀ a ∈ (e.direction.map fun d => ("direction", d.name)).toList, IsWord a.1 := by
    cases e.direction with
    | none => simp
    | some d => simpa using (by decide : IsWord "direction")
  have hattributes : ∀ a ∈ [("id", e.id), ("call-id", e.id), ("local-tag", e.tag),
      ("remote-tag", e.tag)], IsWord a.1 := by
    simp only [List.forall_mem_cons, List.not_mem_nil, false_implies, implies_true, and_true]
    exact ⟨by decide, by decide, by decide, by decide⟩
  simp only [Element.tags, List.forall_mem_cons, List.not_mem_nil, false_implies, implies_true,
    and_true]
  refine ⟨?dialog, Tag.wellFormed_bare _ _ (by decide) hstate,
    Tag.wellFormed_bare _ _ (by decide) (by decide), Tag.wellFormed_bare _ _ (by decide) (by decide),
    ?target, Tag.wellFormed_bare _ _ (by decide) (by decide),
    Tag.wellFormed_bare _ _ (by decide) (by decide)⟩
  case dialog =>
    exact {
      name := (by decide : IsWord "dialog")
      attributes := List.forall_mem_append.mpr ⟨hattributes, hdirection⟩
      ending := (by decide : IsWord "")
      bare := by simp
      text := (by decide : delimiters "\r\n    ".toList = []) }
  case target =>
    exact {
      name := (by decide : IsWord "target")
      attributes := by simpa using (by decide : IsWord "uri")
      ending := (by decide : IsWord "/")
      bare := by simp
      text := (by decide : delimiters "".toList = []) }

theorem documentTags_wellFormed (version : Nat) (entity : String) (element : Option Element) :
    ∀ t ∈ documentTags version entity element, t.WellFormed := by
  have helement : ∀ t ∈ element.elim [] (fun e => e.tags entity), t.WellFormed := by
    cases element with
    | none => simp
    | some e => exact e.tags_wellFormed entity
  have hattributes : ∀ a ∈ [("xmlns", "urn:ietf:params:xml:ns:dialog-info"),
      ("version", Nat.repr version), ("entity", entity), ("notify-state", "full")], IsWord a.1 := by
    simp only [List.forall_mem_cons, List.not_mem_nil, false_implies, implies_true, and_true]
    exact ⟨by decide, by decide, by decide, by decide⟩
  have htext : delimiters (if element.isSome then "\r\n  " else "\r\n").toList = [] := by
    split <;> decide
  simp only [documentTags, List.forall_mem_append, List.forall_mem_cons, List.not_mem_nil,
    false_implies, implies_true, and_true]
  refine ⟨⟨⟨?xml, ?info⟩, helement⟩, Tag.wellFormed_bare _ _ (by decide) (by decide)⟩
  case xml =>
    exact {
      name := (by decide : IsWord "?xml")
      attributes := by simpa using (by decide : IsWord "version")
      ending := (by decide : IsWord "?")
      bare := by simp
      text := (by decide : delimiters "\r\n".toList = []) }
  case info =>
    exact {
      name := (by decide : IsWord "dialog-info")
      attributes := hattributes
      ending := (by decide : IsWord "")
      bare := by simp
      text := htext }

/-! ## Reports -/

def State.ofName? (name : String) : Option State :=
  [.trying, .early, .confirmed, .rejected, .terminated].find? fun s => s.name == name

def Direction.ofName? (name : String) : Option Direction :=
  [.initiator, .recipient].find? fun d => d.name == name

theorem State.ofName?_name (s : State) : State.ofName? s.name = some s := by
  cases s <;> rfl

theorem Direction.ofName?_name (d : Direction) : Direction.ofName? d.name = some d := by
  cases d <;> rfl

/-- What a document says about its dialog. -/
structure Reported where
  id : String
  callId : String
  localTag : String
  remoteTag : String
  direction : Option Direction
  state : State
  target : String
  deriving DecidableEq, Repr

/-- What a document says. -/
structure Report where
  version : Nat
  entity : String
  dialog : Option Reported
  deriving DecidableEq, Repr

def named? (name : String) (tags : List Tag) : Option Tag := tags.find? fun t => t.name == name

def Tag.attribute? (t : Tag) (name : String) : Option String := t.attributes.lookup name

def reported? (tags : List Tag) (dialog : Tag) : Option Reported := do
  let state ← named? "state" tags
  let remote ← named? "target" tags
  return {
    id := ← dialog.attribute? "id"
    callId := ← dialog.attribute? "call-id"
    localTag := ← dialog.attribute? "local-tag"
    remoteTag := ← dialog.attribute? "remote-tag"
    direction := ← (dialog.attribute? "direction").mapM Direction.ofName?
    state := ← State.ofName? state.text
    target := ← remote.attribute? "uri" }

def report? (text : String) : Option Report := do
  let tags := readTags text
  let info ← named? "dialog-info" tags
  let version ← info.attribute? "version"
  return {
    version := Text.decimalValue version.toList
    entity := ← info.attribute? "entity"
    dialog := ← (named? "dialog" tags).mapM (reported? tags) }

/-! ## What a document determines -/

def Element.reported (e : Element) (entity : String) : Reported where
  id := e.id
  callId := e.id
  localTag := e.tag
  remoteTag := e.tag
  direction := e.direction
  state := e.state
  target := target entity

theorem readTags_document (version : Nat) (entity : String) (element : Option Element) :
    readTags (document version entity element) = documentTags version entity element :=
  readTags_written _ _ (documentTags_wellFormed version entity element)
    (toList_document version entity element)

theorem report?_document (version : Nat) (entity : String) (element : Option Element) :
    report? (document version entity element) =
      some { version, entity, dialog := element.map fun e => e.reported entity } := by
  rw [report?, readTags_document]
  cases element with
  | none =>
    simp [documentTags, named?, Tag.bare, Tag.attribute?, Text.decimalValue_toDigits, List.lookup_cons]
  | some e =>
    obtain ⟨id, tag, direction, state⟩ := e
    cases direction <;>
      simp [documentTags, Element.tags, named?, Tag.bare, Tag.attribute?, Text.decimalValue_toDigits,
        List.lookup_cons, reported?, Element.reported, State.ofName?_name, Direction.ofName?_name]

theorem Element.reported_inj (d e : Element) (s t : String) (h : d.reported s = e.reported t) :
    d = e := by
  simp only [Element.reported, Reported.mk.injEq] at h
  obtain ⟨hid, -, htag, -, hdirection, hstate, -⟩ := h
  cases d
  cases e
  simp_all

theorem document_inj (m n : Nat) (s t : String) (d e : Option Element)
    (h : document m s d = document n t e) : m = n ∧ s = t ∧ d = e := by
  have hreport := congrArg report? h
  rw [report?_document, report?_document, Option.some.injEq, Report.mk.injEq] at hreport
  obtain ⟨hversion, hentity, hdialog⟩ := hreport
  refine ⟨hversion, hentity, ?_⟩
  cases d with
  | none =>
    cases e with
    | none => rfl
    | some e => simp at hdialog
  | some d =>
    cases e with
    | none => simp at hdialog
    | some e =>
      simp only [Option.map_some, Option.some.injEq] at hdialog
      rw [Element.reported_inj d e s t hdialog]

/-- The marks of a document with no dialog, or with one that has or has not a direction. -/
def layout (directed : Option Bool) : List Char :=
  ([1, 4] ++ directed.elim [] (fun b => [if b then 5 else 4, 0, 0, 0, 1, 0, 0]) ++ [0]).flatMap
    Tag.marks

theorem delimiters_document (version : Nat) (entity : String) (element : Option Element) :
    delimiters (document version entity element).toList =
      layout (element.map fun e => e.direction.isSome) := by
  have hwritten := delimiters_written _ (documentTags_wellFormed version entity element)
  rw [toList_document, hwritten]
  cases element with
  | none => rfl
  | some e =>
    obtain ⟨id, tag, direction, state⟩ := e
    cases direction <;> rfl

/-- A document is read back to what it was made from, no two inputs have the same document, and no
text from outside adds a mark to it. -/
theorem document_faithful (version : Nat) (entity : String) (element : Option Element) :
    report? (document version entity element) =
        some { version, entity, dialog := element.map fun e => e.reported entity } ∧
      (∀ n t e, document n t e = document version entity element ↔
        n = version ∧ t = entity ∧ e = element) ∧
      delimiters (document version entity element).toList =
        layout (element.map fun e => e.direction.isSome) := by
  refine ⟨report?_document version entity element, fun n t e => ⟨document_inj _ _ _ _ _ _, ?_⟩,
    delimiters_document version entity element⟩
  rintro ⟨rfl, rfl, rfl⟩
  rfl

end SipNotifier.Dialog
