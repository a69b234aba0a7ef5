import SipNotifier.Log.FieldValue
import SipNotifier.Log.Record
import SipNotifier.Text.Cut
import SipNotifier.Text.Split

/-! The directives of a log filter: which records each of them is about, which of two is more
specific, and how one is read. -/
namespace SipNotifier.Log
set_option autoImplicit false

/-- A field that a record has to have, with a value if one is asked for. -/
structure Field where
  name : String
  value : Option String
  deriving DecidableEq, Repr

structure Directive where
  /-- What the target of a record begins with. -/
  target : String := ""
  /-- The span that a record is written in. -/
  span : Option String := none
  field : Option Field := none
  threshold : Threshold := .upTo .trace
  deriving DecidableEq, Repr

namespace Directive

/-! ## Which records a directive is about -/

/-- No record is written in a span, and the text of a record is its one field. Values are asked for
in spans only. -/
def covers (d : Directive) (r : Record) : Bool :=
  d.span.isNone &&
    (match d.field with
      | none => true
      | some field => field.name == Record.field && field.value.isNone) &&
    d.target.toList.isPrefixOf r.source.target.toList

/-- A longer target is more specific, and of two of one length the one with a field. -/
def moreSpecific (d e : Directive) : Bool :=
  decide (e.target.length < d.target.length) ||
    (d.target.length == e.target.length && d.field.isSome && e.field.isNone)

theorem moreSpecific_irrefl (d : Directive) : d.moreSpecific d = false := by
  cases h : d.field <;> simp [moreSpecific, h]

theorem moreSpecific_trans (d e f : Directive) (hde : d.moreSpecific e = true)
    (hef : e.moreSpecific f = true) : d.moreSpecific f = true := by
  simp only [moreSpecific, Bool.or_eq_true, Bool.and_eq_true, decide_eq_true_eq,
    beq_iff_eq] at hde hef ⊢
  rcases hde with hde | ⟨⟨hde, hd⟩, _⟩
  · rcases hef with hef | ⟨⟨hef, _⟩, _⟩ <;> exact Or.inl (by omega)
  · rcases hef with hef | ⟨⟨hef, _⟩, hf⟩
    · exact Or.inl (by omega)
    · exact Or.inr ⟨⟨by omega, hd⟩, hf⟩

/-! ## Reading -/

/-- A target begins with a letter, a digit, a dash, a colon or an underscore. -/
def opensTarget (c : Char) : Bool :=
  c == '-' || c == ':' || c == '_' || Text.isAlphanumeric c

/-- Reads what stands between braces: a name, and a value behind an equals sign. -/
def readField? (cs : List Char) : Option Field :=
  match Text.split '=' cs with
  | name :: value :: _ =>
    if isFieldValue value then some ⟨String.ofList name, some (String.ofList value)⟩ else none
  | _ => if cs.isEmpty then none else some ⟨String.ofList cs, none⟩

/-- Where a reader stands, and the byte position where the part began that it is in. -/
inductive Place where
  | start
  | target
  | span (start : Nat)
  | field (start : Nat)
  | fieldEnd
  | selectorEnd
  | level (start : Nat)
  deriving DecidableEq, Repr

structure Reading where
  place : Place := .start
  directive : Directive := {}
  deriving DecidableEq, Repr

/-- Takes one character, which stands at a byte position. The parts are cut out of the text. -/
def Reading.step? (text : List Char) (r : Reading) (i : Nat) (c : Char) : Option Reading :=
  let d := r.directive
  match r.place with
  | .start =>
    if c == '[' then some ⟨.span (i + 1), d⟩
    else if opensTarget c then some ⟨.target, d⟩
    else none
  | .target =>
    if c == '=' || c == '[' then
      (Text.piece? 0 i text).map fun name =>
        let d := { d with target := String.ofList name }
        if c == '=' then ⟨.level (i + 1), d⟩ else ⟨.span (i + 1), d⟩
    else some r
  | .span start =>
    if c == ']' then
      (Text.piece? start i text).map fun name =>
        ⟨.selectorEnd, { d with span := some (String.ofList name) }⟩
    else if c == '\x7b' then
      (Text.piece? start i text).map fun name =>
        let span := if name.isEmpty then none else some (String.ofList name)
        ⟨.field (i + 1), { d with span := span }⟩
    else some r
  | .field start =>
    if c == '\x7d' then
      ((Text.piece? start i text).bind readField?).map fun field =>
        ⟨.fieldEnd, { d with field := some field }⟩
    else some r
  | .fieldEnd => if c == ']' then some ⟨.selectorEnd, d⟩ else none
  | .selectorEnd => if c == '=' then some ⟨.level (i + 1), d⟩ else none
  | .level _ => some r

/-- Takes the characters from a byte position on. -/
def Reading.run? (text : List Char) (r : Reading) (i : Nat) : List Char → Option Reading
  | [] => some r
  | c :: cs => (r.step? text i c).bind fun r' => r'.run? text (i + c.utf8Size) cs

/-- The directive at the end of the text. One that is neither a selector nor has an equals sign is a
threshold or a target. Where nothing stands behind the equals sign, all is shown. -/
def Reading.finish? (text : List Char) (r : Reading) : Option Directive :=
  let d := r.directive
  match r.place with
  | .target =>
    match Threshold.parse? (String.ofList text) with
    | some t => some { d with threshold := t }
    | none => some { d with target := String.ofList text }
  | .selectorEnd => some d
  | .level start =>
    match Text.cutAt? start text with
    | none => none
    | some (_, []) => some d
    | some (_, level) =>
      (Threshold.parse? (String.ofList level)).map fun t => { d with threshold := t }
  | _ => none

/-- Reads a directive: a threshold, or a target, a span in brackets or both, with a threshold behind
an equals sign. Blanks at both ends are passed over. Positions count from the first character that
is no blank, so that blanks in front move all parts. -/
def parse? (text : List Char) : Option Directive :=
  (({} : Reading).run? text 0 (Text.trim text)).bind (Reading.finish? text)

end Directive
end SipNotifier.Log
