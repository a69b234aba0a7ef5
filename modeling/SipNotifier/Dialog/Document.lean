import SipNotifier.Dialog.Basic
import SipNotifier.Uri.Parser

/-! Dialog documents: one version of one entity's state, with at most one dialog in it. Texts that
come from outside stand in attribute values only, with the five markup characters written as
entities. -/
namespace SipNotifier.Dialog
set_option autoImplicit false

/-! ## Attribute values -/

def escapeChar : Char → List Char
  | '<' => "&lt;".toList
  | '>' => "&gt;".toList
  | '&' => "&amp;".toList
  | '\'' => "&apos;".toList
  | '"' => "&quot;".toList
  | c => [c]

def escape (text : String) : String := String.ofList (text.toList.flatMap escapeChar)

/-- A blank, the name, and the value in quotes. -/
def quoted (name value : String) : String := " " ++ name ++ "=\"" ++ escape value ++ "\""

/-! ## Documents -/

/-- The one dialog that a document may report. The identifier also serves as call identifier, and
the tag stands at both ends. -/
structure Element where
  id : String
  tag : String
  direction : Option Direction
  state : State
  deriving DecidableEq, Repr

/-- The address that the remote target has: the entity without its brackets. -/
def target (entity : String) : String := String.ofList (Uri.stripBrackets entity.toList)

def Element.render (e : Element) (entity : String) : String :=
  "  <dialog" ++ quoted "id" e.id ++ quoted "call-id" e.id ++ quoted "local-tag" e.tag ++
    quoted "remote-tag" e.tag ++
    (match e.direction with
      | some d => quoted "direction" d.name
      | none => "") ++ ">\r\n" ++
    "    <state>" ++ e.state.name ++ "</state>\r\n" ++
    "    <remote><target" ++ quoted "uri" (target entity) ++ "/></remote>\r\n" ++
    "  </dialog>\r\n"

/-- A document that gives the full state of the entity, with every line ended by CR LF. -/
def document (version : Nat) (entity : String) (element : Option Element) : String :=
  "<?xml version=\"1.0\"?>\r\n" ++
    "<dialog-info" ++ quoted "xmlns" "urn:ietf:params:xml:ns:dialog-info" ++
    quoted "version" (Nat.repr version) ++ quoted "entity" entity ++
    quoted "notify-state" "full" ++ ">\r\n" ++
    (match element with
      | some e => e.render entity
      | none => "") ++
    "</dialog-info>\r\n"

end SipNotifier.Dialog
