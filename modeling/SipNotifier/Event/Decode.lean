import SipNotifier.Event.Fields
import SipNotifier.Json.Reader

/-! Reading inbound events from lines of JSON. A record is an object whose member "type" names its
kind, or an array that starts with that name. Of several faults, the first one met decides: the kind
is settled while the text is read, the fields once the value is complete, what follows the value
last. -/
namespace SipNotifier.Inbound
open Json
set_option autoImplicit false

inductive DecodeError where
  | missingField (name : String)
  | duplicateField (name : String)
  | unknownKind (name : String)
  /-- The line is not JSON, or a value has the wrong shape. -/
  | malformed
  deriving DecidableEq, Repr

/-- The text of an error, where it has one of its own. -/
def DecodeError.message? : DecodeError → Option String
  | .missingField name => some ("Invalid event: missing field \x60" ++ name ++ "\x60")
  | .duplicateField name => some ("Invalid event: duplicate field \x60" ++ name ++ "\x60")
  | .unknownKind name =>
    some ("Invalid event: unknown variant \x60" ++ name ++ "\x60, expected one of " ++
      String.intercalate ", " (Kind.all.map fun k => "\x60" ++ k.name ++ "\x60"))
  | .malformed => none

/-! ## The kind -/

def kindMember : String := "type"

def kindOf (v : Value) : Except DecodeError Kind :=
  match v with
  | .string name =>
    match Kind.ofName? name with
    | some k => .ok k
    | none => .error (.unknownKind name)
  | _ => .error .malformed

/-- Takes the kind out of the members, which may name it once. -/
def splitKind (found : Option Kind) :
    List (String × Value) → Except DecodeError (Option Kind × List (String × Value))
  | [] => .ok (found, [])
  | (name, v) :: ms =>
    if name = kindMember then
      match found with
      | some _ => .error (.duplicateField kindMember)
      | none =>
        match kindOf v with
        | .error e => .error e
        | .ok k => splitKind (some k) ms
    else
      match splitKind found ms with
      | .error e => .error e
      | .ok (k, others) => .ok (k, (name, v) :: others)

/-! ## Fields -/

/-- Reads those members that are fields, in the order of the members. No field may be repeated. -/
def gather (fields : List Field) (got : List (String × Content)) :
    List (String × Value) → Except DecodeError (List (String × Content))
  | [] => .ok got
  | (name, v) :: ms =>
    match fields.find? fun f => f.name == name with
    | none => gather fields got ms
    | some f =>
      if (got.lookup name).isSome then .error (.duplicateField name)
      else match f.shape.read v with
        | none => .error .malformed
        | some c => gather fields ((name, c) :: got) ms

/-- What the fields hold in order of declaration; the first required one that is missing is an
error. -/
def arrange (got : List (String × Content)) : List Field → Except DecodeError (List Content)
  | [] => .ok []
  | f :: fs =>
    match got.lookup f.name with
    | some c => (arrange got fs).map (c :: ·)
    | none =>
      if f.shape.isRequired then .error (.missingField f.name)
      else (arrange got fs).map (.absent :: ·)

def readFields (fields : List Field) (members : List (String × Value)) :
    Except DecodeError (List Content) := do
  arrange (← gather fields [] members) fields

/-- Reads fields by position. Optional fields at the end may be left out. -/
def readInOrder : List Field → List Value → Option (List Content)
  | [], [] => some []
  | [], _ :: _ => none
  | f :: fs, [] => if f.shape.isRequired then none else (readInOrder fs []).map (.absent :: ·)
  | f :: fs, v :: vs =>
    match f.shape.read v with
    | none => none
    | some c => (readInOrder fs vs).map (c :: ·)

/-! ## Records -/

def orMalformed {α : Type} : Option α → Except DecodeError α
  | some a => .ok a
  | none => .error .malformed

def ofMembers (k : Kind) (members : List (String × Value)) : Except DecodeError Inbound := do
  let own ← readFields k.fields members
  let status ← readFields k.statusFields members
  orMalformed (k.build (own ++ status))

/-- Only records without a call status among their fields can be written as an array. -/
def ofItems (k : Kind) (items : List Value) : Except DecodeError Inbound :=
  if k.statusFields.isEmpty then orMalformed ((readInOrder k.fields items).bind k.build)
  else .error .malformed

def ofValue (v : Value) : Except DecodeError Inbound :=
  match v with
  | .object members =>
    match splitKind none members with
    | .error e => .error e
    | .ok (none, _) => .error (.missingField kindMember)
    | .ok (some k, others) => ofMembers k others
  | .array [] => .error (.missingField kindMember)
  | .array (v :: items) =>
    match kindOf v with
    | .error e => .error e
    | .ok k => ofItems k items
  | _ => .error .malformed

/-- The error of a text that breaks off: one about the kind, if its reading came that far. -/
def ofPartial (p : Partial) : DecodeError :=
  match p with
  | .members members name =>
    match splitKind none members with
    | .error e => e
    | .ok (some _, _) =>
      if name = some kindMember then .duplicateField kindMember else .malformed
    | .ok (none, _) => .malformed
  | .items (v :: _) =>
    match kindOf v with
    | .error e => e
    | .ok _ => .malformed
  | _ => .malformed

def decode (line : String) : Except DecodeError Inbound :=
  match Json.read line.toList with
  | .broken p => .error (ofPartial p)
  | .complete v rest =>
    match ofValue v with
    | .error e => .error e
    | .ok event => if rest.isEmpty then .ok event else .error .malformed

end SipNotifier.Inbound
