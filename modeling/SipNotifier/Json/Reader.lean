import SipNotifier.Json.Token

/-! Reading JSON values from tokens. The reader is a machine that takes one token at a time: it
knows its place in the innermost container and keeps the containers around it. A text that is no
value still shows what had been read of its outermost container. -/
namespace SipNotifier.Json
set_option autoImplicit false

/-- The number of containers that may stand in one another. -/
def maxDepth : Nat := 127

/-- A container that waits for a value inside it. What is done is kept last first. -/
inductive Frame where
  | items (done : List Value)
  | member (done : List (String × Value)) (name : String)
  deriving Repr

/-- Where the reader stands in the innermost container. -/
inductive Place where
  /-- Before a value. -/
  | value
  | arrayStart
  | arrayNext (done : List Value)
  | objectStart
  /-- Behind a comma. -/
  | objectName (done : List (String × Value))
  | objectColon (done : List (String × Value)) (name : String)
  | objectNext (done : List (String × Value))
  deriving Repr

structure Machine where
  place : Place := .value
  /-- The containers around the place, the innermost first. -/
  around : List Frame := []
  deriving Repr

inductive Step where
  | go (m : Machine)
  | done (v : Value)
  | fault
  deriving Repr

namespace Machine

/-- Hands a complete value to the container around it. -/
def deliver (v : Value) : List Frame → Step
  | [] => .done v
  | .items done :: around => .go ⟨.arrayNext (v :: done), around⟩
  | .member done name :: around => .go ⟨.objectNext ((name, v) :: done), around⟩

/-- Takes the first token of a value. -/
def start (around : List Frame) : Token → Step
  | .null => deliver .null around
  | .boolean b => deliver (.boolean b) around
  | .number n => deliver (.number n) around
  | .string s => deliver (.string s) around
  | .openArray => if around.length < maxDepth then .go ⟨.arrayStart, around⟩ else .fault
  | .openObject => if around.length < maxDepth then .go ⟨.objectStart, around⟩ else .fault
  | _ => .fault

def step (m : Machine) (t : Token) : Step :=
  match m.place, t with
  | .value, t => start m.around t
  | .arrayStart, .closeArray => deliver (.array []) m.around
  | .arrayStart, t => start (.items [] :: m.around) t
  | .arrayNext done, .comma => .go ⟨.value, .items done :: m.around⟩
  | .arrayNext done, .closeArray => deliver (.array done.reverse) m.around
  | .objectStart, .closeObject => deliver (.object []) m.around
  | .objectStart, .string name => .go ⟨.objectColon [] name, m.around⟩
  | .objectName done, .string name => .go ⟨.objectColon done name, m.around⟩
  | .objectColon done name, .colon => .go ⟨.value, .member done name :: m.around⟩
  | .objectNext done, .comma => .go ⟨.objectName done, m.around⟩
  | .objectNext done, .closeObject => deliver (.object done.reverse) m.around
  | _, _ => .fault

end Machine

/-! ## Readings -/

/-- What had been read of a text's outermost container when its reading broke off. -/
inductive Partial where
  | nothing
  | items (done : List Value)
  /-- The complete members, and the name that was read last where its value was not. -/
  | members (done : List (String × Value)) (name : Option String)
  deriving Repr

def Machine.outermost (m : Machine) : Partial :=
  match m.around.getLast?, m.place with
  | some (.items done), _ => .items done.reverse
  | some (.member done name), _ => .members done.reverse (some name)
  | none, .value => .nothing
  | none, .arrayStart => .items []
  | none, .arrayNext done => .items done.reverse
  | none, .objectStart => .members [] none
  | none, .objectName done => .members done.reverse none
  | none, .objectColon done name => .members done.reverse (some name)
  | none, .objectNext done => .members done.reverse none

inductive Reading where
  /-- A value, and the tokens behind it. -/
  | complete (v : Value) (rest : List Token)
  | broken (p : Partial)
  deriving Repr

def Machine.run (m : Machine) : List Token → Reading
  | [] => .broken m.outermost
  | t :: ts =>
    match m.step t with
    | .go m' => m'.run ts
    | .done v => .complete v ts
    | .fault => .broken m.outermost

/-- Reads the value at the front of a text. -/
def read (cs : List Char) : Reading := ({} : Machine).run (tokens cs)

/-- The value that a whole text stands for. -/
def parse? (text : String) : Option Value :=
  match read text.toList with
  | .complete v [] => some v
  | _ => none

end SipNotifier.Json
