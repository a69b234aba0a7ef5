/-! TOML values, and the rules by which the entries of a document grow into tables. A table
remembers how it came about, because that decides what may still be added to it. -/
namespace SipNotifier.Toml
set_option autoImplicit false

/-- How a table came about. -/
inductive Standing where
  /-- Written out in braces: nothing can be added. -/
  | closed
  /-- Named by a header of its own, or the document itself. -/
  | defined
  /-- Passed on the way to a longer header. -/
  | implied
  /-- Passed on the way to a dotted key. -/
  | dotted
  deriving DecidableEq, Repr

/-- Floats and dates are checked when they are read, but their values are not kept. -/
inductive Value where
  | string (s : String)
  | integer (n : Int)
  | float
  | boolean (b : Bool)
  | datetime
  | array (items : List Value)
  | table (standing : Standing) (entries : List (String × Value))
  | tables (elements : List (List (String × Value)))
  deriving Repr

abbrev Entries := List (String × Value)

def Entries.replace (es : Entries) (key : String) (v : Value) : Entries :=
  es.map fun e => if e.1 = key then (key, v) else e

/-! ## Growth -/

/-- Changes the table at a path. Tables that are missing on the way come about as told, and a list
of tables is entered at its last element. Closed tables cannot be entered, and a dotted key does
not enter a table that has a header. -/
def descend (made : Standing) (change : Standing → Entries → Option Entries) :
    List String → Standing → Entries → Option Entries
  | [], standing, es => change standing es
  | key :: path, _, es =>
    match es.lookup key with
    | none => (descend made change path made []).map fun sub => es ++ [(key, .table made sub)]
    | some (.table standing sub) =>
      if standing = .closed ∨ (made = .dotted ∧ standing = .defined) then none
      else (descend made change path standing sub).map fun sub' =>
        Entries.replace es key (.table standing sub')
    | some (.tables elements) =>
      match elements.getLast? with
      | none => none
      | some last => (descend made change path .defined last).map fun last' =>
        Entries.replace es key (.tables (elements.dropLast ++ [last']))
    | some _ => none

/-- Adds a new entry. A dotted key ends in a table that dotted keys made, and a plain key does
not. -/
def addEntry (isDotted : Bool) (key : String) (v : Value) (standing : Standing) (es : Entries) :
    Option Entries :=
  if (standing == .dotted) != isDotted then none
  else if (es.lookup key).isSome then none
  else some (es ++ [(key, v)])

/-- Puts a value at a path inside a table. -/
def assign (es : Entries) (pair : List String × Value) : Option Entries :=
  match pair.1.getLast? with
  | none => none
  | some key =>
    descend .dotted (addEntry (!pair.1.dropLast.isEmpty) key pair.2) pair.1.dropLast .defined es

/-! ## Headers -/

inductive Header where
  /-- The start of the document. -/
  | start
  | table (path : List String)
  | element (path : List String)
  deriving DecidableEq, Repr

/-- Adds the pairs under a header at its place in the document. -/
def addSection (document : Entries) (header : Header) (pairs : List (List String × Value)) :
    Option Entries :=
  match header with
  | .start => pairs.foldlM assign document
  | .table path =>
    match path.getLast? with
    | none => none
    | some key =>
      descend .implied (fun _ es =>
        match es.lookup key with
        | none => (pairs.foldlM assign []).map fun sub => es ++ [(key, .table .defined sub)]
        | some (.table .implied sub) =>
          (pairs.foldlM assign sub).map fun sub' => Entries.replace es key (.table .defined sub')
        | some _ => none) path.dropLast .defined document
  | .element path =>
    match path.getLast? with
    | none => none
    | some key =>
      descend .implied (fun _ es =>
        match es.lookup key with
        | none => (pairs.foldlM assign []).map fun sub => es ++ [(key, .tables [sub])]
        | some (.tables elements) => (pairs.foldlM assign []).map fun sub =>
          Entries.replace es key (.tables (elements ++ [sub]))
        | some _ => none) path.dropLast .defined document

end SipNotifier.Toml
