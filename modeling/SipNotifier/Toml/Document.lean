import SipNotifier.Toml.Scalars
import SipNotifier.Toml.Strings

/-! Reading TOML documents: keys, values, and the lines that they stand on. -/
namespace SipNotifier.Toml
set_option autoImplicit false

/-- The number of containers that may stand in one another, and of parts that a key may have. -/
def maxNesting : Nat := 79

def skipSpaces (cs : List Char) : List Char := cs.dropWhile isSpace

/-! ## Keys -/

def isKeyChar (c : Char) : Bool := c.isAlphanum || c == '_' || c == '-'

def readKeyPart (cs : List Char) : Option (String × List Char) :=
  match cs with
  | '"' :: _ => readShortString cs
  | '\'' :: _ => readShortString cs
  | _ =>
    let name := cs.takeWhile isKeyChar
    if name.isEmpty then none else some (String.ofList name, cs.dropWhile isKeyChar)

/-- Reads a key of at most so many parts, with the spaces around it. -/
def readKey : Nat → List Char → Option (List String × List Char)
  | 0, _ => none
  | most + 1, cs => do
    let (part, rest) ← readKeyPart (skipSpaces cs)
    match skipSpaces rest with
    | '.' :: behind =>
      let (parts, left) ← readKey most behind
      return (part :: parts, left)
    | left => return ([part], left)

/-! ## Values -/

/-- Skips spaces, line ends and comments, as they may stand between the items of an array. A comment
that holds a control character stops the skipping there. -/
def skipFiller : Bool → List Char → List Char
  | _, [] => []
  | _, '\n' :: rest => skipFiller false rest
  | _, '\r' :: '\n' :: rest => skipFiller false rest
  | false, '#' :: rest => skipFiller true rest
  | false, c :: rest => if isSpace c then skipFiller false rest else c :: rest
  | true, c :: rest => if isPrintable c then skipFiller true rest else c :: rest

/-- Reads the items of an array behind its bracket; a comma may follow the last one. -/
def readItems (value : List Char → Option (Value × List Char)) :
    Nat → List Char → Option (List Value × List Char)
  | 0, _ => none
  | fuel + 1, cs =>
    match skipFiller false cs with
    | ']' :: rest => some ([], rest)
    | start => do
      let (v, rest) ← value start
      match skipFiller false rest with
      | ',' :: behind =>
        let (vs, left) ← readItems value fuel behind
        return (v :: vs, left)
      | ']' :: left => return ([v], left)
      | _ => none

/-- Reads a key, an equals sign and a value. -/
def readPair (value : List Char → Option (Value × List Char)) (cs : List Char) :
    Option ((List String × Value) × List Char) := do
  let (key, rest) ← readKey maxNesting cs
  match rest with
  | '=' :: behind =>
    let (v, left) ← value (skipSpaces behind)
    return ((key, v), left)
  | _ => none

/-- Reads the pairs of a table in braces, of which there is at least one. -/
def readPairs (value : List Char → Option (Value × List Char)) :
    Nat → List Char → Option (List (List String × Value) × List Char)
  | 0, _ => none
  | fuel + 1, cs => do
    let (pair, rest) ← readPair value cs
    match skipSpaces rest with
    | ',' :: behind =>
      let (pairs, left) ← readPairs value fuel behind
      return (pair :: pairs, left)
    | '\x7d' :: left => return ([pair], left)
    | _ => none

/-- Reads a value with at most so many containers in one another. -/
def readValue : Nat → List Char → Option (Value × List Char)
  | depth, cs =>
    match cs, depth with
    | '"' :: _, _ => (readString cs).map fun (s, rest) => (.string s, rest)
    | '\'' :: _, _ => (readString cs).map fun (s, rest) => (.string s, rest)
    | '[' :: rest, depth + 1 =>
      (readItems (readValue depth) (rest.length + 1) rest).map fun (vs, left) => (.array vs, left)
    | '\x7b' :: rest, depth + 1 =>
      match skipSpaces rest with
      | '\x7d' :: left => some (.table .closed [], left)
      | start => do
        let (pairs, left) ← readPairs (readValue depth) (start.length + 1) start
        let entries ← pairs.foldlM assign []
        return (.table .closed entries, left)
    | _, _ => readScalar cs

/-! ## Lines -/

inductive Statement where
  | pair (key : List String) (v : Value)
  | header (h : Header)
  deriving Repr

/-- Skips to the next line; only spaces and a comment may be in between. -/
def endLine (cs : List Char) : Option (List Char) :=
  let rest := match skipSpaces cs with
    | '#' :: comment => comment.dropWhile isPrintable
    | rest => rest
  match rest with
  | [] => some []
  | '\n' :: left => some left
  | '\r' :: '\n' :: left => some left
  | _ => none

/-- Reads one line: nothing, a header or a pair. A value may reach over several lines. -/
def readLine (cs : List Char) : Option (Option Statement × List Char) :=
  match skipSpaces cs with
  | '[' :: '[' :: rest => do
    let (key, rest) ← readKey maxNesting rest
    match rest with
    | ']' :: ']' :: rest => return (some (.header (.element key)), ← endLine rest)
    | _ => none
  | '[' :: rest => do
    let (key, rest) ← readKey maxNesting rest
    match rest with
    | ']' :: rest => return (some (.header (.table key)), ← endLine rest)
    | _ => none
  | start =>
    match endLine start with
    | some left => some (none, left)
    | none => do
      let ((key, v), rest) ← readPair (readValue maxNesting) start
      return (some (.pair key v), ← endLine rest)

def readLines : Nat → List Char → Option (List Statement)
  | _, [] => some []
  | 0, _ => none
  | fuel + 1, cs => do
    let (statement, rest) ← readLine cs
    return statement.toList ++ (← readLines fuel rest)

/-! ## Documents -/

/-- Adds the statements to a document. The pairs under a header are kept, last first, until the next
header or the end. -/
def collect (document : Entries) (header : Header) (pairs : List (List String × Value)) :
    List Statement → Option Entries
  | [] => addSection document header pairs.reverse
  | .pair key v :: rest => collect document header ((key, v) :: pairs) rest
  | .header next :: rest =>
    (addSection document header pairs.reverse).bind fun grown => collect grown next [] rest

/-- The entries of a document. A byte order mark in front of it is skipped. -/
def parse? (text : String) : Option Entries :=
  let cs := match text.toList with
    | '\ufeff' :: rest => rest
    | cs => cs
  (readLines (cs.length + 1) cs).bind (collect [] .start [])

end SipNotifier.Toml
