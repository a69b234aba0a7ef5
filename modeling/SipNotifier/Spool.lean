import SipNotifier.Log.Record
import SipNotifier.Mailbox

/-! The voicemail spool: one directory for each mailbox, in which the name of an entry tells what
kind of message it is. A spool is seen through the listings of its directories; a tree of paths is
one way to have them. -/
namespace SipNotifier.Spool
set_option autoImplicit false

/-! ## Mailboxes -/

/-- What looking into a directory yields. -/
inductive Listing where
  | entries (names : List String)
  | missing
  /-- There is something, but it is no directory that can be read. -/
  | unreadable
  deriving DecidableEq, Repr

def isUnread (name : String) : Bool := "nvm-".toList.isPrefixOf name.toList
def isRead (name : String) : Bool := "vm-".toList.isPrefixOf name.toList

/-- Counts the messages among the entries of a directory. -/
def countMessages (names : List String) : Mailbox.Counts :=
  let unread := names.countP isUnread
  ⟨unread + names.countP isRead, unread⟩

def Listing.counts : Listing → Mailbox.Counts
  | .entries names => countMessages names
  | _ => {}

/-- The name may be looked up: it does not lead out of the spool. -/
def accepts (mailbox : String) : Bool :=
  !mailbox.isEmpty && !mailbox.toList.contains '/' && !mailbox.toList.contains '\\' &&
    mailbox != ".."

/-- The counts of a mailbox, from the listing that its name leads to. -/
def stat (list : String → Listing) (mailbox : String) : Mailbox.Counts :=
  if accepts mailbox then (list mailbox).counts else {}

/-- What the log says about a look-up of a mailbox. One that is missing is not worth a word. -/
def records (list : String → Listing) (mailbox : String) : List Log.Record :=
  if !accepts mailbox then
    [⟨.spool, .warn, "Refusing suspicious mailbox name '" ++ mailbox ++ "'"⟩]
  else match list mailbox with
    | .missing => []
    | .unreadable => [⟨.spool, .warn, "Cannot read the directory of mailbox '" ++ mailbox ++ "'"⟩]
    | .entries names => names.filterMap fun name =>
      if isUnread name then some ⟨.spool, .debug, "found new file '" ++ name ++ "'"⟩
      else if isRead name then some ⟨.spool, .debug, "found old file '" ++ name ++ "'"⟩
      else none

/-! ## Trees -/

inductive NodeKind where
  | file
  | directory
  deriving DecidableEq, Repr

/-- The paths below a spool root, each with what stands there. The root itself is not among them. -/
structure Tree where
  nodes : List (List String × NodeKind) := []
  deriving DecidableEq, Repr

namespace Tree

def kind? (t : Tree) (path : List String) : Option NodeKind :=
  if path = [] then some .directory else t.nodes.lookup path

/-- The proper, non-empty beginnings of a path. -/
def parents : List String → List (List String)
  | [] => []
  | [_] => []
  | c :: rest => [c] :: (parents rest).map (c :: ·)

/-- Adds what is not there yet. -/
def add (t : Tree) (path : List String) (kind : NodeKind) : Tree :=
  if (t.kind? path).isSome then t else ⟨t.nodes ++ [(path, kind)]⟩

/-- Adds a path and the directories above it. -/
def insert (t : Tree) (path : List String) (kind : NodeKind) : Tree :=
  ((parents path).foldl (fun u above => u.add above .directory) t).add path kind

/-- Removes a path and all below it. -/
def erase (t : Tree) (path : List String) : Tree :=
  ⟨t.nodes.filter fun node => !path.isPrefixOf node.1⟩

/-- The names in a directory. -/
def children (t : Tree) (directory : List String) : List String :=
  t.nodes.filterMap fun node =>
    if node.1.dropLast = directory then node.1.getLast? else none

/-- The longest name that a directory can hold, in bytes. -/
def maxName : Nat := 255

/-- The longest path that can be followed, in bytes. -/
def maxPath : Nat := 4095

/-- Where steps lead. -/
inductive Goal where
  | place (path : List String) (kind : NodeKind)
  | missing
  /-- There is no way on behind a file, nor by a name that no directory can hold. -/
  | blocked
  deriving DecidableEq, Repr

/-- Follows steps from a directory. An empty step and one dot stay there, and two dots lead to the
directory above. -/
def walk (t : Tree) (here : List String) : List String → Goal
  | [] => .place here .directory
  | step :: rest =>
    if step = "" ∨ step = "." then t.walk here rest
    else if step = ".." then t.walk here.dropLast rest
    else if maxName < step.utf8ByteSize then .blocked
    else match t.kind? (here ++ [step]) with
      | some .directory => t.walk (here ++ [step]) rest
      | some .file => if rest.isEmpty then .place (here ++ [step]) .file else .blocked
      | none => .missing

/-- The listing of the directory that steps from the top lead to. -/
def list (t : Tree) (steps : List String) : Listing :=
  match t.walk [] steps with
  | .place path .directory => .entries (t.children path)
  | .missing => .missing
  | _ => .unreadable

/-- The size of a path in bytes, with a slash in front of each step. -/
def pathSize (path : List String) : Nat :=
  path.foldl (fun size step => size + step.utf8ByteSize + 1) 0

/-- The listing that a mailbox name leads to from a directory of the tree. No path holds a zero
character. -/
def listMailbox (t : Tree) (root : List String) (mailbox : String) : Listing :=
  let steps := root ++ [mailbox]
  if steps.any (fun step => step.toList.contains '\x00') || decide (maxPath < pathSize steps) then
    .unreadable
  else t.list steps

end Tree
end SipNotifier.Spool
