/-! Message counts of a mailbox, the body that reports them, and a table of them. -/
namespace SipNotifier.Mailbox
set_option autoImplicit false

structure Counts where
  total : Nat := 0
  unread : Nat := 0
  deriving DecidableEq, Repr

/-- A message summary. An empty mailbox says only that nothing waits. -/
def Counts.summary (c : Counts) : String :=
  if 0 < c.total then
    "Messages-Waiting: " ++ (if 0 < c.unread then "yes" else "no") ++ "\r\n" ++
      "Voice-Message: " ++ Nat.repr c.unread ++ "/" ++ Nat.repr c.total ++ "\r\n"
  else "Messages-Waiting: no\r\n"

/-! ## Tables -/

/-- Counts by mailbox name; a mailbox that is not listed is empty. -/
structure Table where
  rows : List (String × Counts) := []
  deriving Repr

namespace Table

def counts (t : Table) (mailbox : String) : Counts := (t.rows.lookup mailbox).getD {}

def clear (t : Table) (mailbox : String) : Table := ⟨t.rows.filter fun row => row.1 != mailbox⟩

def set (t : Table) (mailbox : String) (c : Counts) : Table :=
  ⟨(mailbox, c) :: (t.clear mailbox).rows⟩

end Table
end SipNotifier.Mailbox
