/-! Reports on a call, and the dialog state and direction that they stand for. A report describes
the local leg; the dialog describes the remote party, so its direction is the opposite one. -/
namespace SipNotifier
set_option autoImplicit false

/-- What a report says about a call. -/
structure CallStatus where
  operation : Option String := none
  status : Option String := none
  direction : Option String := none
  deriving DecidableEq, Repr

namespace Dialog

inductive State where
  | trying
  | early
  | confirmed
  | rejected
  | terminated
  deriving DecidableEq, Repr

def State.name : State → String
  | .trying => "trying"
  | .early => "early"
  | .confirmed => "confirmed"
  | .rejected => "rejected"
  | .terminated => "terminated"

/-- The state that an operation settles by itself. -/
def State.ofOperation? (operation : String) : Option State :=
  if operation = "initialize" then some .trying
  else if operation = "finalize" then some .terminated
  else none

def State.ofStatus? (status : String) : Option State :=
  if status ∈ ["connected", "answered"] then some .confirmed
  else if status ∈ ["incoming", "outgoing", "calling", "ringing", "progressing"] then some .early
  else if status = "redirected" then some .rejected
  else if status = "destroyed" then some .terminated
  else none

/-- The state of a report: its operation decides before its status does. -/
def State.ofCall? (call : CallStatus) : Option State :=
  (call.operation.bind ofOperation?).or (call.status.bind ofStatus?)

/-- The role of the remote party. -/
inductive Direction where
  | initiator
  | recipient
  deriving DecidableEq, Repr

def Direction.name : Direction → String
  | .initiator => "initiator"
  | .recipient => "recipient"

def Direction.ofLeg? (leg : String) : Option Direction :=
  if leg = "incoming" then some .initiator
  else if leg = "outgoing" then some .recipient
  else none

end Dialog
end SipNotifier
