/-! Event packages. Each pairs the value of the Event header with the one media type of its
bodies; a SUBSCRIBE has to name both. -/
namespace SipNotifier
set_option autoImplicit false

inductive Package where
  | messageSummary
  | dialog
  deriving DecidableEq, Repr

namespace Package

def all : List Package := [.messageSummary, .dialog]

/-- The value of the Event header. -/
def name : Package → String
  | .messageSummary => "message-summary"
  | .dialog => "dialog"

/-- The content type of the package's bodies. -/
def mediaType : Package → String
  | .messageSummary => "application/simple-message-summary"
  | .dialog => "application/dialog-info+xml"

/-- The pair of header values that no package answers to. -/
structure Unsupported where
  event : String
  accept : String
  deriving DecidableEq, Repr

def Unsupported.message (e : Unsupported) : String :=
  "Unsupported event package '" ++ e.event ++ "' with accept type '" ++ e.accept ++ "'"

def ofName (event : String) : Except Unsupported Package :=
  match all.find? fun p => p.name == event with
  | some p => .ok p
  | none => .error ⟨event, ""⟩

def negotiate (event accept : String) : Except Unsupported Package :=
  match all.find? fun p => p.name == event && p.mediaType == accept with
  | some p => .ok p
  | none => .error ⟨event, accept⟩

theorem name_injective (p q : Package) (h : p.name = q.name) : p = q := by
  cases p <;> cases q <;> simp_all [name]

end Package
end SipNotifier
