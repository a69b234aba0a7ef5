import SipNotifier.Log.Level

/-! Log records. Each comes from one part of the service, under the name that a filter knows the
part by. -/
namespace SipNotifier.Log
set_option autoImplicit false

/-- The parts of the service that write to the log. -/
inductive Source where
  | program
  | opening
  | bus
  | router
  | registry
  | subscription
  | spool
  deriving DecidableEq, Repr

/-- The name of a part. It begins with the name of the part that holds it. -/
def Source.target : Source → String
  | .program => "sippbx"
  | .opening => "sippbx::logging"
  | .bus => "sippbx::bus"
  | .router => "sippbx_subscription_core::router"
  | .registry => "sippbx_subscription_core::registry"
  | .subscription => "sippbx_subscription_core::subscription"
  | .spool => "sippbx_subscription_core::voicemail"

structure Record where
  source : Source
  level : Level
  text : String
  deriving DecidableEq, Repr

/-- The one field of every record: its text. -/
def Record.field : String := "message"

end SipNotifier.Log
