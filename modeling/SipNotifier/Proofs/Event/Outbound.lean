import SipNotifier.Event.Encode
import SipNotifier.Proofs.Json.RoundTrip

/-! Reading an outbound event back from its line: the members of the object are looked up by name. -/
namespace SipNotifier
open Json
set_option autoImplicit false

/-! ## Numbers -/

theorem Json.Number.toInt?_ofInt (n : Int) : (Number.ofInt n).toInt? = some n := by
  have hvalue : Text.decimalValue (Nat.repr n.natAbs).toList = n.natAbs := by
    rw [Nat.toList_repr]
    exact Text.decimalValue_toDigits n.natAbs
  by_cases hn : n < 0
  · have hpos : n.natAbs ≠ 0 := by omega
    have habs : -(n.natAbs : Int) = n := by omega
    simp only [Number.ofInt, Number.toInt?, hn, decide_true, hvalue, hpos, if_true, if_false, habs]
  · have habs : (n.natAbs : Int) = n := by omega
    simp only [Number.ofInt, Number.toInt?, hn, decide_false, hvalue, Bool.false_eq_true, if_false,
      habs]

theorem Inbound.Shape.read_number (n : Number) (p : Int) (h : n.toInt? = some p)
    (hp : 0 ≤ p ∧ p < 65536) :
    Inbound.Shape.port.read (.number n) = some (.port (UInt16.ofNat p.toNat)) := by
  rw [Inbound.Shape.read, h, Option.bind_some, if_pos hp]

theorem Inbound.Shape.read_port (p : UInt16) :
    Inbound.Shape.port.read (.number (.ofInt p.toNat)) = some (.port p) := by
  have hp : p.toNat < 65536 := p.toNat_lt
  have hread := Inbound.Shape.read_number _ _ (Number.toInt?_ofInt p.toNat) (by omega)
  rwa [Int.toNat_natCast, UInt16.ofNat_toNat] at hread

/-! ## Members -/

namespace Json.Value

def text? (v : Value) (name : String) : Option String :=
  match v.member? name with
  | some (.string s) => some s
  | _ => none

def port? (v : Value) (name : String) : Option UInt16 :=
  match (v.member? name).bind Inbound.Shape.port.read with
  | some (.port p) => some p
  | _ => none

theorem port?_of_member (v : Value) (name : String) (p : UInt16)
    (h : v.member? name = some (.number (.ofInt p.toNat))) : v.port? name = some p := by
  rw [port?, h, Option.bind_some, Inbound.Shape.read_port]

end Json.Value

def Notify.ofValue? (v : Value) : Option Notify :=
  return {
    method := ← v.text? "method"
    uri := ← v.text? "uri"
    host := ← v.text? "host"
    port := ← v.port? "port"
    callId := ← v.text? "call_id"
    fromHeader := ← v.text? "from"
    toHeader := ← v.text? "to"
    contact := ← v.text? "contact"
    event := ← v.text? "event"
    subscriptionState := ← v.text? "subscription_state"
    contentType := ← v.text? "content_type"
    body := ← v.text? "body" }

namespace Outbound

def ofValue? (v : Value) : Option Outbound := do
  let tag ← v.text? "type"
  if tag = "notify" then return .notify (← Notify.ofValue? v)
  else if tag = "diagnostics" then return .diagnostics (← v.text? "text")
  else none

/-- The event that a line was written for. -/
def decode? (line : String) : Option Outbound := (parse? line).bind ofValue?

/-! ## Reading what was written -/

theorem depth_le (e : Outbound) : e.toValue.depth ≤ maxDepth := by
  cases e with
  | notify n => simp [toValue, Notify.toMembers, Value.depth, membersDepth, maxDepth]
  | diagnostics text => simp [toValue, Value.depth, membersDepth, maxDepth]

theorem wellFormed_of_mem (e : Outbound) (m : Number) (h : .number m ∈ e.toValue.tokens) :
    m.WellFormed := by
  cases e with
  | notify n =>
    have hlimit : n.port.toNat < Number.wordLimit :=
      Nat.lt_of_lt_of_le n.port.toNat_lt (by decide)
    have hm : m = Number.ofInt n.port.toNat := by
      simpa [toValue, Notify.toMembers, Value.tokens, membersTokens] using h
    exact hm ▸ wellFormed_ofInt n.port.toNat hlimit
  | diagnostics text => simp [toValue, Value.tokens, membersTokens] at h

theorem parse?_encode (e : Outbound) : parse? e.encode = some e.toValue :=
  parse?_write e.toValue e.depth_le e.wellFormed_of_mem

theorem fits (e : Outbound) : e.toValue.Fits maxDepth :=
  fits_value e.toValue maxDepth e.depth_le fun m h => (e.wellFormed_of_mem m h).readable

theorem printable_encode (e : Outbound) : Printable e.encode.toList := by
  rw [encode, Value.write, String.toList_ofList]
  exact printable_value e.toValue maxDepth e.fits

theorem ofValue?_toValue (e : Outbound) : ofValue? e.toValue = some e := by
  cases e with
  | notify n =>
    have hport : (toValue (.notify n)).port? "port" = some n.port := by
      refine Value.port?_of_member _ _ _ ?_
      simp [toValue, Notify.toMembers, Value.member?, List.lookup_cons]
    rw [ofValue?, Notify.ofValue?, hport]
    simp [toValue, Notify.toMembers, Value.text?, Value.member?, List.lookup_cons]
  | diagnostics text => simp [ofValue?, toValue, Value.text?, Value.member?, List.lookup_cons]

theorem decode?_encode (e : Outbound) : decode? e.encode = some e := by
  rw [decode?, parse?_encode, Option.bind_some, ofValue?_toValue]

end Outbound
end SipNotifier
