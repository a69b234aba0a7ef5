import SipNotifier.Proofs.Bus.Lines
import SipNotifier.Proofs.Event.Outbound

/-! The output of the bus. A line that is written holds no control character but its end, so the
output is cut into the lines that were written, and each is read back to its event. -/
namespace SipNotifier.Bus
set_option autoImplicit false

theorem output_cons (e : Outbound) (events : List Outbound) :
    output (e :: events) = utf8 e.encode.toList ++ 10 :: output events := by
  have hline : utf8 e.line.toList = utf8 e.encode.toList ++ [10] := by
    rw [Outbound.line, String.toList_append, utf8_append]
    rfl
  rw [output, List.flatMap_cons, toList_toUTF8, hline, List.append_assoc]
  rfl

theorem splitLines_output (events : List Outbound) :
    splitLines (output events) = events.map fun e => utf8 e.encode.toList := by
  induction events with
  | nil => rfl
  | cons e events ih =>
    have hprintable := e.printable_encode
    have hend : (10 : UInt8) ∉ utf8 e.encode.toList := fun h =>
      absurd (hprintable _ (mem_utf8 _ '\n' 10 (by decide) (by decide) h)) (by decide)
    have hreturn : (13 : UInt8) ∉ utf8 e.encode.toList := fun h =>
      absurd (hprintable _ (mem_utf8 _ '\r' 13 (by decide) (by decide) h)) (by decide)
    rw [output_cons, splitLines_line _ _ hend hreturn, ih, List.map_cons]

theorem lines?_output (events : List Outbound) :
    lines? (output events) = some (events.map Outbound.encode) := by
  rw [lines?, splitLines_output]
  induction events with
  | nil => rfl
  | cons e events ih =>
    rw [List.map_cons, List.mapM_cons, decodeUtf8?_utf8, ih]
    rfl

/-- A line has no control character in it and is read back to its event; what is written for many
events is cut into as many lines, which are read back to the events in order. -/
theorem output_lossless (events : List Outbound) :
    (∀ e : Outbound, (e.encode.toList.all fun c => decide (0x20 ≤ c.toNat)) = true ∧
      Outbound.decode? e.encode = some e) ∧
      lines? (output events) = some (events.map Outbound.encode) ∧
      (lines? (output events)).bind (fun lines => lines.mapM Outbound.decode?) = some events := by
  refine ⟨fun e => ⟨?printable, e.decode?_encode⟩, lines?_output events, ?decoded⟩
  case printable =>
    rw [List.all_eq_true]
    exact fun c hc => decide_eq_true (e.printable_encode c hc)
  case decoded =>
    rw [lines?_output, Option.bind_some]
    induction events with
    | nil => rfl
    | cons e events ih =>
      rw [List.map_cons, List.mapM_cons, e.decode?_encode, ih]
      rfl

end SipNotifier.Bus
