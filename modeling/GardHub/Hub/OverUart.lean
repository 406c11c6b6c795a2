import GardHub.Dal.UartDevice
import GardHub.Hub.LineSimulation

/-!
# The HUB over a UART

The HUB over the loop of the UART driver does what it does over a stream with
the bytes that arrive, whenever they arrive.
-/

namespace GardHub
namespace Hub

open Foundation
open Dal

variable {app : Type}

/-- A read that got through to the driver and found fewer bytes on the line than
it was asked for. -/
def FallsShort : BusEvent -> Prop
  | .read count bytes ret =>
      bytes.length < count.toNat ∧ ret ≠ dalFailureInvalidArgs
  | .write _ _ => False

/-- A line with the UART, and one with a stream: the same bytes are still to be
read, the same were written, and the same calls were made.  A read waits forever
exactly if one has found too few bytes on the stream. -/
structure OverUart (line : BusLine UartDevice) (line' : BusLine ByteStream) :
    Prop where
  incoming : line'.state.incoming = line.state.bytes
  outgoing : line'.state.outgoing = line.state.outgoing
  events : line'.events = line.events
  stalled : line.state.stalled = true <->
    exists event, event ∈ line'.events ∧ FallsShort event

theorem uartReturn_ne_invalidArgs (result : Option Nat) :
    uartReturn result ≠ dalFailureInvalidArgs := by
  unfold uartReturn dalFailureDeviceError dalFailureInvalidArgs
  split
  · decide
  · split
    · decide
    · lia

/-- One more call, which may have fallen short. -/
theorem exists_fallsShort_append {events : List BusEvent} {event : BusEvent} :
    (exists e, e ∈ events ++ [event] ∧ FallsShort e) <->
      (exists e, e ∈ events ∧ FallsShort e) ∨ FallsShort event := by
  constructor
  · rintro ⟨e, he, hshort⟩
    rcases List.mem_append.mp he with he | he
    · exact Or.inl ⟨e, he, hshort⟩
    · rcases List.mem_singleton.mp he with rfl
      exact Or.inr hshort
  · rintro (⟨e, he, hshort⟩ | hshort)
    · exact ⟨e, List.mem_append_left _ he, hshort⟩
    · exact ⟨event, by simp, hshort⟩

section Calls

variable {line : BusLine UartDevice} {line' : BusLine ByteStream}

/-- A call that does not get through to the UART leaves its bytes alone. -/
theorem OverUart.call (h : OverUart line line') {event : BusEvent}
    (hevent : ¬ FallsShort event) :
    OverUart { line with events := line.events ++ [event] }
      { line' with events := line'.events ++ [event] } := by
  refine ⟨h.incoming, h.outgoing, by rw [h.events], ?_⟩
  simp only [exists_fallsShort_append, h.stalled, hevent, or_false]

theorem OverUart.write (h : OverUart line line') (bytes : List UInt8)
    {event : BusEvent} (hevent : ¬ FallsShort event) :
    OverUart
      { state := { line.state with outgoing := line.state.outgoing ++ bytes }
        events := line.events ++ [event] }
      { state := { line'.state with outgoing := line'.state.outgoing ++ bytes }
        events := line'.events ++ [event] } := by
  refine ⟨h.incoming, by rw [h.outgoing], by rw [h.events], ?_⟩
  simp only [exists_fallsShort_append, h.stalled, hevent, or_false]

theorem OverUart.read (h : OverUart line line') (count : UInt32)
    (ret : Option Nat) :
    (line.state.read count).1 = line'.state.incoming.take count.toNat ∧
      OverUart
        { state := (line.state.read count).2
          events := line.events ++
            [.read count (line'.state.incoming.take count.toNat)
              (uartReturn ret)] }
        { state := { line'.state with
            incoming := line'.state.incoming.drop count.toNat }
          events := line'.events ++
            [.read count (line'.state.incoming.take count.toNat)
              (uartReturn ret)] } := by
  rcases UartDevice.read_stream count line.state
    with ⟨htaken, hrest, houtgoing, hstalled⟩
  have hret := uartReturn_ne_invalidArgs ret
  rw [← h.incoming] at htaken hrest hstalled
  refine ⟨htaken, hrest.symm, ?_, ?_, ?_⟩
  · rw [houtgoing, h.outgoing]
  · rw [h.events]
  · have hshort : FallsShort
        (.read count (line'.state.incoming.take count.toNat)
          (uartReturn ret)) <-> line'.state.incoming.length < count.toNat := by
      simp only [FallsShort, List.length_take, and_iff_left hret]
      lia
    simp only [exists_fallsShort_append, hstalled, h.stalled, hshort]

end Calls

/-- The stream with the bytes that wait on a UART or are still to arrive. -/
def UartDevice.stream (d : UartDevice) : ByteStream :=
  { incoming := d.bytes, outgoing := d.outgoing }

end Hub
end GardHub
