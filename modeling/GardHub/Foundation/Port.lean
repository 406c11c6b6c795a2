import Mathlib

/-!
# Byte ports

A port is the near end of a byte line: it can be asked for a number of bytes
and be given bytes to carry.  It may do less than it was asked, in either
direction, or fail.  What is behind the port is a state of any type, so a port
describes every deterministic device, however its answers depend on what was
exchanged before.
-/

namespace GardHub
namespace Foundation

/-- A byte port over a device state.  `none` is a failed transfer. -/
structure Port (device : Type) where
  /-- Ask for bytes: the bytes delivered, in the order they arrived. -/
  recv : device -> Nat -> Option (List UInt8) × device
  /-- Offer bytes: how many of them, from the front, were taken. -/
  send : device -> List UInt8 -> Option Nat × device
  recv_le : forall d count bytes,
    (recv d count).1 = some bytes -> bytes.length ≤ count
  send_le : forall d bytes count,
    (send d bytes).1 = some count -> count ≤ bytes.length

/-!
## The stream port

The far end has put a byte stream on the line.  A read takes what is there, up
to the number asked for, and every write is taken whole.
-/

/-- A line with bytes still to be read and bytes already written. -/
structure ByteStream where
  incoming : List UInt8
  outgoing : List UInt8
deriving DecidableEq

/-- The port in front of a byte stream. -/
def streamPort : Port ByteStream where
  recv := fun s count =>
    (some (s.incoming.take count),
      { s with incoming := s.incoming.drop count })
  send := fun s bytes =>
    (some bytes.length, { s with outgoing := s.outgoing ++ bytes })
  recv_le := by
    intro s count bytes h
    cases h
    simp
  send_le := by
    intro s bytes count h
    cases h
    exact le_refl _

end Foundation
end GardHub
