import GardHub.Foundation.MachineInt
import GardHub.Foundation.Port

/-!
# Device adaptation layer

The two transfer calls the HUB makes, over a port that stands for the UART
driver.  A transfer returns an `int32_t`: the number of bytes transferred,
or a negative code.
-/

namespace GardHub
namespace Dal

open Foundation

/-!
## Transfers
-/

/-- `hub_gard_bus_types` -/
inductive HubGardBusType where
  | unknown
  | i2c
  | uart
  | pcie
  | usb
  | mipiCsi2
deriving DecidableEq

/-- `dal_bus`: what the transfer calls look at. -/
structure DalBus where
  busType : HubGardBusType
deriving DecidableEq

/-- `DAL_SUCCESS` -/
def dalSuccess : Int := 0

/-- `DAL_FAILURE_INVALID_ARGS` -/
def dalFailureInvalidArgs : Int := -200

/-- `DAL_FAILURE_DEVICE_ERROR` -/
def dalFailureDeviceError : Int := -197

/-- One call of a transfer function, as seen on the bus. -/
inductive BusEvent where
  | write (bytes : List UInt8) (ret : Int)
  | read (count : UInt32) (bytes : List UInt8) (ret : Int)
deriving DecidableEq

/-- A device behind its port, with the transfer calls made so far. -/
structure BusLine (device : Type) where
  state : device
  events : List BusEvent
deriving DecidableEq

variable {device : Type}

/-- A fresh line with bytes waiting on it. -/
def streamLine (incoming : List UInt8) : BusLine ByteStream :=
  { state := { incoming := incoming, outgoing := [] }, events := [] }

/-- The number of bytes `dal_uart_read` reports as an `int32_t`, or
the device error for a negative one. -/
def uartReturn : Option Nat -> Int
  | none => dalFailureDeviceError
  | some count =>
      if toInt32 count < 0 then dalFailureDeviceError else toInt32 count

/-- `dal_read`: the bytes it stored and the value it returned. -/
def dalRead (port : Port device) (bus : DalBus) (count : UInt32)
    (line : BusLine device) : Int × List UInt8 × BusLine device :=
  if count = 0 then
    (dalSuccess, [],
      { line with events := line.events ++ [.read count [] dalSuccess] })
  else
    match bus.busType with
    | .uart =>
        let result := port.recv line.state count.toNat
        let bytes := result.1.getD []
        let ret := uartReturn (result.1.map List.length)
        (ret, bytes,
          { state := result.2
            events := line.events ++ [.read count bytes ret] })
    | _ =>
        (dalFailureInvalidArgs, [],
          { line with
              events := line.events ++ [.read count [] dalFailureInvalidArgs] })

/-- `dal_write` of the first `count` bytes of a buffer. -/
def dalWrite (port : Port device) (bus : DalBus) (buffer : List UInt8)
    (count : UInt32) (line : BusLine device) : Int × BusLine device :=
  let bytes := buffer.take count.toNat
  if count = 0 then
    (dalSuccess, { line with events := line.events ++ [.write [] dalSuccess] })
  else
    match bus.busType with
    | .uart =>
        let result := port.send line.state bytes
        let ret := uartReturn result.1
        (ret,
          { state := result.2
            events := line.events ++ [.write bytes ret] })
    | _ =>
        (dalFailureInvalidArgs,
          { line with
              events := line.events ++ [.write bytes dalFailureInvalidArgs] })

/-!
## Complete transfers
-/

theorem uartReturn_some_of_lt {count : Nat} (h : count < 2 ^ 31) :
    uartReturn (some count) = count := by
  rw [uartReturn, toInt32_of_lt h, if_neg (by lia)]

/-- A size that is not an `int32_t` is reported as an error. -/
theorem uartReturn_some_of_ge {count : Nat} (h : 2 ^ 31 ≤ count)
    (hlt : count < 2 ^ 32) :
    uartReturn (some count) = dalFailureDeviceError := by
  rw [uartReturn, toInt32_of_ge h hlt, if_pos (by lia)]

/-- A read below 2^31 that returns the size asked for has read that many
bytes. -/
theorem dalRead_length {port : Port device} {bus : DalBus} {count : UInt32}
    {line : BusLine device} (hcount : count.toNat < 2 ^ 31)
    (h : toUInt32 (dalRead port bus count line).1 = count.toNat) :
    (dalRead port bus count line).2.1.length = count.toNat := by
  unfold dalRead at h ⊢
  by_cases hzero : count = 0
  · simp [hzero]
  · rw [if_neg hzero] at h ⊢
    cases hbus : bus.busType <;> simp only [hbus] at h ⊢
    case uart =>
      cases hrecv : (port.recv line.state count.toNat).1 with
      | none =>
          simp only [hrecv, Option.map_none, uartReturn,
            dalFailureDeviceError, toUInt32] at h
          lia
      | some bytes =>
          have hle := port.recv_le _ _ _ hrecv
          simp only [hrecv, Option.map_some, Option.getD_some] at h ⊢
          rw [uartReturn_some_of_lt (by lia), toUInt32_natCast (by lia)] at h
          exact h
    all_goals
      simp only [dalFailureInvalidArgs, toUInt32] at h
      lia

/-- A read stores no more bytes than it was asked for. -/
theorem dalRead_length_le (port : Port device) (bus : DalBus) (count : UInt32)
    (line : BusLine device) :
    (dalRead port bus count line).2.1.length ≤ count.toNat := by
  unfold dalRead
  by_cases hzero : count = 0
  · simp [hzero]
  · rw [if_neg hzero]
    cases hbus : bus.busType <;> simp only [List.length_nil, Nat.zero_le]
    case uart =>
      cases hrecv : (port.recv line.state count.toNat).1 with
      | none =>
          simp
      | some bytes =>
          exact port.recv_le _ _ _ hrecv

theorem dalRead_events (port : Port device) (bus : DalBus) (count : UInt32)
    (line : BusLine device) :
    (dalRead port bus count line).2.2.events =
      line.events ++ [.read count (dalRead port bus count line).2.1
        (dalRead port bus count line).1] := by
  unfold dalRead
  by_cases hzero : count = 0
  · simp [hzero]
  · rw [if_neg hzero]
    cases bus.busType <;> rfl

/-!
## Transfers on a stream
-/

section Stream

variable {bus : DalBus} {line : BusLine ByteStream}

/-- Bytes that are waiting are read in full. -/
theorem dalRead_stream (hbus : bus.busType = .uart) {count : UInt32}
    {front back : List UInt8} (hcount : count.toNat < 2 ^ 31)
    (hfront : front.length = count.toNat)
    (hline : line.state.incoming = front ++ back) :
    dalRead streamPort bus count line =
      ((count.toNat : Int), front,
        { state := { line.state with incoming := back }
          events := line.events ++ [.read count front count.toNat] }) := by
  unfold dalRead
  by_cases hzero : count = 0
  · subst hzero
    have hnil : front = [] := List.eq_nil_of_length_eq_zero hfront
    subst hnil
    rw [List.nil_append] at hline
    rw [if_pos rfl, ← hline]
    rfl
  · have htake : line.state.incoming.take count.toNat = front := by
      rw [hline, ← hfront, List.take_left]
    have hdrop : line.state.incoming.drop count.toNat = back := by
      rw [hline, ← hfront, List.drop_left]
    rw [if_neg hzero, hbus]
    simp only [streamPort, htake, hdrop, Option.getD_some, Option.map_some,
      hfront, uartReturn_some_of_lt hcount]

/-- A write below 2^31 is taken whole. -/
theorem dalWrite_stream (hbus : bus.busType = .uart) {count : UInt32}
    {bytes : List UInt8} (hcount : count.toNat < 2 ^ 31)
    (hbytes : bytes.length = count.toNat) :
    dalWrite streamPort bus bytes count line =
      ((count.toNat : Int),
        { state := { line.state with
            outgoing := line.state.outgoing ++ bytes }
          events := line.events ++ [.write bytes count.toNat] }) := by
  unfold dalWrite
  have htake : bytes.take count.toNat = bytes := by
    rw [← hbytes, List.take_length]
  by_cases hzero : count = 0
  · subst hzero
    have hnil : bytes = [] := List.eq_nil_of_length_eq_zero hbytes
    subst hnil
    simp [dalSuccess]
  · rw [htake]
    simp only [if_neg hzero, hbus, streamPort, hbytes,
      uartReturn_some_of_lt hcount]

end Stream

end Dal
end GardHub
