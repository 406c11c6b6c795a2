import GardHub.Hub.Commands

/-!
# Data from the GARD

The GARD may send data to the App Layer at any time.  It announces itself with
an originator sync; the HUB answers, reads the header, peeks at the payload to
get a buffer from the App Layer, reads the rest of the payload behind the peeked
bytes, and hands the buffer over.

`size_t` has 64 bits, so the comparisons with a `sizeof` are made modulo 2^64.
-/

namespace GardHub
namespace Hub

open Foundation
open Dal
open Interface

variable {device app : Type}

/-- Bytes the HUB put into a buffer of the App Layer, with the size the App
Layer gave for it. -/
structure BufferStore where
  pBuffer : Nat
  bufferSize : UInt32
  offset : Nat
  bytes : List UInt8
deriving DecidableEq

/-- A call of `handle_gard_send`: the size, and that many bytes of the buffer. -/
structure Delivery where
  size : UInt32
  payload : List UInt8
deriving DecidableEq

/-- Everything a call on a GARD handle can change.  `stores` and `deliveries`
keep a record of what was done. -/
structure HubWorld (device app : Type) where
  line : BusLine device
  gard : HubGardInfo app
  app : app
  buffers : AppBuffers
  stores : List BufferStore
  deliveries : List Delivery

/-- A GARD handle as an application finds it. -/
def startWorld (gard : HubGardInfo app) (line : BusLine device) (a : app)
    (buffers : AppBuffers) : HubWorld device app :=
  { line := line, gard := gard, app := a, buffers := buffers, stores := [],
    deliveries := [] }

/-- How a call ends. -/
inductive CallOutcome where
  | returned (ret : Bool)
  | nullDereference
deriving DecidableEq

/-- `nread` is the size asked for, as a `size_t`. -/
def matchesSize (ret : Int) (size : Nat) : Bool :=
  toSizeT ret == size % 2 ^ 64

/-- `APP_LAYER_PEEK_BUFFER_SIZE` -/
def appLayerPeekBufferSize : Nat := 4

namespace HubWorld

/-- Read from the active bus of the GARD. -/
def read (port : Port device) (bus : DalBus) (count : UInt32)
    (world : HubWorld device app) : Int × List UInt8 × HubWorld device app :=
  let nread := dalRead port bus count world.line
  (nread.1, nread.2.1, { world with line := nread.2.2 })

/-- Write to the active bus of the GARD. -/
def write (port : Port device) (bus : DalBus) (bytes : List UInt8)
    (count : UInt32) (world : HubWorld device app) :
    Int × HubWorld device app :=
  let nwrite := dalWrite port bus bytes count world.line
  (nwrite.1, { world with line := nwrite.2 })

/-- Set the flag `command_execution` of the GARD. -/
def setCommandExecution (world : HubWorld device app) (flag : Bool) :
    HubWorld device app :=
  { world with gard := { world.gard with commandExecution := flag } }

/-- Put bytes into a buffer of the App Layer. -/
def storeBuffer (world : HubWorld device app) (pBuffer : Nat)
    (bufferSize : UInt32) (offset : Nat) (bytes : List UInt8) :
    HubWorld device app :=
  { world with
      buffers := fun p =>
        if p = pBuffer then (world.buffers p).store offset bytes
        else world.buffers p
      stores := world.stores ++ [
        { pBuffer := pBuffer, bufferSize := bufferSize, offset := offset,
          bytes := bytes }] }

/-- Call `handle_gard_send`. -/
def deliver (world : HubWorld device app)
    (handle : app -> AppBuffers -> Nat -> UInt32 -> Bool × app × AppBuffers)
    (pBuffer : Nat) (size : UInt32) : Bool × HubWorld device app :=
  let result := handle world.app world.buffers pBuffer size
  (result.1,
    { world with
        app := result.2.1
        buffers := result.2.2
        deliveries := world.deliveries ++ [
          { size := size
            payload := (world.buffers pBuffer).load 0 size.toNat }] })

end HubWorld

/-- Copy the peeked bytes into a buffer and read the rest of the payload behind
them.  The count of the read is a `uint32_t`. -/
def fillBuffer (port : Port device) (bus : DalBus) (payloadSize : UInt32)
    (peekBuffer : List UInt8) (pBuffer : Nat) (bufferSize : UInt32)
    (world : HubWorld device app) : Int × HubWorld device app :=
  let world := world.storeBuffer pBuffer bufferSize 0 peekBuffer
  let nread := world.read port bus
    (payloadSize - UInt32.ofNat appLayerPeekBufferSize)
  (nread.1, nread.2.2.storeBuffer pBuffer bufferSize appLayerPeekBufferSize
    nread.2.1)

/-- The part of `hub_handle_app_layer_send_data` behind the peek: get a buffer,
fill it and hand it over. -/
def receivePayload (port : Port device) (bus : DalBus)
    (payloadSize : UInt32) (peekBuffer : List UInt8)
    (world : HubWorld device app) : CallOutcome × HubWorld device app :=
  match world.gard.pAppLayerCbs with
  | none => (.nullDereference, world)
  | some cbs =>
      match cbs.getBufferForGardSendData, cbs.handleGardSend with
      | some getBuffer, some handle =>
          let answer := getBuffer world.app peekBuffer
          let world := { world with app := answer.2 }
          match answer.1 with
          | none => (.returned false, world)
          | some (pBuffer, bufferSize) =>
              if bufferSize < payloadSize then
                (.returned false, world)
              else
                let nread := fillBuffer port bus payloadSize peekBuffer pBuffer
                  bufferSize world
                -- The size that is expected is a `size_t`.
                if !matchesSize nread.1
                    (payloadSize.toNat + 2 ^ 64 - appLayerPeekBufferSize) then
                  (.returned false, nread.2)
                else
                  let result := nread.2.deliver handle pBuffer payloadSize
                  (.returned result.1, result.2)
      | _, _ => (.returned false, world)

/-- The payload size of the 24-bit size field of a header. -/
def headerPayloadSize (header : List UInt8) : UInt32 :=
  UInt32.ofNat (fieldValue header 1 3)

/-- `hub_handle_app_layer_send_data` -/
def hubHandleAppLayerSendData (port : Port device)
    (world : HubWorld device app) : CallOutcome × HubWorld device app :=
  match world.gard.activeDalBus with
  | none => (.returned false, world)
  | some bus =>
      let nread := world.read port bus 4
      let header := nread.2.1
      let world := nread.2.2
      if !matchesSize nread.1 4 then
        (.returned false, world)
      else if HostRequestCommandId.gardAppLayerSend.code ≠ header.getD 0 0 then
        (.returned false, world)
      else
        let payloadSize := headerPayloadSize header
        if payloadSize = 0 then
          (.returned false, world)
        else
          let npeek :=
            world.read port bus (UInt32.ofNat appLayerPeekBufferSize)
          if !matchesSize npeek.1 appLayerPeekBufferSize then
            (.returned false, npeek.2.2)
          else
            receivePayload port bus payloadSize npeek.2.1 npeek.2.2

/-- What the HUB answers to an originator sync. -/
def originatorSyncResponse : List UInt8 :=
  [HostRequestCommandId.originatorSync.code, originatorIdGard]

/-- A call that returns clears the flag. -/
def finishCommand :
    CallOutcome × HubWorld device app -> CallOutcome × HubWorld device app
  | (.returned status, world) =>
      (.returned status, world.setCommandExecution false)
  | (.nullDereference, world) => (.nullDereference, world)

/-- The part of `hub_check_and_execute_gard_command` behind an originator sync
from the GARD: answer it, then handle the data that follows. -/
def serveOriginatorSync (port : Port device) (bus : DalBus)
    (world : HubWorld device app) : CallOutcome × HubWorld device app :=
  let nwrite := world.write port bus originatorSyncResponse 2
  if !matchesSize nwrite.1 2 then
    (.returned false, nwrite.2)
  else
    finishCommand
      (hubHandleAppLayerSendData port (nwrite.2.setCommandExecution true))

/-- `hub_check_and_execute_gard_command` -/
def hubCheckAndExecuteGardCommand (port : Port device)
    (world : HubWorld device app) : CallOutcome × HubWorld device app :=
  if world.gard.commandExecution then
    (.returned false, world)
  else
    match world.gard.activeDalBus with
    | none => (.returned false, world)
    | some bus =>
        let nread := world.read port bus 1
        let world := nread.2.2
        if !matchesSize nread.1 1 then
          (.returned false, world)
        else if nread.2.1.getD 0 0 ≠
            HostRequestCommandId.originatorSync.code then
          -- `GARD_APP_LAYER_REQUEST` is not implemented, and other
          -- identifiers are not commands.
          (.returned false, world)
        else
          let nread := world.read port bus 1
          let world := nread.2.2
          if !matchesSize nread.1 1 then
            (.returned false, world)
          else if originatorIdGard ≠ nread.2.1.getD 0 0 then
            (.returned false, world)
          else
            serveOriginatorSync port bus world

/-- With the callback table in place, receiving the payload either stops before
anything is stored, or fills a buffer that is large enough and hands it over if
the read was complete. -/
theorem receivePayload_cases {port : Port device} {bus : DalBus}
    {payloadSize : UInt32} {peekBuffer : List UInt8}
    {world : HubWorld device app} {cbs : HubAppLayerCallbacks app}
    (hcbs : world.gard.pAppLayerCbs = some cbs) :
    (exists a, receivePayload port bus payloadSize peekBuffer world =
      (.returned false, { world with app := a })) ∨
    (exists handle pBuffer bufferSize a, payloadSize ≤ bufferSize ∧
      receivePayload port bus payloadSize peekBuffer world =
        let nread := fillBuffer port bus payloadSize peekBuffer pBuffer
          bufferSize { world with app := a }
        if !matchesSize nread.1
            (payloadSize.toNat + 2 ^ 64 - appLayerPeekBufferSize) then
          (.returned false, nread.2)
        else
          let result := nread.2.deliver handle pBuffer payloadSize
          (.returned result.1, result.2)) := by
  unfold receivePayload
  rw [hcbs]
  simp only
  split
  · rename_i getBuffer handle hget hhandle
    split
    · exact Or.inl ⟨_, rfl⟩
    · rename_i pBuffer bufferSize hanswer
      split
      · exact Or.inl ⟨_, rfl⟩
      · rename_i hsize
        exact Or.inr ⟨handle, pBuffer, bufferSize, _, UInt32.not_lt.mp hsize, rfl⟩
  · exact Or.inl ⟨world.app, rfl⟩

/-- A check either gives up, having at most read from the line, or goes on to
serve an originator sync. -/
theorem hubCheckAndExecuteGardCommand_cases (port : Port device)
    (world : HubWorld device app) :
    (exists line, hubCheckAndExecuteGardCommand port world =
      (.returned false, { world with line := line })) ∨
    (exists bus line, hubCheckAndExecuteGardCommand port world =
      serveOriginatorSync port bus { world with line := line }) := by
  unfold hubCheckAndExecuteGardCommand
  split
  · exact Or.inl ⟨_, rfl⟩
  · split
    · exact Or.inl ⟨_, rfl⟩
    · simp only
      split
      · exact Or.inl ⟨_, rfl⟩
      · split
        · exact Or.inl ⟨_, rfl⟩
        · split
          · exact Or.inl ⟨_, rfl⟩
          · split
            · exact Or.inl ⟨_, rfl⟩
            · exact Or.inr ⟨_, _, rfl⟩

/-- `hub_set_app_layer_callbacks`: copy the callbacks into the table, which is
allocated if there is none. -/
def hubSetAppLayerCallbacks (pCallbacks : Option (HubAppLayerCallbacks app))
    (world : HubWorld device app) : Bool × HubWorld device app :=
  match pCallbacks with
  | none => (false, world)
  | some cbs =>
      (true, { world with gard := { world.gard with pAppLayerCbs := some cbs } })

end Hub
end GardHub
