import GardHub.Foundation.ChunkedStream
import GardHub.Foundation.StructLayout
import GardHub.KtApp.BufferPool

/-!
# The stream of face events

The face callbacks send the memory of what the library reports, as it stands, to
the client of the stream socket.  The listener of the Python client reads it as
an array of a structure that it knows from a header of its own.
-/

namespace GardHub
namespace KtApp

open Foundation
open Interface
open KtLib

/-!
## The two structures
-/

/-- The fields of `FaceData`. -/
def faceDataFields : List FieldType :=
  [.uint32, .bool, .int32, .int32, .int32, .int32, .bool, .bool, .bool]

/-- The fields of `kt_app_face_data`. -/
def ktAppFaceDataFields : List FieldType :=
  [.uint32, .uint8, .int32, .int32, .int32, .int32, .uint8, .uint8, .uint8]

/-- The fields of `PpeData`: its array has no size of its own. -/
def ppeDataFields : List FieldType := [.uint32]

/-- What a callback of the client gets for a face, in the words of
`event_callback`. -/
structure EventData where
  faceId : Int
  left : Int
  top : Int
  right : Int
  bottom : Int
  hat : Int
  glasses : Int
  gloves : Int
  ideal : Int
deriving DecidableEq

/-- A call of the callback. -/
structure FaceEvent where
  data : EventData
  faceCount : Nat
  faceIndex : Nat
deriving DecidableEq

/-- The call for a frame without faces. -/
def emptyFrameEvent : FaceEvent :=
  ⟨⟨0, -1, -1, -1, -1, 0, 0, 0, 0⟩, 0, 0⟩

/-- The values of a face, in the order of the callback. -/
def eventData (fields : List FieldType) (bytes : List UInt8) (start : Nat) :
    EventData :=
  let field := structField fields bytes start
  { faceId := field 0
    left := field 2
    top := field 3
    right := field 4
    bottom := field 5
    hat := field 6
    glasses := field 7
    gloves := field 8
    ideal := field 1 }

/-- The values of a face as C has them: a `bool` is 0 or 1. -/
def faceValues (face : FaceData) : EventData :=
  let truth := fun b : Bool => if b then (1 : Int) else 0
  { faceId := face.fdFaceId
    left := face.fdLeft
    top := face.fdTop
    right := face.fdRight
    bottom := face.fdBottom
    hat := truth face.fdSafetyHatOn
    glasses := truth face.fdSafetyGlassesOn
    gloves := truth face.fdSafetyGlovesOn
    ideal := truth face.idealPerson }

/-!
## The application
-/

/-- What a `send` on a socket does. -/
inductive SendOutcome where
  | interrupted
  | failed
  | sent (count : Nat)

/-- The loop of `kt_app_ipc_send_data_on_fd`, with the returned value, if it has
returned, and the bytes that went out. -/
def sendFrom (data : List UInt8) : Nat -> List SendOutcome ->
    Option Int × List UInt8
  | off, [] => if off < data.length then (none, []) else (some 0, [])
  | off, outcome :: rest =>
      if off < data.length then
        match outcome with
        | .interrupted => sendFrom data off rest
        | .failed => (some (-1), [])
        | .sent count =>
            let later := sendFrom data (off + count) rest
            (later.1, (data.drop off).take count ++ later.2)
      else (some 0, [])

/-- `kt_app_ipc_send_data_on_fd` -/
def ktAppIpcSendDataOnFd (sockfd : Int) (data : List UInt8)
    (outcomes : List SendOutcome) : Option Int × List UInt8 :=
  if sockfd < 0 ∨ data.length = 0 then (some (-1), [])
  else sendFrom data 0 outcomes

/-- What the face callbacks know of the client of the stream socket. -/
structure StreamClient where
  streamIpcConnected : Bool
  streamClientSockfd : Int

/-- A `PpeData` in memory.  What is declared as a `bool` holds 0 or 1. -/
structure PpeFrame where
  heap : Memory
  pPpeData : Int
  bools : forall j, j < heap.load32 pPpeData -> forall index,
    faceDataFields.getD index .uint8 = .bool ->
      (heap (pPpeData + pdFaces j + fieldOffset faceDataFields index)).toNat ≤ 1

/-- `pd__face_count` -/
def PpeFrame.pdFaceCount (frame : PpeFrame) : Nat :=
  frame.heap.load32 frame.pPpeData

/-- What both face callbacks send: none of it if no client is connected. -/
def faceCbSend (client : StreamClient) (frame : PpeFrame)
    (outcomes : List SendOutcome) : Option Int × List UInt8 :=
  if client.streamIpcConnected then
    -- A `size_t` does not wrap around: all of the frame lies in memory.
    ktAppIpcSendDataOnFd client.streamClientSockfd
      (frame.heap.load frame.pPpeData (structSize ppeDataFields +
        frame.pdFaceCount * structSize faceDataFields)) outcomes
  else (none, [])

/-- `kt_app_face_identified_cb`, up to what it does with the buffers. -/
def ktAppFaceIdentifiedCbSend := faceCbSend

/-- `kt_app_face_not_identified_cb`, up to what it does with the buffers. -/
def ktAppFaceNotIdentifiedCbSend := faceCbSend

/-- A call of one of the callbacks, and what its sends do. -/
structure FaceCall where
  identified : Bool
  frame : PpeFrame
  outcomes : List SendOutcome

/-- What the callback that is called sends. -/
def FaceCall.send (client : StreamClient) (call : FaceCall) :
    Option Int × List UInt8 :=
  if call.identified then
    ktAppFaceIdentifiedCbSend client call.frame call.outcomes
  else ktAppFaceNotIdentifiedCbSend client call.frame call.outcomes

/-- The calls that are due for a frame: one for each face, or one that says that
there is none. -/
def PpeFrame.events (frame : PpeFrame) : List FaceEvent :=
  if frame.pdFaceCount = 0 then [emptyFrameEvent]
  else
    (List.range frame.pdFaceCount).map fun i =>
      ⟨faceValues (readFace frame.heap frame.pPpeData i), frame.pdFaceCount,
        i + 1⟩

/-!
## The listener
-/

section Listener

variable {stream : Type}

/-- A pass of the listener's loop over a way to read exactly a number of bytes.
Without the bytes the connection has ended. -/
def listenerPass (recvExact : Nat -> stream -> Option (List UInt8 × stream))
    (sock : stream) : Option (List FaceEvent × stream) :=
  (recvExact 4 sock).bind fun h =>
    let cnt := leValue h.1
    if cnt = 0 then some ([emptyFrameEvent], h.2)
    else
      let sz := structSize ktAppFaceDataFields
      (recvExact (cnt * sz) h.2).map fun p =>
        ((List.range cnt).map fun i =>
          ⟨eventData ktAppFaceDataFields p.1 (i * sz), cnt, i + 1⟩, p.2)

/-- `recv_exact` -/
def recvExact (n : Nat) (sock : ChunkedStream) :
    Option (List UInt8 × ChunkedStream) :=
  sock.recvAll n

/-- `listener_worker` on a connection: the calls of the callback in a number of
passes of its loop. -/
def listenerWorker (passes : Nat) (sock : ChunkedStream) : List FaceEvent :=
  (ChunkedStream.readAll (listenerPass recvExact) passes sock).flatten

end Listener

/-!
## What is sent
-/

section Sent

/-- A call that has returned 0 has sent everything behind its offset. -/
theorem sendFrom_sent {data : List UInt8} {off : Nat}
    {outcomes : List SendOutcome}
    (h : (sendFrom data off outcomes).1 = some 0) :
    (sendFrom data off outcomes).2 = data.drop off := by
  induction outcomes generalizing off with
  | nil =>
      simp only [sendFrom] at h ⊢
      split at h
      · cases h
      · rw [if_neg ‹_›, List.drop_eq_nil_of_le (Nat.le_of_not_lt ‹_›)]
  | cons outcome rest ih =>
      simp only [sendFrom] at h ⊢
      by_cases hoff : off < data.length
      · rw [if_pos hoff] at h ⊢
        cases outcome with
        | interrupted =>
            exact ih h
        | failed =>
            cases h
        | sent count =>
            have hlater := ih h
            simp only [hlater]
            rw [← List.drop_drop, List.take_append_drop]
      · rw [if_neg hoff, List.drop_eq_nil_of_le (Nat.le_of_not_lt hoff)]

theorem ktAppIpcSendDataOnFd_sent {sockfd : Int} {data : List UInt8}
    {outcomes : List SendOutcome}
    (h : (ktAppIpcSendDataOnFd sockfd data outcomes).1 = some 0) :
    (ktAppIpcSendDataOnFd sockfd data outcomes).2 = data := by
  unfold ktAppIpcSendDataOnFd at h ⊢
  split at h
  · cases h
  · rw [if_neg ‹_›, sendFrom_sent h, List.drop_zero]

end Sent

/-!
## What is read
-/

section Read

theorem faceDataFields_mirrored :
    List.Forall₂ FieldType.Mirrors faceDataFields ktAppFaceDataFields :=
  .cons (.same _) (.cons .byte (.cons (.same _) (.cons (.same _)
    (.cons (.same _) (.cons (.same _) (.cons .byte (.cons .byte
      (.cons .byte .nil))))))))

theorem structSize_ktAppFaceDataFields :
    structSize ktAppFaceDataFields = structSize faceDataFields :=
  (structSize_congr (map_size_eq_of_mirrors faceDataFields_mirrored)).symm

theorem structSize_faceDataFields : structSize faceDataFields = 28 := by
  decide

theorem fieldOffsets_faceDataFields :
    fieldOffsets 0 faceDataFields = [0, 4, 8, 12, 16, 20, 24, 25, 26] := by
  decide

theorem fieldOffset_faceDataFields_lt (index : Nat) :
    fieldOffset faceDataFields index < 28 := by
  rw [fieldOffset, fieldOffsets_faceDataFields]
  by_cases h : index < 9
  · interval_cases index <;> decide
  · rw [List.getD_eq_default _ _ (Nat.le_of_not_lt h)]
    decide

variable {heap : Memory} {p : Int} {j n : Nat}

/-- A field of a face among the bytes behind the face count. -/
theorem fieldValue_faces {offset width : Nat}
    (h : j * 28 + offset + width ≤ n) :
    fieldValue (heap.load (p + 4) n) (j * 28 + offset) width =
      leValue (heap.load (p + pdFaces j + offset) width) := by
  have haddress : p + 4 + ((j * 28 + offset : Nat) : Int) =
      p + pdFaces j + offset := by
    unfold pdFaces
    lia
  rw [fieldValue_load _ _ h, haddress]

theorem leValue_load_one (m : Memory) (a : Int) :
    leValue (m.load a 1) = (m a).toNat := by
  simp [Memory.load]

/-- C finds the values of a face where the layout has them. -/
theorem faceValues_readFace (h : j * 28 + 28 ≤ n) :
    faceValues (readFace heap p j) =
      eventData faceDataFields (heap.load (p + 4) n) (j * 28) := by
  have hword : forall offset, offset + 4 ≤ 28 ->
      fieldValue (heap.load (p + 4) n) (j * 28 + offset) 4 =
        heap.load32 (p + pdFaces j + offset) :=
    fun offset hoffset => fieldValue_faces (by lia)
  have hbyte : forall offset, offset + 1 ≤ 28 ->
      fieldValue (heap.load (p + 4) n) (j * 28 + offset) 1 =
        (heap (p + pdFaces j + offset)).toNat := by
    intro offset hoffset
    rw [fieldValue_faces (by lia), leValue_load_one]
  have hfaceId := hword 0 (by lia)
  have hzero : forall b : UInt8, b.toNat = 0 <-> b = 0 := by
    intro b
    rw [← UInt8.toNat_inj, UInt8.toNat_zero]
  rw [Nat.add_zero, Nat.cast_zero, Int.add_zero] at hfaceId
  simp only [eventData, structField, fieldOffset, fieldOffsets_faceDataFields]
  simp [faceDataFields, FieldType.value, faceValues, readFace, hfaceId, hword,
    hbyte, hzero]

/-- The listener reads from its structure what C has in the other one. -/
theorem PpeFrame.eventData_faces (frame : PpeFrame)
    (hj : j < frame.pdFaceCount) (hn : j * 28 + 28 ≤ n) :
    eventData ktAppFaceDataFields (frame.heap.load (frame.pPpeData + 4) n)
        (j * 28) =
      faceValues (readFace frame.heap frame.pPpeData j) := by
  have hfield : forall index,
      structField ktAppFaceDataFields
          (frame.heap.load (frame.pPpeData + 4) n) (j * 28) index =
        structField faceDataFields (frame.heap.load (frame.pPpeData + 4) n)
          (j * 28) index := by
    intro index
    apply structField_mirror faceDataFields_mirrored
    intro hbool
    have hoffset := fieldOffset_faceDataFields_lt index
    rw [fieldValue_faces (by lia), leValue_load_one]
    exact frame.bools j hj index hbool
  rw [faceValues_readFace hn]
  simp only [eventData, hfield]

end Read

/-!
## The listener hears what was sent
-/

section Heard

/-- A pass that does not see the chunks does what it does on the bytes. -/
theorem listenerPass_map {stream stream' : Type} {f : stream -> stream'}
    {recv : Nat -> stream -> Option (List UInt8 × stream)}
    {recv' : Nat -> stream' -> Option (List UInt8 × stream')}
    (h : forall n sock, (recv n sock).map (Prod.map id f) = recv' n (f sock))
    (sock : stream) :
    (listenerPass recv sock).map (Prod.map id f) =
      listenerPass recv' (f sock) := by
  rw [listenerPass, listenerPass, ← h]
  cases recv 4 sock with
  | none =>
      rfl
  | some header =>
      simp only [Option.bind_some, Option.map_some, Prod.map_fst, Prod.map_snd,
        id]
      split
      · rfl
      · rw [← h, Option.map_map, Option.map_map]
        rfl

theorem recvExact_bytes (n : Nat) (sock : ChunkedStream) :
    (recvExact n sock).map (Prod.map id ChunkedStream.bytes) =
      takeBytes n sock.bytes :=
  ChunkedStream.recvAll_bytes n sock

/-- The bytes of a frame. -/
def PpeFrame.bytes (frame : PpeFrame) : List UInt8 :=
  frame.heap.load frame.pPpeData (structSize ppeDataFields +
    frame.pdFaceCount * structSize faceDataFields)

theorem PpeFrame.bytes_eq (frame : PpeFrame) :
    frame.bytes = frame.heap.load frame.pPpeData 4 ++
      frame.heap.load (frame.pPpeData + 4) (frame.pdFaceCount * 28) := by
  have hheader : structSize ppeDataFields = 4 := by decide
  rw [PpeFrame.bytes, hheader, structSize_faceDataFields, Memory.load_add]
  rfl

/-- From the bytes of a frame a pass makes the calls that are due for it, and
leaves what is behind them. -/
theorem listenerPass_bytes (frame : PpeFrame) (rest : List UInt8) :
    listenerPass takeBytes (frame.bytes ++ rest) =
      some (frame.events, rest) := by
  have hcount : leValue (frame.heap.load frame.pPpeData 4) =
      frame.pdFaceCount := rfl
  have hheader := takeBytes_append (Memory.load_length frame.heap
    frame.pPpeData 4) (frame.heap.load (frame.pPpeData + 4)
      (frame.pdFaceCount * 28) ++ rest)
  rw [listenerPass, frame.bytes_eq, List.append_assoc, hheader,
    Option.bind_some, PpeFrame.events]
  simp only [hcount, structSize_ktAppFaceDataFields, structSize_faceDataFields]
  by_cases hempty : frame.pdFaceCount = 0
  · rw [if_pos hempty, if_pos hempty, hempty]
    rfl
  · rw [if_neg hempty, if_neg hempty,
      takeBytes_append (Memory.load_length _ _ _), Option.map_some]
    apply congrArg fun events => some (events, rest)
    apply List.map_congr_left
    intro i hi
    have hlt : i < frame.pdFaceCount := List.mem_range.mp hi
    rw [frame.eventData_faces hlt (by lia)]

theorem FaceCall.send_bytes {client : StreamClient} {call : FaceCall}
    (hconnected : client.streamIpcConnected = true)
    (hsent : (call.send client).1 = some 0) :
    (call.send client).2 = call.frame.bytes := by
  have hsend : call.send client = ktAppIpcSendDataOnFd
      client.streamClientSockfd call.frame.bytes call.outcomes := by
    unfold FaceCall.send ktAppFaceIdentifiedCbSend ktAppFaceNotIdentifiedCbSend
      faceCbSend
    rw [if_pos hconnected, ite_self]
    rfl
  rw [hsend] at hsent ⊢
  exact ktAppIpcSendDataOnFd_sent hsent

/-- However the socket splits the bytes, the listener calls its callback for the
faces of each frame, one frame after another. -/
theorem listenerWorker_hears (client : StreamClient) (calls : List FaceCall)
    (sock : ChunkedStream) (passes : Nat)
    (hconnected : client.streamIpcConnected = true)
    (hsent : forall call, call ∈ calls -> (call.send client).1 = some 0)
    (hsock : sock.bytes = calls.flatMap fun call => (call.send client).2) :
    listenerWorker passes sock =
      (calls.take passes).flatMap fun call => call.frame.events := by
  have hbytes : sock.bytes = calls.flatMap fun call => call.frame.bytes := by
    rw [hsock]
    exact List.flatMap_congr fun call hcall =>
      FaceCall.send_bytes hconnected (hsent call hcall)
  have hread : (readMessages (listenerPass takeBytes) passes
        (calls.flatMap fun call => call.frame.bytes)).1 =
      (calls.map fun call => call.frame.events).take passes :=
    readMessages_flatMap_take calls
      (fun call _ rest => listenerPass_bytes call.frame rest) rfl passes
  rw [listenerWorker, ChunkedStream.readAll_bytes
    (listenerPass_map recvExact_bytes), hbytes, hread, ← List.map_take,
    List.flatMap_def]

/-- A face in memory, and behind it a frame without faces. -/
def oneFaceHeap : Memory :=
  Memory.store (fun _ => 0) 100
    [1, 0, 0, 0, 7, 0, 0, 0, 1, 170, 170, 170, 10, 0, 0, 0,
      255, 255, 255, 255, 30, 0, 0, 0, 40, 0, 0, 0, 1, 0, 1, 85]

theorem oneFaceHeap_bools (j : Nat) (hj : j < 1) (index : Nat)
    (hbool : faceDataFields.getD index .uint8 = .bool) :
    (oneFaceHeap (100 + pdFaces j + fieldOffset faceDataFields index)).toNat
      ≤ 1 := by
  have hindex : index < 9 := by
    by_contra hge
    rw [List.getD_eq_default _ _ (Nat.le_of_not_lt hge)] at hbool
    cases hbool
  interval_cases j
  interval_cases index <;> first | (cases hbool; done) | decide

def oneFaceCalls : List FaceCall :=
  [{ identified := true
     frame := ⟨oneFaceHeap, 100, fun j hj => oneFaceHeap_bools j hj⟩
     outcomes := [.sent 3, .interrupted, .sent 29] },
    { identified := false
      frame := ⟨oneFaceHeap, 200, fun j hj => absurd hj (Nat.not_lt_zero j)⟩
      outcomes := [.sent 4] }]

def oneFaceSock : ChunkedStream :=
  { chunks :=
      [[1], [0, 0, 0, 7, 0, 0, 0, 1, 170],
        [170, 170, 10, 0, 0, 0, 255, 255, 255, 255, 30, 0, 0, 0, 40, 0, 0, 0,
          1, 0, 1, 85, 0, 0, 0], [0]]
    nonempty := by decide }

theorem listenerWorker_hears_oneFace :
    listenerWorker 2 oneFaceSock =
      [⟨⟨7, 10, -1, 30, 40, 1, 0, 1, 1⟩, 1, 1⟩,
        ⟨⟨0, -1, -1, -1, -1, 0, 0, 0, 0⟩, 0, 0⟩] :=
  listenerWorker_hears ⟨true, 5⟩ oneFaceCalls oneFaceSock 2 rfl
    (by decide) (by decide)

end Heard

end KtApp
end GardHub
