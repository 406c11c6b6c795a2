import GardHub.Foundation.Loop
import GardHub.Interface.HmiMetadata
import GardHub.KtLib.BufFifo

/-!
# Metadata handling

`Kt_HandleReceivedMetadata` parses a metadata message in the staging buffer and
reports the faces in it to the application: the identified ones in one metadata
buffer and the others in a second one.  The staging buffer is memory of its own,
seen from the first byte of the message; the metadata buffers lie in the memory
the application shares with the library.
-/

namespace GardHub
namespace KtLib

open Foundation
open Interface

/-- `FaceData` -/
structure FaceData where
  fdFaceId : Nat
  idealPerson : Bool
  fdLeft : Int
  fdTop : Int
  fdRight : Int
  fdBottom : Int
  fdSafetyHatOn : Bool
  fdSafetyGlassesOn : Bool
  fdSafetyGlovesOn : Bool
deriving DecidableEq

/-- The offset of `pd__faces[j]` in `PpeData`. -/
def pdFaces (j : Nat) : Nat := 4 + 28 * j

/-- `pd__faces[j]` of the `PpeData` at an address. -/
def readFace (heap : Memory) (p : Int) (j : Nat) : FaceData :=
  { fdFaceId := heap.load32 (p + pdFaces j)
    idealPerson := heap (p + pdFaces j + 4) ≠ 0
    fdLeft := toInt32 (heap.load32 (p + pdFaces j + 8))
    fdTop := toInt32 (heap.load32 (p + pdFaces j + 12))
    fdRight := toInt32 (heap.load32 (p + pdFaces j + 16))
    fdBottom := toInt32 (heap.load32 (p + pdFaces j + 20))
    fdSafetyHatOn := heap (p + pdFaces j + 24) ≠ 0
    fdSafetyGlassesOn := heap (p + pdFaces j + 25) ≠ 0
    fdSafetyGlovesOn := heap (p + pdFaces j + 26) ≠ 0 }

/-- `PpeData` as a callback finds it, which callback it was, and the length of
the buffer. -/
structure Report where
  identified : Bool
  declared : Nat
  pdFaceCount : Nat
  faces : List FaceData
deriving DecidableEq

def readPpeData (identified : Bool) (heap : Memory) (out : MetaBuffer) :
    Report :=
  { identified := identified
    declared := out.length
    pdFaceCount := heap.load32 out.address
    faces := (List.range (heap.load32 out.address)).map
      (readFace heap out.address) }

/-- What the application does in a callback: its new state, what it leaves in
memory, and the buffers it then adds. -/
structure AppReaction (app : Type) where
  app : app
  heap : Memory
  added : List MetaBuffer

/-- The face callbacks of `KtCallbacks`. -/
structure KtCallbacks (app : Type) where
  kcOnFaceIdentified : Option (app -> Memory -> Int -> AppReaction app)
  kcOnFaceNotIdentified : Option (app -> Memory -> Int -> AppReaction app)

/-- Bytes the handler put into a metadata buffer of a declared length. -/
structure MetaStore where
  declared : Nat
  offset : Nat
  bytes : List UInt8
deriving DecidableEq

/-- Everything the handler can change.  `reports` and `stores` keep a record of
what was done. -/
structure KtState (app : Type) where
  fifo : BufFifo
  heap : Memory
  app : app
  reports : List Report
  stores : List MetaStore

/-- How the handler ends.  A failed assertion does not return. -/
inductive MetaOutcome where
  | returned (ret : Bool)
  | assertFailed (site : AssertSite)
deriving DecidableEq

variable {app : Type}

/-- `Kt_AddMetadataBuffer` -/
def ktAddMetadataBuffer (buffer : MetaBuffer) (s : KtState app) :
    Option AssertSite × KtState app :=
  let result := ktAddBufferToFifo s.fifo buffer s.heap
  (result.1, { s with fifo := result.2.1, heap := result.2.2 })

/-- `Kt_GetMetadataBuffer` -/
def ktGetMetadataBuffer (s : KtState app) : Option MetaBuffer × KtState app :=
  if ktBufFifoIsEmpty s.fifo then (none, s)
  else
    let result := ktGetBufferFromFifo s.fifo s.heap
    (some result.1, { s with fifo := result.2.1, heap := result.2.2 })

theorem ktGetMetadataBuffer_reports (s : KtState app) :
    (ktGetMetadataBuffer s).2.reports = s.reports := by
  unfold ktGetMetadataBuffer
  split <;> rfl

/-- Call a callback with the `PpeData` in a buffer. -/
def runCallback (identified : Bool)
    (callback : app -> Memory -> Int -> AppReaction app) (out : MetaBuffer)
    (s : KtState app) : Option AssertSite × KtState app :=
  let reaction := callback s.app s.heap out.address
  loopOver ktAddMetadataBuffer reaction.added
    { s with
        app := reaction.app
        heap := reaction.heap
        reports := s.reports ++ [readPpeData identified s.heap out] }

/-!
## Passes over the users
-/

/-- What the passes over the users change. -/
structure FacePass where
  heap : Memory
  stores : List MetaStore
  countOfIdentifiedUsers : Nat
  countOfUnidentifiedUsers : Nat

/-- Put bytes into the buffer that is being filled. -/
def FacePass.put (out : MetaBuffer) (offset : Nat) (bytes : List UInt8)
    (st : FacePass) : FacePass :=
  { st with
      heap := st.heap.store (out.address + offset) bytes
      stores := st.stores ++ [
        { declared := out.length, offset := offset, bytes := bytes }] }

@[simp] theorem FacePass.put_heap (out : MetaBuffer) (offset : Nat)
    (bytes : List UInt8) (st : FacePass) :
    (st.put out offset bytes).heap =
      st.heap.store (out.address + offset) bytes := rfl

/-- Fill in the face of a user.  The face id goes to one slot of the array and
the other fields to another, which are the same slot for identified users. -/
def fillFace (rx : Memory) (ideal : Option Nat) (out : MetaBuffer)
    (idSlot slot i : Nat) (st : FacePass) : FacePass :=
  let faceId := leBytes 4 (faceIdOfTrackedUser rx i)
  let st := st.put out (pdFaces idSlot) faceId
  let st := st.put out (pdFaces slot + 8) (personLeft rx i)
  let st := st.put out (pdFaces slot + 12) (personTop rx i)
  let st := st.put out (pdFaces slot + 16) (personRight rx i)
  let st := st.put out (pdFaces slot + 20) (personBottom rx i)
  let st :=
    if ideal = some i then
      (st.put out (pdFaces slot + 4) [1]).put out (pdFaces slot) faceId
    else st.put out (pdFaces slot + 4) [0]
  let st := st.put out (pdFaces slot + 24) [0]
  let st := st.put out (pdFaces slot + 25) [0]
  st.put out (pdFaces slot + 26) [0]

/-- The body of the loop over the users who have been identified. -/
def identifiedUser (rx : Memory) (ideal : Option Nat) (out : MetaBuffer)
    (i : Nat) (st : FacePass) : Option AssertSite × FacePass :=
  if faceIdOfTrackedUser rx i = 0 then
    (none,
      { st with countOfUnidentifiedUsers := st.countOfUnidentifiedUsers + 1 })
  else if userDataType rx i ≠
      AppHmiMetadataOutputDataType.userOutputData.code then
    (some .userDataType, st)
  else
    (none,
      { fillFace rx ideal out st.countOfIdentifiedUsers
          st.countOfIdentifiedUsers i st with
        countOfIdentifiedUsers := st.countOfIdentifiedUsers + 1 })

/-- The body of the loop over the users who have not been identified.  The
source indexes the face id by the count of the identified users. -/
def unidentifiedUser (rx : Memory) (ideal : Option Nat) (out : MetaBuffer)
    (i : Nat) (st : FacePass) : Option AssertSite × FacePass :=
  if faceIdOfTrackedUser rx i ≠ 0 then
    (none, st)
  else if userDataType rx i ≠
      AppHmiMetadataOutputDataType.userOutputData.code then
    (some .unidentifiedDataType, st)
  else
    (none,
      { fillFace rx ideal out st.countOfIdentifiedUsers
          st.countOfUnidentifiedUsers i st with
        countOfUnidentifiedUsers := st.countOfUnidentifiedUsers + 1 })

/-!
## The handler
-/

/-- `MAX_USERS_SUPPORTED_PER_FRAME` -/
def maxUsersSupportedPerFrame : Int := 20

/-- The loop bound: `nb_users` is compared with an unsigned index. -/
def loopCount (rx : Memory) : Nat := toUInt32 (nbUsers rx)

/-- The offset of `tracked_users[nb_users]`, where an ideal user would be. -/
def idealUserOffset (rx : Memory) : Int := trackedUser (nbUsers rx)

/-- The index of the ideal user, if its record starts inside the message. -/
def idealUser (rx : Memory) (bufferSize : Nat) : Option Nat :=
  if idealUserOffset rx < bufferSize then
    some (idealUserIndex rx (idealUserOffset rx))
  else none

def KtState.finishPass (s : KtState app) (st : FacePass) : KtState app :=
  { s with heap := st.heap, stores := st.stores }

@[simp] theorem KtState.finishPass_heap (s : KtState app) (st : FacePass) :
    (s.finishPass st).heap = st.heap := rfl

@[simp] theorem KtState.finishPass_fifo (s : KtState app) (st : FacePass) :
    (s.finishPass st).fifo = s.fifo := rfl

@[simp] theorem KtState.finishPass_app (s : KtState app) (st : FacePass) :
    (s.finishPass st).app = s.app := rfl

@[simp] theorem KtState.finishPass_reports (s : KtState app) (st : FacePass) :
    (s.finishPass st).reports = s.reports := rfl

@[simp] theorem KtState.finishPass_stores (s : KtState app) (st : FacePass) :
    (s.finishPass st).stores = st.stores := rfl

def KtState.startPass (s : KtState app) (identified : Nat) : FacePass :=
  { heap := s.heap
    stores := s.stores
    countOfIdentifiedUsers := identified
    countOfUnidentifiedUsers := 0 }

@[simp] theorem KtState.startPass_heap (s : KtState app) (identified : Nat) :
    (s.startPass identified).heap = s.heap := rfl

/-- Report the users who have not been identified, in a given buffer. -/
def reportUnidentified (cbs : KtCallbacks app) (rx : Memory)
    (ideal : Option Nat) (identified : Nat) (out : MetaBuffer)
    (s : KtState app) : MetaOutcome × KtState app :=
  match loopOver (unidentifiedUser rx ideal out) (List.range (loopCount rx))
      (s.startPass identified) with
  | (some site, st) => (.assertFailed site, s.finishPass st)
  | (none, st) =>
      let s := s.finishPass
        (st.put out 0 (leBytes 4 st.countOfUnidentifiedUsers))
      match cbs.kcOnFaceNotIdentified with
      | none => (.returned true, s)
      | some callback =>
          match runCallback false callback out s with
          | (some site, s) => (.assertFailed site, s)
          | (none, s) => (.returned true, s)

/-- Get the second buffer, if the first one was given away, and report the users
who have not been identified. -/
def handleUnidentified (cbs : KtCallbacks app) (rx : Memory)
    (ideal : Option Nat) (identified unidentified : Nat)
    (pOutData : Option MetaBuffer) (s : KtState app) :
    MetaOutcome × KtState app :=
  if unidentified = 0 then (.returned true, s)
  else
    match pOutData with
    | some out => reportUnidentified cbs rx ideal identified out s
    | none =>
        match ktGetMetadataBuffer s with
        | (none, s) => (.assertFailed .secondBuffer, s)
        | (some out, s) =>
            if out.length = 0 then (.assertFailed .secondBuffer, s)
            else reportUnidentified cbs rx ideal identified out s

/-- Fill a buffer with the identified users, report them, and go on with the
others. -/
def handleUsers (cbs : KtCallbacks app) (rx : Memory) (ideal : Option Nat)
    (out : MetaBuffer) (s : KtState app) : MetaOutcome × KtState app :=
  match loopOver (identifiedUser rx ideal out) (List.range (loopCount rx))
      (s.startPass 0) with
  | (some site, st) => (.assertFailed site, s.finishPass st)
  | (none, st) =>
      let s := s.finishPass (st.put out 0 (leBytes 4 st.countOfIdentifiedUsers))
      match cbs.kcOnFaceIdentified with
      | none =>
          handleUnidentified cbs rx ideal st.countOfIdentifiedUsers
            st.countOfUnidentifiedUsers (some out) s
      | some callback =>
          if st.countOfIdentifiedUsers = 0 then
            handleUnidentified cbs rx ideal st.countOfIdentifiedUsers
              st.countOfUnidentifiedUsers (some out) s
          else
            match runCallback true callback out s with
            | (some site, s) => (.assertFailed site, s)
            | (none, s) =>
                handleUnidentified cbs rx ideal st.countOfIdentifiedUsers
                  st.countOfUnidentifiedUsers none s

/-- `Kt_HandleReceivedMetadata` -/
def ktHandleReceivedMetadata (cbs : KtCallbacks app) (rx : Memory)
    (bufferSize : Nat) (s : KtState app) : MetaOutcome × KtState app :=
  if bufferSize = 0 then
    (.assertFailed .parameter, s)
  else if responseType rx ≠ appHmiMetadataResponseType ∨
      responseVersion rx ≠ appHmiMetadataVersion then
    (.assertFailed .responseHeader, s)
  else if maxUsersSupportedPerFrame < nbUsers rx then
    (.assertFailed .nbUsers, s)
  else if nbUsers rx = 0 then
    (.returned true, s)
  else
    match ktGetMetadataBuffer s with
    | (none, s) => (.assertFailed .metadataBuffer, s)
    | (some out, s) =>
        if out.length = 0 then
          (.assertFailed .metadataBuffer, s)
        else if idealUserOffset rx < bufferSize ∧
            rx (idealUserOffset rx) ≠
              AppHmiMetadataOutputDataType.idealUserOutputData.code then
          (.assertFailed .idealDataType, s)
        else
          handleUsers cbs rx (idealUser rx bufferSize) out s

end KtLib
end GardHub
