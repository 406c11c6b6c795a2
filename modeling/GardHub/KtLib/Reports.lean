import GardHub.KtLib.Callbacks
import GardHub.KtLib.Faces

/-!
# Reports

What the application is told about a message that follows the layout: the users
who have been identified in one report and the others in a second one.
-/

namespace GardHub
namespace KtLib

open Foundation
open Interface

variable {app : Type}

/-- A message of a given length follows the layout: after the records of the
users it ends, or the record of the ideal user follows. -/
structure Conforming (rx : Memory) (bufferSize : Nat) : Prop where
  responseType : responseType rx = appHmiMetadataResponseType
  responseVersion : responseVersion rx = appHmiMetadataVersion
  nbUsers_nonneg : 0 ≤ nbUsers rx
  nbUsers_le : nbUsers rx ≤ maxUsersSupportedPerFrame
  userType : forall i : Nat, (i : Int) < nbUsers rx ->
    userDataType rx i = AppHmiMetadataOutputDataType.userOutputData.code
  idealUser : (bufferSize : Int) = idealUserOffset rx ∨
    (idealUserOffset rx + 28 ≤ bufferSize ∧
      rx (idealUserOffset rx) =
        AppHmiMetadataOutputDataType.idealUserOutputData.code)

theorem loopCount_eq {rx : Memory} (hnonneg : 0 ≤ nbUsers rx)
    (hle : nbUsers rx ≤ maxUsersSupportedPerFrame) :
    (loopCount rx : Int) = nbUsers rx := by
  unfold maxUsersSupportedPerFrame at hle
  unfold loopCount toUInt32
  lia

theorem loopCount_ne_zero {rx : Memory} (h : nbUsers rx ≠ 0) :
    loopCount rx ≠ 0 := by
  contrapose! h
  simp only [loopCount, nbUsers, toUInt32, toInt32] at h ⊢
  split_ifs at h ⊢ <;> lia

theorem Conforming.loopCount_eq {rx : Memory} {bufferSize : Nat}
    (h : Conforming rx bufferSize) : (loopCount rx : Int) = nbUsers rx :=
  KtLib.loopCount_eq h.nbUsers_nonneg h.nbUsers_le

theorem Conforming.loopCount_le {rx : Memory} {bufferSize : Nat}
    (h : Conforming rx bufferSize) : loopCount rx ≤ 20 := by
  have hle := h.nbUsers_le
  rw [← h.loopCount_eq] at hle
  unfold maxUsersSupportedPerFrame at hle
  lia

/-- Memory is the same outside of a buffer. -/
def SameOutside (b : MetaBuffer) (heap heap' : Memory) : Prop :=
  forall x, x < b.address ∨ b.address + b.length ≤ x -> heap' x = heap x

/-- Both callbacks are registered, and two buffers that have room for every user
wait in the FIFO, possibly before others.  The first callback is courteous to
the buffers that wait while it runs. -/
structure Ready (cbs : KtCallbacks app) (rx : Memory) (b c : MetaBuffer)
    (rest : List MetaBuffer) (s : KtState app) : Prop where
  held : FifoHolds s.heap s.fifo (b :: c :: rest)
  firstLarge : pdFaces (loopCount rx) ≤ b.length
  secondLarge : pdFaces (loopCount rx) ≤ c.length
  identified : exists callback, cbs.kcOnFaceIdentified = some callback ∧
    forall heap, SameOutside b s.heap heap ->
      Courteous (c :: rest) heap (callback s.app heap b.address)
  notIdentified : cbs.kcOnFaceNotIdentified.isSome = true

/-!
## The expected reports
-/

/-- The report of the users who have been identified, if there are any. -/
def identifiedReports (rx : Memory) (ideal : Option Nat) (n declared : Nat) :
    List Report :=
  if identifiedUsers rx n = [] then []
  else
    [{ identified := true
       declared := declared
       pdFaceCount := (identifiedUsers rx n).length
       faces := (identifiedUsers rx n).map fun i : Nat =>
         wireFace rx ideal (faceIdOfTrackedUser rx i) i }]

/-- The report of the other users, if there are any, with the face id that each
of them has at its position. -/
def unidentifiedReports (rx : Memory) (ideal : Option Nat) (n declared : Nat)
    (faceId : Nat -> Nat -> Nat) : List Report :=
  if unidentifiedUsers rx n = [] then []
  else
    [{ identified := false
       declared := declared
       pdFaceCount := (unidentifiedUsers rx n).length
       faces := (unidentifiedUsers rx n).mapIdx fun j i =>
         wireFace rx ideal (faceId j i) i }]

theorem unidentifiedReports_congr {rx : Memory} {ideal : Option Nat}
    {n declared : Nat} {faceId faceId' : Nat -> Nat -> Nat}
    (h : forall j i, (unidentifiedUsers rx n)[j]? = some i ->
      faceId j i = faceId' j i) :
    unidentifiedReports rx ideal n declared faceId =
      unidentifiedReports rx ideal n declared faceId' := by
  have hfaces : ((unidentifiedUsers rx n).mapIdx fun j i =>
        wireFace rx ideal (faceId j i) i) =
      (unidentifiedUsers rx n).mapIdx fun j i =>
        wireFace rx ideal (faceId' j i) i := by
    apply List.ext_getElem?
    intro j
    rw [List.getElem?_mapIdx, List.getElem?_mapIdx]
    cases hj : (unidentifiedUsers rx n)[j]? with
    | none =>
        rfl
    | some i =>
        rw [Option.map_some, Option.map_some, h j i hj]
  rw [unidentifiedReports, unidentifiedReports, hfaces]

/-- The buffer that the users who have not been identified are reported in: the
second one if the first one has been given away. -/
def unidentifiedBuffer (rx : Memory) (b c : MetaBuffer) : MetaBuffer :=
  if identifiedUsers rx (loopCount rx) = [] then b else c

/-- The face id that the user at a position is reported with, given memory
before the message is handled. -/
def reportedFaceId (rx : Memory) (ideal : Option Nat) (heap : Memory)
    (out : MetaBuffer) (j i : Nat) : Nat :=
  if j = 0 then 0
  else leftFaceId ideal (identifiedUsers rx (loopCount rx)).length heap
    out.address j i

/-!
## The two reports
-/

/-- A callback finds the count that is written last and the faces before it. -/
theorem readPpeData_put {identified : Bool} {out : MetaBuffer} {count : Nat}
    {st : FacePass} (hcount : count < 2 ^ 32) :
    readPpeData identified (st.put out 0 (leBytes 4 count)).heap out =
      { identified := identified
        declared := out.length
        pdFaceCount := count
        faces := readFaces st.heap out.address count } := by
  have hload : (st.put out 0 (leBytes 4 count)).heap.load32 out.address =
      count := by
    rw [FacePass.put_heap,
      Memory.load32_store_same (by simp) (leBytes_length 4 count),
      leValue_leBytes_of_lt (by simpa using hcount)]
  have hfaces : readFaces (st.put out 0 (leBytes 4 count)).heap out.address
      count = readFaces st.heap out.address count := by
    apply readFaces_congr
    intro j _
    apply readFace_congr
    intro x hlow _
    apply Memory.store_apply_of_not_mem
    simp only [pdFaces, leBytes_length] at *
    lia
  rw [readPpeData, hload, ← hfaces]
  rfl

theorem identifiedUsers_length_le (rx : Memory) (n : Nat) :
    (identifiedUsers rx n).length ≤ n := by
  have h := identifiedUsers_add_unidentifiedUsers rx n
  lia

theorem unidentifiedUsers_length_le (rx : Memory) (n : Nat) :
    (unidentifiedUsers rx n).length ≤ n := by
  have h := identifiedUsers_add_unidentifiedUsers rx n
  lia

theorem reportUnidentified_reports {cbs : KtCallbacks app} {rx : Memory}
    {ideal : Option Nat} {identified : Nat} {out : MetaBuffer}
    {s : KtState app} (hcount : loopCount rx ≤ 20)
    (htype : forall i : Nat, i < loopCount rx -> userDataType rx i =
      AppHmiMetadataOutputDataType.userOutputData.code)
    (hcallback : cbs.kcOnFaceNotIdentified.isSome = true)
    (hsome : unidentifiedUsers rx (loopCount rx) ≠ []) :
    (reportUnidentified cbs rx ideal identified out s).2.reports =
      s.reports ++ unidentifiedReports rx ideal (loopCount rx) out.length
        (leftFaceId ideal identified s.heap out.address) := by
  rcases Option.isSome_iff_exists.mp hcallback with ⟨callback, hcallback⟩
  have hpasses := unidentifiedUsers_pass_of_type rx ideal out
    (rfl : (s.startPass identified).countOfUnidentifiedUsers = 0) htype
  rcases hpasses with ⟨st, hloop, hpass⟩
  have hlt : st.countOfUnidentifiedUsers < 2 ^ 32 := by
    have hle := unidentifiedUsers_length_le rx (loopCount rx)
    rw [hpass.unidentified]
    lia
  have hreports := (runCallback_reports false callback out
    (s.finishPass (st.put out 0 (leBytes 4 st.countOfUnidentifiedUsers)))).1
  have hrun : (reportUnidentified cbs rx ideal identified out s).2.reports =
      (runCallback false callback out (s.finishPass
        (st.put out 0 (leBytes 4 st.countOfUnidentifiedUsers)))).2.reports := by
    simp only [reportUnidentified, hloop, hcallback]
    split <;> simp_all
  rw [hrun, hreports]
  rw [KtState.finishPass_heap, KtState.finishPass_reports, readPpeData_put hlt,
    unidentifiedReports, if_neg hsome, hpass.faces, hpass.unidentified]
  rfl

/-- The users who have not been identified are reported in the first buffer if
it has not been given away. -/
theorem handleUnidentified_reuse {cbs : KtCallbacks app} {rx : Memory}
    {ideal : Option Nat} {identified : Nat} {out : MetaBuffer}
    {s : KtState app} (hcount : loopCount rx ≤ 20)
    (htype : forall i : Nat, i < loopCount rx -> userDataType rx i =
      AppHmiMetadataOutputDataType.userOutputData.code)
    (hcallback : cbs.kcOnFaceNotIdentified.isSome = true) :
    (handleUnidentified cbs rx ideal identified
        (unidentifiedUsers rx (loopCount rx)).length (some out) s).2.reports =
      s.reports ++ unidentifiedReports rx ideal (loopCount rx) out.length
        (leftFaceId ideal identified s.heap out.address) := by
  by_cases hnone : unidentifiedUsers rx (loopCount rx) = []
  · simp [handleUnidentified, unidentifiedReports, hnone]
  · have hlength : (unidentifiedUsers rx (loopCount rx)).length ≠ 0 := by
      simpa using hnone
    rw [handleUnidentified, if_neg hlength]
    exact reportUnidentified_reports hcount htype hcallback hnone

/-- Otherwise they are reported in the next buffer that waits. -/
theorem handleUnidentified_second {cbs : KtCallbacks app} {rx : Memory}
    {ideal : Option Nat} {identified : Nat} {c : MetaBuffer}
    {rest : List MetaBuffer} {s : KtState app}
    (hheld : FifoHolds s.heap s.fifo (c :: rest)) (hcount : loopCount rx ≤ 20)
    (htype : forall i : Nat, i < loopCount rx -> userDataType rx i =
      AppHmiMetadataOutputDataType.userOutputData.code)
    (hcallback : cbs.kcOnFaceNotIdentified.isSome = true) :
    (handleUnidentified cbs rx ideal identified
        (unidentifiedUsers rx (loopCount rx)).length none s).2.reports =
      s.reports ++ unidentifiedReports rx ideal (loopCount rx) c.length
        (leftFaceId ideal identified (setBiNext s.heap c.address 0)
          c.address) := by
  by_cases hnone : unidentifiedUsers rx (loopCount rx) = []
  · simp [handleUnidentified, unidentifiedReports, hnone]
  · have hlength : (unidentifiedUsers rx (loopCount rx)).length ≠ 0 := by
      simpa using hnone
    have hclength := (hheld.usable c List.mem_cons_self).length_ne_zero
    rcases hheld.ktGetMetadataBuffer with ⟨fifo, hbuffer, -⟩
    rw [handleUnidentified, if_neg hlength, hbuffer]
    simp only [if_neg hclength]
    exact reportUnidentified_reports hcount htype hcallback hnone

/-!
## The handler
-/

/-- A message without users is accepted as it is. -/
theorem ktHandleReceivedMetadata_nobody (cbs : KtCallbacks app) {rx : Memory}
    {bufferSize : Nat} (s : KtState app) (hsize : bufferSize ≠ 0)
    (htype : responseType rx = appHmiMetadataResponseType)
    (hversion : responseVersion rx = appHmiMetadataVersion)
    (hzero : nbUsers rx = 0) :
    ktHandleReceivedMetadata cbs rx bufferSize s = (.returned true, s) := by
  simp [ktHandleReceivedMetadata, hsize, htype, hversion, hzero,
    maxUsersSupportedPerFrame]

theorem acceptedHeader {rx : Memory}
    (htype : responseType rx = appHmiMetadataResponseType)
    (hversion : responseVersion rx = appHmiMetadataVersion) :
    ¬ (responseType rx ≠ appHmiMetadataResponseType ∨
      responseVersion rx ≠ appHmiMetadataVersion) := by
  rintro (hother | hother)
  · exact hother htype
  · exact hother hversion

/-- A message with users whose header is accepted is handled in the buffer that
is got for it. -/
theorem ktHandleReceivedMetadata_got (cbs : KtCallbacks app) {rx : Memory}
    {bufferSize : Nat} {b : MetaBuffer} {s s' : KtState app}
    (hsize : bufferSize ≠ 0)
    (htype : responseType rx = appHmiMetadataResponseType)
    (hversion : responseVersion rx = appHmiMetadataVersion)
    (hle : nbUsers rx ≤ maxUsersSupportedPerFrame) (hne : nbUsers rx ≠ 0)
    (hideal : idealUserOffset rx < bufferSize -> rx (idealUserOffset rx) =
      AppHmiMetadataOutputDataType.idealUserOutputData.code)
    (hbuffer : ktGetMetadataBuffer s = (some b, s')) (hlength : b.length ≠ 0) :
    ktHandleReceivedMetadata cbs rx bufferSize s =
      handleUsers cbs rx (idealUser rx bufferSize) b s' := by
  have hidealOk : ¬ (idealUserOffset rx < bufferSize ∧
      rx (idealUserOffset rx) ≠
        AppHmiMetadataOutputDataType.idealUserOutputData.code) := by
    intro h
    exact h.2 (hideal h.1)
  rw [ktHandleReceivedMetadata, if_neg hsize, if_neg (acceptedHeader htype hversion),
    if_neg (not_lt.mpr hle), if_neg hne, hbuffer]
  simp only [if_neg hlength, if_neg hidealOk]

theorem ktHandleReceivedMetadata_users (cbs : KtCallbacks app) {rx : Memory}
    {bufferSize : Nat} {b : MetaBuffer} {rest : List MetaBuffer}
    {s : KtState app} (hsize : bufferSize ≠ 0)
    (htype : responseType rx = appHmiMetadataResponseType)
    (hversion : responseVersion rx = appHmiMetadataVersion)
    (hle : nbUsers rx ≤ maxUsersSupportedPerFrame) (hne : nbUsers rx ≠ 0)
    (hideal : idealUserOffset rx < bufferSize -> rx (idealUserOffset rx) =
      AppHmiMetadataOutputDataType.idealUserOutputData.code)
    (hheld : FifoHolds s.heap s.fifo (b :: rest)) :
    exists fifo, ktHandleReceivedMetadata cbs rx bufferSize s =
        handleUsers cbs rx (idealUser rx bufferSize) b
          { s with fifo := fifo, heap := setBiNext s.heap b.address 0 } ∧
      FifoHolds (setBiNext s.heap b.address 0) fifo rest := by
  have hlength := (hheld.usable b List.mem_cons_self).length_ne_zero
  rcases hheld.ktGetMetadataBuffer with ⟨fifo, hbuffer, hrest⟩
  exact ⟨fifo, ktHandleReceivedMetadata_got cbs hsize htype hversion hle hne
    hideal hbuffer hlength, hrest⟩

theorem ktHandleReceivedMetadata_otherIdeal (cbs : KtCallbacks app)
    {rx : Memory} {bufferSize : Nat} {b : MetaBuffer} {s s' : KtState app}
    (hsize : bufferSize ≠ 0)
    (htype : responseType rx = appHmiMetadataResponseType)
    (hversion : responseVersion rx = appHmiMetadataVersion)
    (hle : nbUsers rx ≤ maxUsersSupportedPerFrame) (hne : nbUsers rx ≠ 0)
    (hideal : idealUserOffset rx < bufferSize ∧ rx (idealUserOffset rx) ≠
      AppHmiMetadataOutputDataType.idealUserOutputData.code)
    (hbuffer : ktGetMetadataBuffer s = (some b, s')) (hlength : b.length ≠ 0) :
    ktHandleReceivedMetadata cbs rx bufferSize s =
      (.assertFailed .idealDataType, s') := by
  rw [ktHandleReceivedMetadata, if_neg hsize, if_neg (acceptedHeader htype hversion),
    if_neg (not_lt.mpr hle), if_neg hne, hbuffer]
  simp only [if_neg hlength, if_pos hideal]

/-- What is in memory when the first callback is made, if the first buffer has
room for the users who have been identified. -/
theorem IdentifiedPass.sameOutside {rx : Memory} {ideal : Option Nat}
    {b : MetaBuffer} {heap : Memory} {start st : FacePass} {n : Nat}
    (hpass : IdentifiedPass rx ideal b start n st)
    (hstart : start.heap = setBiNext heap b.address 0)
    (hfits : pdFaces st.countOfIdentifiedUsers ≤ b.length) (hb : b.Usable) :
    SameOutside b heap
      (st.put b 0 (leBytes 4 st.countOfIdentifiedUsers)).heap := by
  intro x hx
  have hge := hb.length_ge
  rw [FacePass.put_heap, Memory.store_apply_of_not_mem (by simp; lia),
    hpass.same x, hstart, setBiNext_of_not_mem (by lia)]
  simp only [pdFaces] at *
  lia

/-- The face ids only depend on the slots that are reported. -/
theorem reportedFaceId_eq {rx : Memory} {ideal : Option Nat}
    {heap heap' : Memory} {out : MetaBuffer} {j i : Nat}
    (hzero : j = 0 -> identifiedUsers rx (loopCount rx) = [] ∨
      heap'.load32 (out.address + pdFaces 0) = 0)
    (hlater : j ≠ 0 -> forall x, out.address + 12 ≤ x ->
      x < out.address + pdFaces (j + 1) -> heap' x = heap x) :
    leftFaceId ideal (identifiedUsers rx (loopCount rx)).length heap'
        out.address j i =
      reportedFaceId rx ideal heap out j i := by
  unfold reportedFaceId
  by_cases hj : j = 0
  · subst hj
    rw [if_pos rfl, leftFaceId]
    rcases hzero rfl with hnone | hload
    · simp [hnone]
    · simp [hload]
  · rw [if_neg hj, leftFaceId, leftFaceId]
    have hload : heap'.load32 (out.address + pdFaces j) =
        heap.load32 (out.address + pdFaces j) := by
      apply Memory.load32_congr
      intro x hlow hhigh
      apply hlater hj x
      · simp only [pdFaces] at *
        lia
      · simp only [pdFaces] at *
        lia
    rw [hload]

/-- A buffer that has just been taken out of the FIFO has no face id in its
first slot: the pointer that was there has been cleared. -/
theorem load32_setBiNext_zero (heap : Memory) (p : Int) :
    (setBiNext heap p 0).load32 (p + pdFaces 0) = 0 := by
  have hbyte : forall x, p ≤ x -> x < p + 8 -> setBiNext heap p 0 x = 0 := by
    intro x hlow hhigh
    rw [setBiNext, Memory.store_apply_of_mem (by simp; lia), Int.toNat_zero,
      leBytes_zero, List.getD_replicate 0 (by lia)]
  have hload : (setBiNext heap p 0).load32 (p + pdFaces 0) =
      Memory.load32 (fun _ => 0) (p + pdFaces 0) := by
    apply Memory.load32_congr
    intro x hlow hhigh
    simp only [pdFaces] at hlow hhigh
    exact hbyte x (by lia) (by lia)
  rw [hload]
  simp [Memory.load32, Memory.load, List.range_succ]

/-- With nobody identified, the others are reported in the first buffer. -/
theorem handleUsers_noneIdentified {cbs : KtCallbacks app} {rx : Memory}
    {ideal : Option Nat} {b : MetaBuffer} {heap : Memory} {s : KtState app}
    {st : FacePass} (hcount : loopCount rx ≤ 20)
    (htype : forall i : Nat, i < loopCount rx -> userDataType rx i =
      AppHmiMetadataOutputDataType.userOutputData.code)
    (hcallback : cbs.kcOnFaceNotIdentified.isSome = true)
    (hloop : loopOver (identifiedUser rx ideal b) (List.range (loopCount rx))
      (s.startPass 0) = (none, st))
    (hpass : IdentifiedPass rx ideal b (s.startPass 0) (loopCount rx) st)
    (hheap : s.heap = setBiNext heap b.address 0)
    (hnone : identifiedUsers rx (loopCount rx) = []) :
    (handleUsers cbs rx ideal b s).2.reports =
      s.reports ++ unidentifiedReports rx ideal (loopCount rx) b.length
        (reportedFaceId rx ideal heap b) := by
  have hidentified : st.countOfIdentifiedUsers = 0 := by
    rw [hpass.identified, hnone]
    rfl
  have hrun : handleUsers cbs rx ideal b s =
      handleUnidentified cbs rx ideal st.countOfIdentifiedUsers
        st.countOfUnidentifiedUsers (some b) (s.finishPass
          (st.put b 0 (leBytes 4 st.countOfIdentifiedUsers))) := by
    cases hcb : cbs.kcOnFaceIdentified with
    | none =>
        simp only [handleUsers, hloop, hcb]
    | some callback =>
        simp only [handleUsers, hloop, hcb, if_pos hidentified]
  have hsame := hpass.same
  rw [hidentified] at hsame
  have hfaceId : forall j i,
      (unidentifiedUsers rx (loopCount rx))[j]? = some i ->
      leftFaceId ideal (identifiedUsers rx (loopCount rx)).length
          (st.put b 0 (leBytes 4 st.countOfIdentifiedUsers)).heap b.address
          j i =
        reportedFaceId rx ideal heap b j i := by
    intro j i _
    apply reportedFaceId_eq
    · intro _
      exact Or.inl hnone
    · intro _ x hlow _
      rw [FacePass.put_heap, Memory.store_apply_of_not_mem (by simp; lia),
        hsame x (Or.inr (by simp only [pdFaces]; lia)), KtState.startPass_heap,
        hheap, setBiNext_of_not_mem (by lia)]
  rw [hrun, hpass.unidentified, handleUnidentified_reuse hcount htype hcallback,
    KtState.finishPass_heap, KtState.finishPass_reports]
  rw [← hpass.identified] at hfaceId
  rw [unidentifiedReports_congr hfaceId]

/-- Otherwise those are reported in the first buffer and the others in the
second one. -/
theorem handleUsers_someIdentified {cbs : KtCallbacks app} {rx : Memory}
    {ideal : Option Nat} {b c : MetaBuffer} {rest : List MetaBuffer}
    {heap : Memory} {s : KtState app} {st : FacePass}
    {callback : app -> Memory -> Int -> AppReaction app}
    (hcount : loopCount rx ≤ 20)
    (htype : forall i : Nat, i < loopCount rx -> userDataType rx i =
      AppHmiMetadataOutputDataType.userOutputData.code)
    (hlarge : pdFaces (loopCount rx) ≤ c.length)
    (hidentified : cbs.kcOnFaceIdentified = some callback)
    (hcallback : cbs.kcOnFaceNotIdentified.isSome = true)
    (hloop : loopOver (identifiedUser rx ideal b) (List.range (loopCount rx))
      (s.startPass 0) = (none, st))
    (hpass : IdentifiedPass rx ideal b (s.startPass 0) (loopCount rx) st)
    (hheld : FifoHolds (st.put b 0
      (leBytes 4 st.countOfIdentifiedUsers)).heap s.fifo (c :: rest))
    (hcourteous : Courteous (c :: rest)
      (st.put b 0 (leBytes 4 st.countOfIdentifiedUsers)).heap
      (callback s.app (st.put b 0
        (leBytes 4 st.countOfIdentifiedUsers)).heap b.address))
    (hsame : SameIn c heap
      (st.put b 0 (leBytes 4 st.countOfIdentifiedUsers)).heap)
    (hsome : identifiedUsers rx (loopCount rx) ≠ []) :
    (handleUsers cbs rx ideal b s).2.reports =
      s.reports ++ identifiedReports rx ideal (loopCount rx) b.length ++
        unidentifiedReports rx ideal (loopCount rx) c.length
          (reportedFaceId rx ideal heap c) := by
  have hlt : st.countOfIdentifiedUsers < 2 ^ 32 := by
    have hle := identifiedUsers_length_le rx (loopCount rx)
    rw [hpass.identified]
    lia
  have hne : st.countOfIdentifiedUsers ≠ 0 := by
    rw [hpass.identified]
    simpa using hsome
  have hstart : FifoHolds (s.finishPass
      (st.put b 0 (leBytes 4 st.countOfIdentifiedUsers))).heap
      (s.finishPass
        (st.put b 0 (leBytes 4 st.countOfIdentifiedUsers))).fifo
      (c :: rest) := hheld
  rcases runCallback_courteous true hstart hcourteous
    with ⟨s', hcalled, hheld', hcontents, hreports, -⟩
  have hrun : handleUsers cbs rx ideal b s =
      handleUnidentified cbs rx ideal st.countOfIdentifiedUsers
        st.countOfUnidentifiedUsers none s' := by
    simp only [handleUsers, hloop, hidentified, if_neg hne, hcalled]
  have hfaceId : forall j i,
      (unidentifiedUsers rx (loopCount rx))[j]? = some i ->
      leftFaceId ideal (identifiedUsers rx (loopCount rx)).length
          (setBiNext s'.heap c.address 0) c.address j i =
        reportedFaceId rx ideal heap c j i := by
    intro j i hj
    rcases List.getElem?_eq_some_iff.mp hj with ⟨hjlt, -⟩
    have hjle := unidentifiedUsers_length_le rx (loopCount rx)
    apply reportedFaceId_eq
    · intro _
      exact Or.inr (load32_setBiNext_zero _ _)
    · intro _ x hlow hhigh
      have hin : x < c.address + c.length := by
        simp only [pdFaces] at *
        lia
      rw [setBiNext_of_not_mem (by lia),
        hcontents c List.mem_cons_self x hlow hin]
      exact (hsame x (by lia) hin).symm
  rw [List.cons_append] at hheld'
  rw [hrun, hpass.unidentified,
    handleUnidentified_second hheld' hcount htype hcallback, hreports,
    KtState.finishPass_heap, KtState.finishPass_reports, readPpeData_put hlt,
    hpass.faces, hpass.identified, unidentifiedReports_congr hfaceId,
    identifiedReports, if_neg hsome]

/-- What is reported about a message that follows the layout. -/
theorem ktHandleReceivedMetadata_reports {cbs : KtCallbacks app} {rx : Memory}
    {bufferSize : Nat} {b c : MetaBuffer} {rest : List MetaBuffer}
    {s : KtState app} (hrx : Conforming rx bufferSize)
    (h : Ready cbs rx b c rest s) :
    (ktHandleReceivedMetadata cbs rx bufferSize s).2.reports =
      s.reports ++
        identifiedReports rx (idealUser rx bufferSize) (loopCount rx)
          b.length ++
        unidentifiedReports rx (idealUser rx bufferSize) (loopCount rx)
          (unidentifiedBuffer rx b c).length
          (reportedFaceId rx (idealUser rx bufferSize) s.heap
            (unidentifiedBuffer rx b c)) := by
  have hcount := hrx.loopCount_eq
  have hsize : bufferSize ≠ 0 := by
    have hnonneg := hrx.nbUsers_nonneg
    rcases hrx.idealUser with hend | ⟨hend, -⟩ <;>
      simp only [idealUserOffset, trackedUser] at hend <;> lia
  by_cases hzero : nbUsers rx = 0
  · have hnone : loopCount rx = 0 := by
      lia
    rw [ktHandleReceivedMetadata_nobody cbs s hsize hrx.responseType
      hrx.responseVersion hzero, hnone]
    simp [identifiedReports, unidentifiedReports, identifiedUsers,
      unidentifiedUsers]
  · have htype : forall i : Nat, i < loopCount rx -> userDataType rx i =
        AppHmiMetadataOutputDataType.userOutputData.code := by
      intro i hi
      exact hrx.userType i (by lia)
    have hideal : idealUserOffset rx < bufferSize -> rx (idealUserOffset rx) =
        AppHmiMetadataOutputDataType.idealUserOutputData.code := by
      intro hlt
      rcases hrx.idealUser with hend | ⟨-, hcode⟩
      · lia
      · exact hcode
    have hb := h.held.usable b List.mem_cons_self
    have hapart := List.pairwise_cons.mp h.held.apart
    rcases ktHandleReceivedMetadata_users cbs hsize hrx.responseType
      hrx.responseVersion hrx.nbUsers_le hzero hideal h.held
      with ⟨fifo, hrun, hheld⟩
    have hpasses := identifiedUsers_pass_of_type rx (idealUser rx bufferSize) b
      (rfl : (KtState.startPass { s with
        fifo := fifo
        heap := setBiNext s.heap b.address 0 } 0).countOfIdentifiedUsers = 0)
      rfl htype
    rcases hpasses with ⟨st, hloop, hpass⟩
    have hfits : pdFaces st.countOfIdentifiedUsers ≤ b.length := by
      have hle := identifiedUsers_length_le rx (loopCount rx)
      have hlarge := h.firstLarge
      rw [hpass.identified]
      simp only [pdFaces] at *
      lia
    have hsame := hpass.sameOutside rfl hfits hb
    rw [hrun]
    by_cases hnone : identifiedUsers rx (loopCount rx) = []
    · rw [handleUsers_noneIdentified hrx.loopCount_le htype h.notIdentified
        hloop hpass rfl hnone]
      simp [identifiedReports, unidentifiedBuffer, hnone]
    · rcases h.identified with ⟨callback, hcallback, hcourteous⟩
      have hsameIn : forall d, d ∈ c :: rest -> SameIn d s.heap
          (st.put b 0 (leBytes 4 st.countOfIdentifiedUsers)).heap := by
        intro d hd x hlow hhigh
        apply (hsame x _).symm
        rcases hapart.1 d hd with hbefore | hafter <;> lia
      have hheld' : FifoHolds (st.put b 0
          (leBytes 4 st.countOfIdentifiedUsers)).heap fifo (c :: rest) := by
        apply hheld.congr
        intro d hd x hlow hhigh
        rw [← hsameIn d hd x hlow hhigh, setBiNext_of_not_mem]
        have hge := hb.length_ge
        rcases hapart.1 d hd with hbefore | hafter <;> lia
      rw [handleUsers_someIdentified hrx.loopCount_le htype h.secondLarge
        hcallback h.notIdentified hloop hpass hheld' (hcourteous _ hsame)
        (hsameIn c List.mem_cons_self) hnone]
      simp [unidentifiedBuffer, hnone]

/-- The users are split into two reports, whatever their order: each of the
reports is made once or, if it would be empty, not at all, and its faces are
those of the users of its kind in wire order.  The face ids of the second report
are left open. -/
theorem ktHandleReceivedMetadata_splits {cbs : KtCallbacks app} {rx : Memory}
    {bufferSize : Nat} {b c : MetaBuffer} {rest : List MetaBuffer}
    {s : KtState app} (hrx : Conforming rx bufferSize)
    (h : Ready cbs rx b c rest s) :
    exists faceId,
      (ktHandleReceivedMetadata cbs rx bufferSize s).2.reports =
        s.reports ++
          identifiedReports rx (idealUser rx bufferSize) (loopCount rx)
            b.length ++
          unidentifiedReports rx (idealUser rx bufferSize) (loopCount rx)
            (unidentifiedBuffer rx b c).length faceId :=
  ⟨_, ktHandleReceivedMetadata_reports hrx h⟩

/-!
## Sample messages
-/

section Samples

/-- A staging buffer with some bytes of a message in it. -/
def received (bytes : List UInt8) : Memory := fun x =>
  if 0 ≤ x then bytes.getD x.toNat 0 else 0

/-- The metadata size and the header of a message with some users. -/
def messageHeader (users : UInt8) : List UInt8 :=
  [0, 0, 0, 1, 8] ++ List.replicate 26 0 ++ [users, 0, 0, 0]

/-- The record of a user with a face id and the left edge of the box. -/
def userRecord (faceId left : UInt8) : List UInt8 :=
  [0, 0, 0, 0, 0, 0, faceId] ++ List.replicate 9 0 ++ [left] ++
    List.replicate 59 0

/-- The record of the ideal user. -/
def idealRecord (index : UInt8) : List UInt8 :=
  [1, 0, 0, 0, index] ++ List.replicate 23 0

/-- The second of three users has been identified and is the ideal one. -/
def threeUsers : List UInt8 :=
  messageHeader 3 ++ userRecord 0 10 ++ userRecord 5 20 ++ userRecord 0 30 ++
    idealRecord 1

def firstBuffer : MetaBuffer := { address := 1000, length := 600 }

def secondBuffer : MetaBuffer := { address := 2000, length := 600 }

/-- The application has handed over some buffers. -/
def handedOver (buffers : List MetaBuffer) (heap : Memory) : KtState Unit :=
  (loopOver ktAddMetadataBuffer buffers
    { fifo := ktBufFifoInit, heap := heap, app := (), reports := [],
      stores := [] }).2

def twoBuffers (heap : Memory) : KtState Unit :=
  handedOver [firstBuffer, secondBuffer] heap

/-- An application that keeps every buffer it is called back with. -/
def keepingCallbacks : KtCallbacks Unit :=
  { kcOnFaceIdentified := some fun _ heap _ =>
      { app := (), heap := heap, added := [] }
    kcOnFaceNotIdentified := some fun _ heap _ =>
      { app := (), heap := heap, added := [] } }

theorem fifoHolds_handedOver {buffers : List MetaBuffer}
    (husable : forall b, b ∈ buffers -> b.Usable)
    (hapart : buffers.Pairwise MetaBuffer.Apart) (heap : Memory) :
    FifoHolds (handedOver buffers heap).heap (handedOver buffers heap).fifo
      buffers := by
  have hinit : FifoHolds
      ({ fifo := ktBufFifoInit
         heap := heap
         app := ()
         reports := []
         stores := [] } : KtState Unit).heap ktBufFifoInit [] :=
    fifoHolds_init heap
  rcases loopOver_ktAddMetadataBuffer hinit husable hapart
    with ⟨s, hloop, hall⟩
  have hstate : handedOver buffers heap = s := by
    rw [handedOver, hloop]
  rw [hstate]
  exact hall.held

theorem fifoHolds_twoBuffers (heap : Memory) :
    FifoHolds (twoBuffers heap).heap (twoBuffers heap).fifo
      [firstBuffer, secondBuffer] := by
  apply fifoHolds_handedOver
  · intro b hb
    simp only [List.mem_cons, List.not_mem_nil, or_false] at hb
    rcases hb with rfl | rfl <;> constructor <;> decide
  · simp [MetaBuffer.Apart, firstBuffer, secondBuffer]

theorem ready_twoBuffers {rx : Memory} (hcount : loopCount rx ≤ 20)
    (heap : Memory) :
    Ready keepingCallbacks rx firstBuffer secondBuffer [] (twoBuffers heap) := by
  constructor
  · exact fifoHolds_twoBuffers heap
  · simp only [pdFaces, firstBuffer]
    lia
  · simp only [pdFaces, secondBuffer]
    lia
  · refine ⟨_, rfl, ?_⟩
    intro heap' _
    constructor
    · intro b _ x _ _
      rfl
    · simp
    · simp
  · rfl

theorem conforming_threeUsers :
    Conforming (received threeUsers) threeUsers.length := by
  have hcount : nbUsers (received threeUsers) = 3 := by
    decide +kernel
  constructor
  · decide +kernel
  · decide +kernel
  · rw [hcount]
    decide
  · rw [hcount]
    decide
  · intro i hi
    rw [hcount] at hi
    have hcases : i = 0 ∨ i = 1 ∨ i = 2 := by
      lia
    rcases hcases with rfl | rfl | rfl <;> decide +kernel
  · exact Or.inr (by decide +kernel)

theorem ktHandleReceivedMetadata_splits_three :
    exists faceId,
      (ktHandleReceivedMetadata keepingCallbacks (received threeUsers)
          threeUsers.length (twoBuffers fun _ => 0)).2.reports =
        (twoBuffers fun _ => 0).reports ++
          identifiedReports (received threeUsers)
            (idealUser (received threeUsers) threeUsers.length)
            (loopCount (received threeUsers)) 600 ++
          unidentifiedReports (received threeUsers)
            (idealUser (received threeUsers) threeUsers.length)
            (loopCount (received threeUsers)) 600 faceId :=
  ktHandleReceivedMetadata_splits conforming_threeUsers
    (ready_twoBuffers (by decide +kernel) fun _ => 0)

end Samples

end KtLib
end GardHub
