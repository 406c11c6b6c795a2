import GardHub.KtLib.Reports

/-!
# Old face ids

The application recycles the buffers it is called back with, so a buffer may
hold the face ids of an earlier message.  Which messages are reported without
them.
-/

namespace GardHub
namespace KtLib

open Foundation
open Interface

variable {app : Type}

/-- Two states that differ only in what some buffers held before. -/
structure DifferInBuffers (buffers : List MetaBuffer)
    (s s' : KtState app) : Prop where
  fifo : s'.fifo = s.fifo
  app : s'.app = s.app
  reports : s'.reports = s.reports
  stores : s'.stores = s.stores
  heap : forall x,
    (forall b, b ∈ buffers -> x < b.address ∨ b.address + b.length ≤ x) ->
    s'.heap x = s.heap x

/-- Face ids are reported of users who have been identified only. -/
def NoFaceIds (reports : List Report) : Prop :=
  forall r, r ∈ reports -> r.identified = false ->
    forall face, face ∈ r.faces -> face.fdFaceId = 0

/-- What is reported about a message does not depend on what the application's
buffers held before, and nobody who has not been identified has a face id. -/
def ReportsOnlyMessage (rx : Memory) (bufferSize : Nat) : Prop :=
  forall (app : Type) (cbs : KtCallbacks app) (b c : MetaBuffer)
    (rest : List MetaBuffer) (s s' : KtState app),
    Ready cbs rx b c rest s -> Ready cbs rx b c rest s' ->
    DifferInBuffers (b :: c :: rest) s s' ->
    (ktHandleReceivedMetadata cbs rx bufferSize s).2.reports =
        (ktHandleReceivedMetadata cbs rx bufferSize s').2.reports ∧
      NoFaceIds ((ktHandleReceivedMetadata cbs rx bufferSize s).2.reports.drop
        s.reports.length)

/-- Every user who has not been identified, except the first one of them, is at
the position that the number of identified users gives, or is the ideal user. -/
def FaceIdsCleared (rx : Memory) (bufferSize : Nat) : Prop :=
  forall j i : Nat, 0 < j ->
    (unidentifiedUsers rx (loopCount rx))[j]? = some i ->
    j = (identifiedUsers rx (loopCount rx)).length ∨
      idealUser rx bufferSize = some i

theorem FaceIdsCleared.reportedFaceId {rx : Memory} {bufferSize : Nat}
    (h : FaceIdsCleared rx bufferSize) (heap : Memory) (out : MetaBuffer)
    {j i : Nat} (hi : (unidentifiedUsers rx (loopCount rx))[j]? = some i) :
    reportedFaceId rx (idealUser rx bufferSize) heap out j i = 0 := by
  unfold KtLib.reportedFaceId
  by_cases hj : j = 0
  · rw [if_pos hj]
  · rw [if_neg hj, leftFaceId, if_pos]
    rcases h j i (Nat.pos_of_ne_zero hj) hi with hcount | hideal
    · exact Or.inl hcount.symm
    · exact Or.inr hideal

theorem noFaceIds_append {front back : List Report} (hfront : NoFaceIds front)
    (hback : NoFaceIds back) : NoFaceIds (front ++ back) := by
  intro r hr
  rcases List.mem_append.mp hr with hr | hr
  · exact hfront r hr
  · exact hback r hr

theorem noFaceIds_identifiedReports (rx : Memory) (ideal : Option Nat)
    (n declared : Nat) :
    NoFaceIds (identifiedReports rx ideal n declared) := by
  intro r hr hidentified
  unfold identifiedReports at hr
  split at hr
  · cases hr
  · rcases List.mem_singleton.mp hr with rfl
    cases hidentified

theorem noFaceIds_unidentifiedReports (rx : Memory) (ideal : Option Nat)
    (n declared : Nat) :
    NoFaceIds (unidentifiedReports rx ideal n declared fun _ _ => 0) := by
  intro r hr _ face hface
  unfold unidentifiedReports at hr
  split at hr
  · cases hr
  · rcases List.mem_singleton.mp hr with rfl
    rcases List.mem_mapIdx.mp hface with ⟨j, hj, rfl⟩
    rfl

/-- With the face ids cleared, the reports are those of the message. -/
theorem FaceIdsCleared.reports {cbs : KtCallbacks app} {rx : Memory}
    {bufferSize : Nat} {b c : MetaBuffer} {rest : List MetaBuffer}
    {s : KtState app} (hclear : FaceIdsCleared rx bufferSize)
    (hrx : Conforming rx bufferSize) (h : Ready cbs rx b c rest s) :
    (ktHandleReceivedMetadata cbs rx bufferSize s).2.reports =
      s.reports ++
        identifiedReports rx (idealUser rx bufferSize) (loopCount rx)
          b.length ++
        unidentifiedReports rx (idealUser rx bufferSize) (loopCount rx)
          (unidentifiedBuffer rx b c).length
          fun _ _ => 0 := by
  rw [ktHandleReceivedMetadata_reports hrx h]
  have hzero : forall j i,
      (unidentifiedUsers rx (loopCount rx))[j]? = some i ->
      KtLib.reportedFaceId rx (idealUser rx bufferSize) s.heap
        (unidentifiedBuffer rx b c) j i = 0 := by
    intro j i hi
    exact hclear.reportedFaceId _ _ hi
  rw [unidentifiedReports_congr hzero]

theorem FaceIdsCleared.reportsOnlyMessage {rx : Memory} {bufferSize : Nat}
    (hclear : FaceIdsCleared rx bufferSize) (hrx : Conforming rx bufferSize) :
    ReportsOnlyMessage rx bufferSize := by
  intro app cbs b c rest s s' h h' hdiffer
  rw [hclear.reports hrx h, hclear.reports hrx h', hdiffer.reports]
  refine ⟨rfl, ?_⟩
  rw [List.append_assoc, List.drop_left]
  exact noFaceIds_append (noFaceIds_identifiedReports _ _ _ _)
    (noFaceIds_unidentifiedReports _ _ _ _)

/-!
## Recycled buffers
-/

/-- Adding the two buffers keeps what is behind their first 12 bytes. -/
theorem twoBuffers_heap {heap : Memory} {x : Int}
    (hfirst : x < 1000 ∨ 1012 ≤ x) (hsecond : x < 2000 ∨ 2012 ≤ x) :
    (twoBuffers heap).heap x = heap x := by
  have hheap : (twoBuffers heap).heap = setBiNext
      ((setBiNext ((setBiNext heap 1000 0).store 1008 (leBytes 4 600)) 2000
        0).store 2008 (leBytes 4 600)) 1000 2000 := rfl
  rw [hheap, setBiNext_of_not_mem (by lia),
    Memory.store_apply_of_not_mem (by simp; lia),
    setBiNext_of_not_mem (by lia),
    Memory.store_apply_of_not_mem (by simp; lia),
    setBiNext_of_not_mem (by lia)]

/-- A slot of a buffer that held ones before holds a face id. -/
theorem load32_twoBuffers_ones {b : MetaBuffer} {j : Nat} (hpos : 0 < j)
    (hb : b = firstBuffer ∧ j < 21 ∨ b = secondBuffer) :
    (twoBuffers fun _ => 1).heap.load32 (b.address + pdFaces j) =
      2 ^ 24 + 2 ^ 16 + 2 ^ 8 + 1 := by
  have hload : (twoBuffers fun _ => 1).heap.load32 (b.address + pdFaces j) =
      Memory.load32 (fun _ => 1) (b.address + pdFaces j) := by
    apply Memory.load32_congr
    intro x hlow hhigh
    apply twoBuffers_heap <;> rcases hb with ⟨rfl, hj⟩ | rfl <;>
      simp only [pdFaces, firstBuffer, secondBuffer] at hlow hhigh <;> lia
  rw [hload]
  simp [Memory.load32, Memory.load, List.range_succ]

/-- Otherwise a face id is reported that is not in the message. -/
theorem ReportsOnlyMessage.faceIdsCleared {rx : Memory} {bufferSize : Nat}
    (h : ReportsOnlyMessage rx bufferSize) (hrx : Conforming rx bufferSize) :
    FaceIdsCleared rx bufferSize := by
  intro j i hpos hi
  by_contra hstale
  have hready := ready_twoBuffers hrx.loopCount_le fun _ => 1
  have hdiffer : DifferInBuffers [firstBuffer, secondBuffer]
      (twoBuffers fun _ => 1) (twoBuffers fun _ => 1) :=
    ⟨rfl, rfl, rfl, rfl, fun _ _ => rfl⟩
  have hnone := (h Unit keepingCallbacks firstBuffer secondBuffer []
    (twoBuffers fun _ => 1) (twoBuffers fun _ => 1) hready hready hdiffer).2
  rw [ktHandleReceivedMetadata_reports hrx hready, List.append_assoc,
    List.drop_left] at hnone
  have hsome : unidentifiedUsers rx (loopCount rx) ≠ [] := by
    intro hempty
    rw [hempty] at hi
    cases hi
  rw [unidentifiedReports, if_neg hsome] at hnone
  -- The user at the position is reported with what the slot held before.
  rcases List.getElem?_eq_some_iff.mp hi with ⟨hj, -⟩
  have hjle := unidentifiedUsers_length_le rx (loopCount rx)
  have hcount := hrx.loopCount_le
  have hface : wireFace rx (idealUser rx bufferSize)
      (reportedFaceId rx (idealUser rx bufferSize) (twoBuffers fun _ => 1).heap
        (unidentifiedBuffer rx firstBuffer secondBuffer) j i) i ∈
      (unidentifiedUsers rx (loopCount rx)).mapIdx fun j i =>
        wireFace rx (idealUser rx bufferSize)
          (reportedFaceId rx (idealUser rx bufferSize)
            (twoBuffers fun _ => 1).heap
            (unidentifiedBuffer rx firstBuffer secondBuffer) j i) i := by
    apply List.mem_of_getElem?
    rw [List.getElem?_mapIdx, hi, Option.map_some]
  have hzero := hnone _ (List.mem_append_right _ List.mem_cons_self) rfl _ hface
  have hbuffer : unidentifiedBuffer rx firstBuffer secondBuffer = firstBuffer ∧
        j < 21 ∨
      unidentifiedBuffer rx firstBuffer secondBuffer = secondBuffer := by
    unfold unidentifiedBuffer
    split
    · exact Or.inl ⟨rfl, by lia⟩
    · exact Or.inr rfl
  have hleft : ¬ ((identifiedUsers rx (loopCount rx)).length = j ∨
      idealUser rx bufferSize = some i) := by
    rintro (hslot | hideal)
    · exact hstale (Or.inl hslot.symm)
    · exact hstale (Or.inr hideal)
  simp only [wireFace, reportedFaceId, if_neg (Nat.ne_of_gt hpos), leftFaceId,
    if_neg hleft, load32_twoBuffers_ones hpos hbuffer] at hzero
  lia

/-- The reports are those of the message exactly when every position but the
first has its face id cleared. -/
theorem ktHandleReceivedMetadata_reports_message_iff {rx : Memory}
    {bufferSize : Nat} (hrx : Conforming rx bufferSize) :
    ReportsOnlyMessage rx bufferSize <-> FaceIdsCleared rx bufferSize :=
  ⟨fun h => h.faceIdsCleared hrx, fun h => h.reportsOnlyMessage hrx⟩

theorem ktHandleReceivedMetadata_reports_message_three :
    ReportsOnlyMessage (received threeUsers) threeUsers.length := by
  apply (ktHandleReceivedMetadata_reports_message_iff
    conforming_threeUsers).mpr
  have husers : unidentifiedUsers (received threeUsers)
      (loopCount (received threeUsers)) = [0, 2] := by
    decide +kernel
  have hidentified : (identifiedUsers (received threeUsers)
      (loopCount (received threeUsers))).length = 1 := by
    decide +kernel
  intro j i hpos hi
  rcases List.getElem?_eq_some_iff.mp hi with ⟨hj, -⟩
  rw [husers] at hj
  rw [hidentified]
  exact Or.inl (by simp at hj; lia)

/-- Two users of whom nobody has been identified. -/
def twoStrangers : List UInt8 :=
  messageHeader 2 ++ userRecord 0 10 ++ userRecord 0 20

theorem conforming_twoStrangers :
    Conforming (received twoStrangers) twoStrangers.length := by
  have hcount : nbUsers (received twoStrangers) = 2 := by
    decide +kernel
  constructor
  · decide +kernel
  · decide +kernel
  · rw [hcount]
    decide
  · rw [hcount]
    decide
  · intro i hi
    rw [hcount] at hi
    have hcases : i = 0 ∨ i = 1 := by
      lia
    rcases hcases with rfl | rfl <;> decide +kernel
  · exact Or.inl (by decide +kernel)

/-- The second of two strangers is reported with an old face id. -/
theorem ktHandleReceivedMetadata_reports_old_faceId :
    Conforming (received twoStrangers) twoStrangers.length ∧
      ¬ ReportsOnlyMessage (received twoStrangers) twoStrangers.length := by
  refine ⟨conforming_twoStrangers, ?_⟩
  intro h
  have husers : (unidentifiedUsers (received twoStrangers)
      (loopCount (received twoStrangers)))[1]? = some 1 := by
    decide +kernel
  rcases h.faceIdsCleared conforming_twoStrangers 1 1 (by decide) husers
    with hcount | hideal
  · exact absurd hcount (by decide +kernel)
  · exact absurd hideal (by decide +kernel)

end KtLib
end GardHub
