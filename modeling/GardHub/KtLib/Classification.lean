import GardHub.KtLib.HandlerRules

/-!
# Telling messages apart

The documented layout of a metadata message, with all the records that may trail
behind those of the users, and what the handler makes of messages that follow it
and of messages that do not.
-/

namespace GardHub
namespace KtLib

open Foundation
open Interface

variable {app : Type}

/-- `APP_HMI_METADATA_MAX_TRACKED_USERS` -/
def appHmiMetadataMaxTrackedUsers : Int := 10

/-- From an offset to the end of the message there are whole records of an ideal
user or of an ideal hand. -/
inductive TrailingRecords (rx : Memory) (bufferSize : Int) : Int -> Prop
  | done : TrailingRecords rx bufferSize bufferSize
  | idealUser {offset : Int}
      (code : rx offset = AppHmiMetadataOutputDataType.idealUserOutputData.code)
      (rest : TrailingRecords rx bufferSize (offset + 28)) :
      TrailingRecords rx bufferSize offset
  | idealHand {offset : Int}
      (code : rx offset = AppHmiMetadataOutputDataType.idealHandOutputData.code)
      (rest : TrailingRecords rx bufferSize (offset + 104)) :
      TrailingRecords rx bufferSize offset

/-- The documented layout: the header, exactly `nb_users` records of users, and
zero or more trailing records. -/
structure Documented (rx : Memory) (bufferSize : Nat) : Prop where
  responseType : responseType rx = appHmiMetadataResponseType
  responseVersion : responseVersion rx = appHmiMetadataVersion
  nbUsers_nonneg : 0 ≤ nbUsers rx
  nbUsers_le : nbUsers rx ≤ appHmiMetadataMaxTrackedUsers
  userType : forall i : Nat, (i : Int) < nbUsers rx ->
    userDataType rx i = AppHmiMetadataOutputDataType.userOutputData.code
  trailing : TrailingRecords rx bufferSize (idealUserOffset rx)

/-- Behind the users the message ends, or the record of an ideal user follows.
Nothing else may stand where the handler looks for one. -/
def IdealUserFirst (rx : Memory) (bufferSize : Nat) : Prop :=
  idealUserOffset rx < bufferSize ->
    rx (idealUserOffset rx) =
      AppHmiMetadataOutputDataType.idealUserOutputData.code

/-- The handler accepts what follows the layout and rejects what does not. -/
def TellsApart (outcome : MetaOutcome) (documented : Prop) : Prop :=
  (documented -> outcome = .returned true) ∧
    (¬ documented -> outcome = .returned false)

/-- Two buffers wait, the first one with room for every user.  The first
callback is courteous to the buffers that wait while it runs, and the second
one, which is the last to be called, only adds buffers that may be added. -/
structure BuffersAvailable (cbs : KtCallbacks app) (b c : MetaBuffer)
    (rest : List MetaBuffer) (s : KtState app) : Prop where
  held : FifoHolds s.heap s.fifo (b :: c :: rest)
  large : pdFaces appHmiMetadataMaxTrackedUsers.toNat ≤ b.length
  identified : forall callback, cbs.kcOnFaceIdentified = some callback ->
    forall heap, SameOutside b s.heap heap ->
      Courteous (c :: rest) heap (callback s.app heap b.address)
  notIdentified : forall callback, cbs.kcOnFaceNotIdentified = some callback ->
    forall a heap p buffer, buffer ∈ (callback a heap p).added -> buffer.Usable

/-!
## Documented messages
-/

theorem TrailingRecords.offset_le {rx : Memory} {bufferSize offset : Int}
    (h : TrailingRecords rx bufferSize offset) : offset ≤ bufferSize := by
  induction h with
  | done =>
      exact le_refl _
  | idealUser _ _ ih =>
      lia
  | idealHand _ _ ih =>
      lia

namespace Documented

variable {rx : Memory} {bufferSize : Nat}

theorem loopCount_eq (h : Documented rx bufferSize) :
    (loopCount rx : Int) = nbUsers rx := by
  have hle := h.nbUsers_le
  apply KtLib.loopCount_eq h.nbUsers_nonneg
  unfold appHmiMetadataMaxTrackedUsers at hle
  unfold maxUsersSupportedPerFrame
  lia

theorem loopCount_le (h : Documented rx bufferSize) : loopCount rx ≤ 10 := by
  have hle := h.nbUsers_le
  rw [← h.loopCount_eq] at hle
  unfold appHmiMetadataMaxTrackedUsers at hle
  lia

theorem loopCount_pos (h : Documented rx bufferSize) (hne : nbUsers rx ≠ 0) :
    0 < loopCount rx := by
  have hcount := h.loopCount_eq
  lia

theorem nbUsers_le_supported (h : Documented rx bufferSize) :
    nbUsers rx ≤ maxUsersSupportedPerFrame := by
  have hle := h.nbUsers_le
  unfold appHmiMetadataMaxTrackedUsers at hle
  unfold maxUsersSupportedPerFrame
  lia

theorem userType_of_lt (h : Documented rx bufferSize) :
    forall i : Nat, i < loopCount rx -> userDataType rx i =
      AppHmiMetadataOutputDataType.userOutputData.code := by
  intro i hi
  have hcount := h.loopCount_eq
  exact h.userType i (by lia)

theorem bufferSize_ne_zero (h : Documented rx bufferSize) : bufferSize ≠ 0 := by
  have hnonneg := h.nbUsers_nonneg
  have hend := h.trailing.offset_le
  simp only [idealUserOffset, trackedUser] at hend
  lia

end Documented

/-!
## The outcome of the handler
-/

section Outcome

variable {cbs : KtCallbacks app} {rx : Memory} {ideal : Option Nat}
  {s : KtState app}

/-- Adding buffers that may be added never fails, whatever is waiting. -/
theorem loopOver_ktAddMetadataBuffer_usable {added : List MetaBuffer}
    (h : forall buffer, buffer ∈ added -> buffer.Usable) :
    exists s', loopOver ktAddMetadataBuffer added s = (none, s') := by
  induction added generalizing s with
  | nil =>
      exact ⟨s, rfl⟩
  | cons buffer rest ih =>
      have hbuffer := h buffer List.mem_cons_self
      have hadd : (ktAddMetadataBuffer buffer s).1 = none := by
        rw [ktAddMetadataBuffer, ktAddBufferToFifo,
          if_neg hbuffer.address_ne_zero, if_neg hbuffer.not_short]
        split <;> rfl
      have hstep : ktAddMetadataBuffer buffer s =
          (none, (ktAddMetadataBuffer buffer s).2) := Prod.ext hadd rfl
      rw [loopOver_cons_of_none _ hstep]
      exact ih fun d hd => h d (List.mem_cons_of_mem _ hd)

theorem callNotIdentified_usable {n : Nat} {out : MetaBuffer}
    (h : forall callback, cbs.kcOnFaceNotIdentified = some callback ->
      forall a heap p buffer, buffer ∈ (callback a heap p).added ->
        buffer.Usable) :
    CallsBack (callNotIdentified cbs out) n out s fun _ => True := by
  intro s' _ _
  cases hcallback : cbs.kcOnFaceNotIdentified with
  | none =>
      exact ⟨s', by rw [callNotIdentified, hcallback], trivial⟩
  | some callback =>
      rw [callNotIdentified, hcallback]
      rcases loopOver_ktAddMetadataBuffer_usable
        (h callback hcallback s'.app s'.heap out.address)
        with ⟨s'', hloop⟩
      exact ⟨s'', hloop, trivial⟩

/-- The handler has no way to say that it has rejected a message. -/
theorem reportUnidentified_ne_false {identified : Nat} {out : MetaBuffer} :
    (reportUnidentified cbs rx ideal identified out s).1 ≠ .returned false := by
  simp only [reportUnidentified]
  repeat' split
  all_goals simp

theorem handleUnidentified_ne_false {identified unidentified : Nat}
    {pOutData : Option MetaBuffer} :
    (handleUnidentified cbs rx ideal identified unidentified pOutData s).1 ≠
      .returned false := by
  simp only [handleUnidentified]
  repeat' split
  all_goals first | (simp; done) | exact reportUnidentified_ne_false

theorem handleUsers_ne_false {out : MetaBuffer} :
    (handleUsers cbs rx ideal out s).1 ≠ .returned false := by
  simp only [handleUsers]
  repeat' split
  all_goals first | (simp; done) | exact handleUnidentified_ne_false

theorem ktHandleReceivedMetadata_ne_false (cbs : KtCallbacks app) (rx : Memory)
    (bufferSize : Nat) (s : KtState app) :
    (ktHandleReceivedMetadata cbs rx bufferSize s).1 ≠ .returned false := by
  simp only [ktHandleReceivedMetadata]
  repeat' split
  all_goals first | (simp; done) | exact handleUsers_ne_false

theorem BuffersAvailable.handleUsers {b c : MetaBuffer}
    {rest : List MetaBuffer} {bufferSize : Nat}
    (h : BuffersAvailable cbs b c rest s) (hrx : Documented rx bufferSize)
    (hne : nbUsers rx ≠ 0) {fifo : BufFifo}
    (hheld : FifoHolds (setBiNext s.heap b.address 0) fifo (c :: rest)) :
    exists s', handleUsers cbs rx ideal b
      { s with fifo := fifo, heap := setBiNext s.heap b.address 0 } =
        (.returned true, s') ∧ True := by
  have hb := h.held.usable b List.mem_cons_self
  have hge := hb.length_ge
  have hle := hrx.loopCount_le
  have hlarge : pdFaces (loopCount rx) ≤ b.length := by
    apply le_trans _ h.large
    simp only [pdFaces, appHmiMetadataMaxTrackedUsers]
    lia
  have hapart := List.pairwise_cons.mp h.held.apart
  apply handleUsers_rule hrx.userType_of_lt (by lia) (hrx.loopCount_pos hne)
  · intro callback hcallback s' hfilled _
    have hsame : SameOutside b s.heap s'.heap := by
      intro x hx
      rw [hfilled.same x (by lia)]
      exact setBiNext_of_not_mem (by lia)
    have hkept : FifoHolds s'.heap s'.fifo (c :: rest) := by
      rw [hfilled.fifo]
      apply hheld.congr
      intro d hd x hlow hhigh
      symm
      apply hfilled.same
      rcases hapart.1 d hd with hbefore | hafter <;> lia
    have hcourteous := h.identified callback hcallback s'.heap hsame
    have happ : s'.app = s.app := hfilled.app
    rw [← happ] at hcourteous
    rcases runCallback_courteous true hkept hcourteous
      with ⟨s'', hcalled, hheld', -⟩
    refine ⟨s'', hcalled, trivial, ?_⟩
    rw [List.cons_append] at hheld'
    rcases hheld'.ktGetMetadataBuffer with ⟨fifo', hbuffer, -⟩
    have hc := (hheld'.usable c List.mem_cons_self).length_ne_zero
    exact ⟨c, _, hbuffer, hc, callNotIdentified_usable h.notIdentified⟩
  · exact callNotIdentified_usable h.notIdentified
  · intro _ _ _
    trivial

/-- A documented message is accepted if nothing but the record of an ideal user
stands behind the users. -/
theorem ktHandleReceivedMetadata_documented {b c : MetaBuffer}
    {rest : List MetaBuffer} {bufferSize : Nat}
    (h : BuffersAvailable cbs b c rest s) (hrx : Documented rx bufferSize)
    (hideal : nbUsers rx = 0 ∨ IdealUserFirst rx bufferSize) :
    (ktHandleReceivedMetadata cbs rx bufferSize s).1 = .returned true := by
  by_cases hzero : nbUsers rx = 0
  · rw [ktHandleReceivedMetadata_nobody cbs s hrx.bufferSize_ne_zero
      hrx.responseType hrx.responseVersion hzero]
  · rcases ktHandleReceivedMetadata_users cbs hrx.bufferSize_ne_zero
      hrx.responseType hrx.responseVersion hrx.nbUsers_le_supported hzero
      (hideal.resolve_left hzero) h.held with ⟨fifo, hrun, hheld⟩
    rcases h.handleUsers hrx hzero hheld
      with ⟨s', hreturned, -⟩
    rw [hrun, hreturned]

/-- Any other one fails an assertion, from which there is no return. -/
theorem ktHandleReceivedMetadata_hand {b c : MetaBuffer}
    {rest : List MetaBuffer} {bufferSize : Nat}
    (hheld : FifoHolds s.heap s.fifo (b :: c :: rest))
    (hrx : Documented rx bufferSize) (hne : nbUsers rx ≠ 0)
    (hideal : ¬ IdealUserFirst rx bufferSize) :
    (ktHandleReceivedMetadata cbs rx bufferSize s).1 =
      .assertFailed .idealDataType := by
  rw [IdealUserFirst, Classical.not_imp] at hideal
  rcases hheld.ktGetMetadataBuffer with ⟨fifo, hbuffer, -⟩
  have hlength := (hheld.usable b List.mem_cons_self).length_ne_zero
  rw [ktHandleReceivedMetadata_otherIdeal cbs hrx.bufferSize_ne_zero
    hrx.responseType hrx.responseVersion hrx.nbUsers_le_supported hne hideal
    hbuffer hlength]

/-- The handler tells messages apart exactly where it has nothing to tell: a
message that does not follow the layout is never rejected, and of the others
those with a hand first behind their users are not accepted. -/
theorem ktHandleReceivedMetadata_tellsApart_iff {b c : MetaBuffer}
    {rest : List MetaBuffer} {bufferSize : Nat}
    (h : BuffersAvailable cbs b c rest s) :
    TellsApart (ktHandleReceivedMetadata cbs rx bufferSize s).1
        (Documented rx bufferSize) <->
      Documented rx bufferSize ∧
        (nbUsers rx = 0 ∨ IdealUserFirst rx bufferSize) := by
  constructor
  · intro htells
    have hrx : Documented rx bufferSize := by
      by_contra hother
      exact ktHandleReceivedMetadata_ne_false cbs rx bufferSize s
        (htells.2 hother)
    refine ⟨hrx, ?_⟩
    by_contra hneither
    rcases not_or.mp hneither with ⟨hne, hideal⟩
    have hstopped : (ktHandleReceivedMetadata cbs rx bufferSize s).1 =
        .assertFailed .idealDataType :=
      ktHandleReceivedMetadata_hand h.held hrx hne hideal
    rw [htells.1 hrx] at hstopped
    cases hstopped
  · rintro ⟨hrx, hideal⟩
    exact ⟨fun _ => ktHandleReceivedMetadata_documented h hrx hideal,
      fun hother => absurd hrx hother⟩

end Outcome

/-!
## Sample messages
-/

section Samples

/-- The record of an ideal hand. -/
def handRecord : List UInt8 := [2] ++ List.replicate 103 0

/-- A user who has been identified, and a hand. -/
def userWithHand : List UInt8 :=
  messageHeader 1 ++ userRecord 5 20 ++ handRecord

/-- No users, in an older version of the layout. -/
def olderVersion : List UInt8 := [0, 0, 0, 1, 7] ++ List.replicate 30 0

theorem buffersAvailable_twoBuffers (heap : Memory) :
    BuffersAvailable keepingCallbacks firstBuffer secondBuffer []
      (twoBuffers heap) := by
  constructor
  · exact fifoHolds_twoBuffers heap
  · decide
  · rintro callback ⟨rfl⟩ heap' _
    constructor
    · intro b _ x _ _
      rfl
    · simp
    · simp
  · rintro callback ⟨rfl⟩ a heap' p buffer hbuffer
    cases hbuffer

theorem documented_threeUsers :
    Documented (received threeUsers) threeUsers.length := by
  have hoffset : idealUserOffset (received threeUsers) = 263 := by
    decide +kernel
  have hlength : ((threeUsers.length : Nat) : Int) = 291 := by
    decide +kernel
  constructor
  · exact conforming_threeUsers.responseType
  · exact conforming_threeUsers.responseVersion
  · exact conforming_threeUsers.nbUsers_nonneg
  · decide +kernel
  · exact conforming_threeUsers.userType
  · rw [hoffset, hlength]
    exact .idealUser (by decide +kernel) .done

theorem documented_userWithHand :
    Documented (received userWithHand) userWithHand.length := by
  have hcount : nbUsers (received userWithHand) = 1 := by
    decide +kernel
  have hoffset : idealUserOffset (received userWithHand) = 111 := by
    decide +kernel
  have hlength : ((userWithHand.length : Nat) : Int) = 215 := by
    decide +kernel
  constructor
  · decide +kernel
  · decide +kernel
  · rw [hcount]
    decide
  · rw [hcount]
    decide
  · intro i hi
    rw [hcount] at hi
    have hzero : i = 0 := by
      lia
    subst hzero
    decide +kernel
  · rw [hoffset, hlength]
    exact .idealHand (by decide +kernel) .done

theorem ktHandleReceivedMetadata_tellsApart_three :
    TellsApart
      (ktHandleReceivedMetadata keepingCallbacks (received threeUsers)
        threeUsers.length (twoBuffers fun _ => 0)).1
      (Documented (received threeUsers) threeUsers.length) := by
  apply (ktHandleReceivedMetadata_tellsApart_iff
    (buffersAvailable_twoBuffers fun _ => 0)).mpr
  refine ⟨documented_threeUsers, Or.inr ?_⟩
  intro _
  decide +kernel

/-- A documented message with a hand, and one of an older version, both end the
program. -/
theorem ktHandleReceivedMetadata_stops :
    (Documented (received userWithHand) userWithHand.length ∧
      (ktHandleReceivedMetadata keepingCallbacks (received userWithHand)
          userWithHand.length (twoBuffers fun _ => 0)).1 =
        .assertFailed .idealDataType) ∧
    (¬ Documented (received olderVersion) olderVersion.length ∧
      (ktHandleReceivedMetadata keepingCallbacks (received olderVersion)
          olderVersion.length (twoBuffers fun _ => 0)).1 =
        .assertFailed .responseHeader) ∧
    ¬ (forall (rx : Memory) (bufferSize : Nat) (s : KtState Unit),
      BuffersAvailable keepingCallbacks firstBuffer secondBuffer [] s ->
        TellsApart
          (ktHandleReceivedMetadata keepingCallbacks rx bufferSize s).1
          (Documented rx bufferSize)) := by
  have hhand : (ktHandleReceivedMetadata keepingCallbacks
      (received userWithHand) userWithHand.length (twoBuffers fun _ => 0)).1 =
      .assertFailed .idealDataType := by
    decide +kernel
  refine ⟨⟨documented_userWithHand, hhand⟩, ⟨?_, by decide +kernel⟩, ?_⟩
  · intro hrx
    exact absurd hrx.responseVersion (by decide +kernel)
  · intro hall
    have htrue := (hall _ _ _ (buffersAvailable_twoBuffers fun _ => 0)).1
      documented_userWithHand
    rw [hhand] at htrue
    cases htrue

end Samples

end KtLib
end GardHub
