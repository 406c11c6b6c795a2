import GardHub.KtLib.Extends
import GardHub.KtLib.ReceivedBytes

/-!
# Bytes of earlier messages

A message of which something is read that has not been received: two staging
buffers are found that differ there and are handled differently.  No callback
is needed for that, because what is put into the metadata buffer shows what has
been read.
-/

namespace GardHub
namespace KtLib

open Foundation
open Interface

/-- An application without face callbacks. -/
def quietCallbacks : KtCallbacks Unit :=
  { kcOnFaceIdentified := none
    kcOnFaceNotIdentified := none }

section Quiet

variable {rx rx' : Memory} {ideal ideal' : Option Nat} {out : MetaBuffer}
  {s : KtState Unit} {n i : Nat}

/-!
## How a run ends
-/

/-- A user stops the first pass, or the run ends otherwise. -/
theorem handleUsers_outcome :
    ((exists i, i < loopCount rx ∧ identifiedStop rx i = true) ∧
      (handleUsers quietCallbacks rx ideal out s).1 =
        .assertFailed .userDataType) ∨
    ((forall i, i < loopCount rx -> identifiedStop rx i = false) ∧
      ((handleUsers quietCallbacks rx ideal out s).1 = .returned true ∨
        (handleUsers quietCallbacks rx ideal out s).1 =
          .assertFailed .unidentifiedDataType)) := by
  have hpasses := identifiedUsers_pass rx ideal out (loopCount rx)
    (rfl : (s.startPass 0).countOfIdentifiedUsers = 0) rfl
  rcases hpasses with ⟨st, hpass, ⟨hreached, hloop⟩ | ⟨hreached, hloop⟩⟩
  · right
    refine ⟨not_identifiedStop_of_loopOver hloop, ?_⟩
    have hrest := unidentifiedUsers_pass rx ideal out (loopCount rx)
      (rfl : ((s.finishPass (st.put out 0
        (leBytes 4 st.countOfIdentifiedUsers))).startPass
          st.countOfIdentifiedUsers).countOfUnidentifiedUsers = 0)
    rcases hrest with ⟨st', -, ⟨-, hloop'⟩ | ⟨-, hloop'⟩⟩ <;>
      simp only [handleUsers, hloop, quietCallbacks, handleUnidentified,
        reportUnidentified, hloop'] <;>
      split <;> simp
  · left
    refine ⟨⟨_, hreached, stops_firstStop hreached⟩, ?_⟩
    simp only [handleUsers, hloop]

/-- The first pass is stopped exactly if a user stops it. -/
theorem handleUsers_userDataType_iff :
    (handleUsers quietCallbacks rx ideal out s).1 =
        .assertFailed .userDataType <->
      exists i, i < loopCount rx ∧ identifiedStop rx i = true := by
  rcases @handleUsers_outcome rx ideal out s
    with ⟨hstops, hend⟩ | ⟨hgoes, hend⟩
  · exact iff_of_true hend hstops
  · apply iff_of_false
    · rcases hend with hend | hend <;> simp [hend]
    · rintro ⟨i, hi, hstops⟩
      rw [hgoes i hi] at hstops
      cases hstops

theorem handleUsers_ne_idealDataType :
    (handleUsers quietCallbacks rx ideal out s).1 ≠
      .assertFailed .idealDataType := by
  rcases @handleUsers_outcome rx ideal out s
    with ⟨-, hend⟩ | ⟨-, hend | hend⟩ <;> simp [hend]

/-!
## What a run puts into the buffer
-/

theorem identifiedUser_grows (st : FacePass) :
    st.stores <+: (identifiedUser rx ideal out i st).2.stores := by
  unfold identifiedUser
  split
  · exact List.prefix_rfl
  · split
    · exact List.prefix_rfl
    · exact ⟨_, (fillFace_stores rx ideal out _ _ i st).symm⟩

theorem unidentifiedUser_grows (st : FacePass) :
    st.stores <+: (unidentifiedUser rx ideal out i st).2.stores := by
  unfold unidentifiedUser
  split
  · exact List.prefix_rfl
  · split
    · exact List.prefix_rfl
    · exact ⟨_, (fillFace_stores rx ideal out _ _ i st).symm⟩

theorem loopOver_grows {body : Nat -> FacePass -> Option AssertSite × FacePass}
    (hbody : forall i st, st.stores <+: (body i st).2.stores)
    (indices : List Nat) (st : FacePass) :
    st.stores <+: (loopOver body indices st).2.stores := by
  have hstep : forall i, i ∈ indices -> forall t : FacePass,
      st.stores <+: t.stores -> st.stores <+: (body i t).2.stores := by
    intro i _ t ht
    exact ht.trans (hbody i t)
  exact loopOver_preserves indices hstep List.prefix_rfl

theorem loopOver_body_stores
    {body : Nat -> FacePass -> Option AssertSite × FacePass}
    (hbody : forall i st, st.stores <+: (body i st).2.stores)
    {st t u : FacePass} (hi : i < n)
    (hfront : loopOver body (List.range i) st = (none, t))
    (hstep : body i t = (none, u)) :
    u.stores <+: (loopOver body (List.range n) st).2.stores := by
  have hnext : loopOver body (List.range (i + 1)) st = (none, u) := by
    rw [List.range_succ, loopOver_append_of_none _ hfront,
      loopOver_cons_of_none _ hstep]
    rfl
  rw [loopOver_range_of_le hi hnext]
  exact loopOver_grows hbody _ u

/-- Two users are filled in from the same face id and the same bottom edge, and
both are the ideal user or neither is. -/
structure SameFace (rx rx' : Memory) (ideal ideal' : Option Nat) (i : Nat) :
    Prop where
  faceId : faceIdOfTrackedUser rx' i = faceIdOfTrackedUser rx i
  bottom : personBottom rx' i = personBottom rx i
  ideal : ideal' = some i <-> ideal = some i

theorem faceId_of_leBytes
    (h : leBytes 4 (faceIdOfTrackedUser rx' i) = leBytes 4 (faceIdOfTrackedUser rx i)) :
    faceIdOfTrackedUser rx' i = faceIdOfTrackedUser rx i := by
  have hlt := faceIdOfTrackedUser_lt rx i
  have hlt' := faceIdOfTrackedUser_lt rx' i
  have hvalue := congrArg leValue h
  rwa [leValue_leBytes_of_lt (by norm_num; lia),
    leValue_leBytes_of_lt (by norm_num; lia)] at hvalue

theorem faceStores_inj {idSlot slot : Nat} {back back' : List MetaStore}
    (h : faceStores rx' ideal' out idSlot slot i ++ back' =
      faceStores rx ideal out idSlot slot i ++ back) :
    SameFace rx rx' ideal ideal' i := by
  unfold faceStores at h
  by_cases hideal : ideal = some i
  · by_cases hideal' : ideal' = some i
    · simp only [if_pos hideal, if_pos hideal', List.cons_append,
        List.cons.injEq, MetaStore.mk.injEq, true_and] at h
      exact ⟨faceId_of_leBytes h.1, h.2.2.2.2.1, by simp [hideal, hideal']⟩
    · simp [hideal, hideal'] at h
  · by_cases hideal' : ideal' = some i
    · simp [hideal, hideal'] at h
    · simp only [if_neg hideal, if_neg hideal', List.cons_append,
        List.cons.injEq, MetaStore.mk.injEq, true_and] at h
      exact ⟨faceId_of_leBytes h.1, h.2.2.2.2.1, by simp [hideal, hideal']⟩

theorem sameFace_of_stores {idSlot slot : Nat}
    {front stores : List MetaStore}
    (h : front ++ faceStores rx ideal out idSlot slot i <+: stores)
    (h' : front ++ faceStores rx' ideal' out idSlot slot i <+: stores) :
    SameFace rx rx' ideal ideal' i := by
  rcases h with ⟨back, hback⟩
  rcases h' with ⟨back', hback'⟩
  rw [← hback, List.append_assoc, List.append_assoc] at hback'
  exact faceStores_inj (List.append_cancel_left hback')

theorem identifiedUser_fills (ideal : Option Nat) (out : MetaBuffer)
    (st : FacePass)
    (hface : faceIdOfTrackedUser rx i ≠ 0)
    (hgoes : identifiedStop rx i = false) :
    exists u, identifiedUser rx ideal out i st = (none, u) ∧
      u.stores = st.stores ++ faceStores rx ideal out
        st.countOfIdentifiedUsers st.countOfIdentifiedUsers i := by
  have htype : ¬ userDataType rx i ≠
      AppHmiMetadataOutputDataType.userOutputData.code := by
    intro hother
    simp [identifiedStop, hface] at hgoes
    exact hother hgoes
  refine ⟨_, by rw [identifiedUser, if_neg hface, if_neg htype], ?_⟩
  exact fillFace_stores rx ideal out _ _ i st

theorem unidentifiedUser_fills (ideal : Option Nat) (out : MetaBuffer)
    (st : FacePass)
    (hface : faceIdOfTrackedUser rx i = 0)
    (hgoes : unidentifiedStop rx i = false) :
    exists u, unidentifiedUser rx ideal out i st = (none, u) ∧
      u.stores = st.stores ++ faceStores rx ideal out
        st.countOfIdentifiedUsers st.countOfUnidentifiedUsers i := by
  have htype : ¬ userDataType rx i ≠
      AppHmiMetadataOutputDataType.userOutputData.code := by
    intro hother
    simp [unidentifiedStop, hface] at hgoes
    exact hother hgoes
  refine ⟨_, by rw [unidentifiedUser, if_neg (not_not.mpr hface),
    if_neg htype], ?_⟩
  exact fillFace_stores rx ideal out _ _ i st

theorem handleUsers_firstPass_stores :
    (loopOver (identifiedUser rx ideal out) (List.range (loopCount rx))
        (s.startPass 0)).2.stores <+:
      (handleUsers quietCallbacks rx ideal out s).2.stores := by
  cases hloop : loopOver (identifiedUser rx ideal out)
      (List.range (loopCount rx)) (s.startPass 0) with
  | mk result st =>
      cases result with
      | none =>
          have hcount : Extends (s.finishPass st) (s.finishPass
              (st.put out 0 (leBytes 4 st.countOfIdentifiedUsers))) :=
            extends_count
          exact (hcount.trans (handleUsers_extends hloop)).stores
      | some site =>
          simp only [handleUsers, hloop]
          exact List.prefix_rfl

theorem handleUsers_secondPass_stores {st : FacePass}
    (hloop : loopOver (identifiedUser rx ideal out) (List.range (loopCount rx))
      (s.startPass 0) = (none, st))
    (hsome : st.countOfUnidentifiedUsers ≠ 0) :
    (loopOver (unidentifiedUser rx ideal out) (List.range (loopCount rx))
        ((s.finishPass (st.put out 0
          (leBytes 4 st.countOfIdentifiedUsers))).startPass
            st.countOfIdentifiedUsers)).2.stores <+:
      (handleUsers quietCallbacks rx ideal out s).2.stores := by
  have hrun : handleUsers quietCallbacks rx ideal out s =
      reportUnidentified quietCallbacks rx ideal st.countOfIdentifiedUsers out
        (s.finishPass
          (st.put out 0 (leBytes 4 st.countOfIdentifiedUsers))) := by
    simp only [handleUsers, hloop, quietCallbacks, handleUnidentified,
      if_neg hsome]
  rw [hrun]
  cases hrest : loopOver (unidentifiedUser rx ideal out)
      (List.range (loopCount rx)) ((s.finishPass (st.put out 0
        (leBytes 4 st.countOfIdentifiedUsers))).startPass
          st.countOfIdentifiedUsers) with
  | mk result st' =>
      cases result with
      | none =>
          simp only [reportUnidentified, hrest, quietCallbacks]
          exact List.prefix_append _ _
      | some site =>
          simp only [reportUnidentified, hrest]
          exact List.prefix_rfl

/-- Two runs that agree have filled in the same face for the first user that
their first passes may treat differently. -/
theorem firstPass_reveals (hcount : loopCount rx' = loopCount rx)
    (hi : i < loopCount rx)
    (hgoes : forall j, j ≤ i -> identifiedStop rx j = false)
    (hgoes' : identifiedStop rx' i = false)
    (hface : faceIdOfTrackedUser rx i ≠ 0)
    (hface' : faceIdOfTrackedUser rx' i ≠ 0)
    (hfront : forall j : Nat, j < i -> forall st,
      identifiedUser rx' ideal' out j st = identifiedUser rx ideal out j st)
    (hsame : handleUsers quietCallbacks rx' ideal' out s =
      handleUsers quietCallbacks rx ideal out s) :
    SameFace rx rx' ideal ideal' i := by
  have hpasses := identifiedUsers_pass rx ideal out i
    (rfl : (s.startPass 0).countOfIdentifiedUsers = 0) rfl
  rw [firstStop_eq fun j hj => hgoes j (Nat.le_of_lt hj)] at hpasses
  rcases hpasses with ⟨t, -, ⟨-, hloop⟩ | ⟨hlt, -⟩⟩
  · have hloop' : loopOver (identifiedUser rx' ideal' out) (List.range i)
        (s.startPass 0) = (none, t) := by
      rw [← hloop]
      exact firstPass_congr (fun j hj _ st => hfront j hj st) _
    rcases identifiedUser_fills ideal out t hface
      (hgoes i (le_refl i)) with ⟨u, hstep, hstores⟩
    rcases identifiedUser_fills ideal' out t hface' hgoes'
      with ⟨u', hstep', hstores'⟩
    have hprefix := (loopOver_body_stores (fun j st => identifiedUser_grows st)
      hi hloop hstep).trans handleUsers_firstPass_stores
    have hprefix' := (loopOver_body_stores (fun j st => identifiedUser_grows st)
      hi hloop' hstep').trans (hcount ▸ handleUsers_firstPass_stores)
    rw [hsame, hstores'] at hprefix'
    rw [hstores] at hprefix
    exact sameFace_of_stores hprefix hprefix'
  · lia

/-- So have two runs whose first passes agree, and their second passes before
some user. -/
theorem secondPass_reveals (hcount : loopCount rx' = loopCount rx)
    (hi : i < loopCount rx)
    (hfirst : forall j, j < loopCount rx -> identifiedStop rx j = false)
    (hfirst' : forall j : Nat, j < loopCount rx -> forall st,
      identifiedUser rx' ideal' out j st = identifiedUser rx ideal out j st)
    (hgoes : forall j, j ≤ i -> unidentifiedStop rx j = false)
    (hgoes' : unidentifiedStop rx' i = false)
    (hface : faceIdOfTrackedUser rx i = 0)
    (hface' : faceIdOfTrackedUser rx' i = 0)
    (hfront : forall j : Nat, j < i -> forall st,
      unidentifiedUser rx' ideal' out j st = unidentifiedUser rx ideal out j st)
    (hsame : handleUsers quietCallbacks rx' ideal' out s =
      handleUsers quietCallbacks rx ideal out s) :
    SameFace rx rx' ideal ideal' i := by
  have hpasses := identifiedUsers_pass rx ideal out (loopCount rx)
    (rfl : (s.startPass 0).countOfIdentifiedUsers = 0) rfl
  rw [firstStop_eq hfirst] at hpasses
  rcases hpasses with ⟨st, hpass, ⟨-, hloop⟩ | ⟨hlt, -⟩⟩
  · have hloop' : loopOver (identifiedUser rx' ideal' out)
        (List.range (loopCount rx')) (s.startPass 0) = (none, st) := by
      rw [← hloop, hcount]
      exact firstPass_congr (fun j hj _ st => hfirst' j hj st) _
    have hsome : st.countOfUnidentifiedUsers ≠ 0 := by
      have hmem : i ∈ unidentifiedUsers rx (loopCount rx) := by
        simp [unidentifiedUsers, hi, hface]
      rw [hpass.unidentified]
      exact Nat.ne_of_gt (List.length_pos_of_mem hmem)
    have hrest := unidentifiedUsers_pass rx ideal out i
      (rfl : ((s.finishPass (st.put out 0
        (leBytes 4 st.countOfIdentifiedUsers))).startPass
          st.countOfIdentifiedUsers).countOfUnidentifiedUsers = 0)
    rw [firstStop_eq fun j hj => hgoes j (Nat.le_of_lt hj)] at hrest
    rcases hrest with ⟨t, -, ⟨-, hrest⟩ | ⟨hlt, -⟩⟩
    · have hrest' : loopOver (unidentifiedUser rx' ideal' out) (List.range i)
          ((s.finishPass (st.put out 0
            (leBytes 4 st.countOfIdentifiedUsers))).startPass
              st.countOfIdentifiedUsers) = (none, t) := by
        rw [← hrest]
        exact secondPass_congr (fun j hj _ st => hfront j hj st) _
      rcases unidentifiedUser_fills ideal out t hface
        (hgoes i (le_refl i)) with ⟨u, hstep, hstores⟩
      rcases unidentifiedUser_fills ideal' out t hface'
        hgoes' with ⟨u', hstep', hstores'⟩
      have hprefix :=
        (loopOver_body_stores (fun j st => unidentifiedUser_grows st) hi hrest
          hstep).trans (handleUsers_secondPass_stores hloop hsome)
      have hprefix' :=
        (loopOver_body_stores (fun j st => unidentifiedUser_grows st) hi hrest'
          hstep').trans (hcount ▸ handleUsers_secondPass_stores hloop' hsome)
      rw [hsame, hstores'] at hprefix'
      rw [hstores] at hprefix
      exact sameFace_of_stores hprefix hprefix'
    · lia
  · lia

end Quiet

/-!
## Patched messages
-/

section Patched

variable {rx : Memory} {bufferSize : Nat}

theorem sameReceived_store {a : Int} {bytes : List UInt8}
    (h : bufferSize ≤ a ∨ a + bytes.length ≤ 0) :
    SameReceived bufferSize rx (rx.store a bytes) := by
  intro x hlow hhigh
  apply Memory.store_apply_of_not_mem
  lia

theorem DependsOnReceived.eq {rx1 rx2 : Memory}
    (h : DependsOnReceived rx bufferSize)
    (h1 : SameReceived bufferSize rx rx1) (h2 : SameReceived bufferSize rx rx2)
    (s : KtState Unit) :
    ktHandleReceivedMetadata quietCallbacks rx1 bufferSize s =
      ktHandleReceivedMetadata quietCallbacks rx2 bufferSize s := by
  rw [h rx1 h1 Unit quietCallbacks s, h rx2 h2 Unit quietCallbacks s]

/-- Without the version, there might be nobody in the message or another
version. -/
theorem DependsOnReceived.five_le (h : DependsOnReceived rx bufferSize)
    (hsize : 4 ≤ bufferSize)
    (htype : responseType rx = appHmiMetadataResponseType) :
    5 ≤ bufferSize := by
  by_contra hshort
  have hfour : bufferSize = 4 := by
    lia
  subst hfour
  have h1 : SameReceived 4 rx (rx.store 4 [9]) :=
    sameReceived_store (Or.inl (le_refl _))
  have h2 : SameReceived 4 rx (rx.store 4 (8 :: List.replicate 30 0)) :=
    sameReceived_store (Or.inl (le_refl _))
  have hnobody : nbUsers (rx.store 4 (8 :: List.replicate 30 0)) = 0 := by
    have hload : (rx.store 4 (8 :: List.replicate 30 0)).load32 31 =
        Memory.load32 (fun _ => 0) 31 := by
      apply Memory.load32_congr
      intro x hlow hhigh
      have hx : x = 31 ∨ x = 32 ∨ x = 33 ∨ x = 34 := by
        lia
      rcases hx with rfl | rfl | rfl | rfl <;> rfl
    rw [nbUsers, hload]
    decide
  have hheader1 : responseType (rx.store 4 [9]) ≠ appHmiMetadataResponseType ∨
      responseVersion (rx.store 4 [9]) ≠ appHmiMetadataVersion := by
    apply Or.inr
    rw [responseVersion, Memory.store_byte_same rfl]
    decide
  have hheader2 : ¬ (responseType (rx.store 4 (8 :: List.replicate 30 0)) ≠
        appHmiMetadataResponseType ∨
      responseVersion (rx.store 4 (8 :: List.replicate 30 0)) ≠
        appHmiMetadataVersion) := by
    rintro (hother | hother)
    · apply hother
      rw [← htype]
      exact h2 3 (by decide) (by decide)
    · exact hother rfl
  have hrun := h.eq h1 h2 (handedOver [] fun _ => 0)
  rw [ktHandleReceivedMetadata_otherHeader _ _ (by decide) hheader1,
    ktHandleReceivedMetadata, if_neg (by decide), if_neg hheader2, hnobody]
    at hrun
  simp [maxUsersSupportedPerFrame] at hrun

theorem nbUsers_store (rx : Memory) (byte : UInt8) :
    exists low, low < 2 ^ 24 ∧
      nbUsers (rx.store 34 [byte]) = toInt32 (low + 2 ^ 24 * byte.toNat) := by
  have h0 := (rx 31).toNat_lt
  have h1 := (rx 32).toNat_lt
  have h2 := (rx 33).toNat_lt
  refine ⟨(rx 31).toNat + 256 * ((rx 32).toNat + 256 * (rx 33).toNat),
    by lia, ?_⟩
  have hload : (rx.store 34 [byte]).load32 31 =
      (rx 31).toNat + 256 * ((rx 32).toNat +
        256 * ((rx 33).toNat + 256 * byte.toNat)) := by
    simp [Memory.load32, Memory.load, List.range_succ, Memory.store]
  rw [nbUsers, hload]
  congr 1
  lia

/-- Without the last byte of the number of users, there might be too many or a
negative number of them. -/
theorem DependsOnReceived.header_le (h : DependsOnReceived rx bufferSize)
    (hsize : 5 ≤ bufferSize)
    (htype : responseType rx = appHmiMetadataResponseType)
    (hversion : responseVersion rx = appHmiMetadataVersion) :
    35 ≤ bufferSize := by
  by_contra hshort
  have h1 : SameReceived bufferSize rx (rx.store 34 [127]) :=
    sameReceived_store (Or.inl (by lia))
  have h2 : SameReceived bufferSize rx (rx.store 34 [128]) :=
    sameReceived_store (Or.inl (by lia))
  have hheader : forall byte, ¬ (responseType (rx.store 34 [byte]) ≠
        appHmiMetadataResponseType ∨
      responseVersion (rx.store 34 [byte]) ≠ appHmiMetadataVersion) := by
    intro byte
    rw [responseType, responseVersion,
      Memory.store_apply_of_not_mem (Or.inl (by decide)),
      Memory.store_apply_of_not_mem (Or.inl (by decide)), ← htype, ← hversion]
    simp [responseType, responseVersion]
  have hmany : maxUsersSupportedPerFrame < nbUsers (rx.store 34 [127]) := by
    rcases nbUsers_store rx 127 with ⟨low, hlow, hcount⟩
    rw [hcount, toInt32_of_lt (by simp; lia)]
    simp [maxUsersSupportedPerFrame]
    lia
  have hnegative : nbUsers (rx.store 34 [128]) < 0 := by
    rcases nbUsers_store rx 128 with ⟨low, hlow, hcount⟩
    have hbyte : (128 : UInt8).toNat = 128 := rfl
    rw [hcount, hbyte, toInt32_of_ge (by lia) (by lia)]
    lia
  have hfew : ¬ maxUsersSupportedPerFrame < nbUsers (rx.store 34 [128]) := by
    simp [maxUsersSupportedPerFrame]
    lia
  have hempty : ktGetMetadataBuffer (handedOver [] fun _ => 0) =
      (none, handedOver [] fun _ => 0) := rfl
  have hrun := h.eq h1 h2 (handedOver [] fun _ => 0)
  have hnonempty : bufferSize ≠ 0 := by
    lia
  rw [ktHandleReceivedMetadata, ktHandleReceivedMetadata, if_neg hnonempty,
    if_neg hnonempty, if_neg (hheader 127), if_neg (hheader 128),
    if_pos hmany, if_neg hfew, if_neg (ne_of_lt hnegative), hempty] at hrun
  simp at hrun

/-!
## Messages whose header is accepted
-/

theorem SameReceived.identifiedStop {rx' : Memory}
    (h : SameReceived bufferSize rx rx') {i : Nat}
    (hi : trackedUser i + 7 ≤ bufferSize) :
    identifiedStop rx' i = identifiedStop rx i := by
  rw [KtLib.identifiedStop, KtLib.identifiedStop, h.faceId hi,
    h.userDataType (by lia)]

theorem SameReceived.unidentifiedStop {rx' : Memory}
    (h : SameReceived bufferSize rx rx') {i : Nat}
    (hi : trackedUser i + 7 ≤ bufferSize) :
    unidentifiedStop rx' i = unidentifiedStop rx i := by
  rw [KtLib.unidentifiedStop, KtLib.unidentifiedStop, h.faceId hi,
    h.userDataType (by lia)]

/-- A message with users whose header has been received and is accepted. -/
structure Accepted (rx : Memory) (bufferSize : Nat) : Prop where
  received : 35 ≤ bufferSize
  type : responseType rx = appHmiMetadataResponseType
  version : responseVersion rx = appHmiMetadataVersion
  count_le : nbUsers rx ≤ maxUsersSupportedPerFrame
  count_ne : nbUsers rx ≠ 0

theorem Accepted.congr {rx' : Memory} (h : Accepted rx bufferSize)
    (hsame : SameReceived bufferSize rx rx') : Accepted rx' bufferSize := by
  have hsize := h.received
  have hcount := hsame.nbUsers hsize
  refine ⟨hsize, ?_, ?_, by rw [hcount]; exact h.count_le,
    by rw [hcount]; exact h.count_ne⟩
  · rw [← h.type]
    exact hsame 3 (by decide) (by lia)
  · rw [← h.version]
    exact hsame 4 (by decide) (by lia)

theorem exists_got_firstBuffer : exists s',
    ktGetMetadataBuffer (handedOver [firstBuffer] fun _ => 0) =
      (some firstBuffer, s') := by
  have hheld : FifoHolds (handedOver [firstBuffer] fun _ => 0).heap
      (handedOver [firstBuffer] fun _ => 0).fifo [firstBuffer] := by
    apply fifoHolds_handedOver
    · intro b hb
      rcases List.mem_singleton.mp hb with rfl
      constructor <;> decide
    · exact List.pairwise_singleton _ _
  rcases hheld.ktGetMetadataBuffer with ⟨fifo, hbuffer, -⟩
  exact ⟨_, hbuffer⟩

theorem DependsOnReceived.handleUsers_eq {rx1 rx2 : Memory}
    (h : DependsOnReceived rx bufferSize) (haccepted : Accepted rx bufferSize)
    (h1 : SameReceived bufferSize rx rx1) (h2 : SameReceived bufferSize rx rx2)
    (hideal1 : idealUserOffset rx < bufferSize ->
      rx1 (idealUserOffset rx) =
        AppHmiMetadataOutputDataType.idealUserOutputData.code)
    (hideal2 : idealUserOffset rx < bufferSize ->
      rx2 (idealUserOffset rx) =
        AppHmiMetadataOutputDataType.idealUserOutputData.code) :
    exists s : KtState Unit,
      handleUsers quietCallbacks rx1 (idealUser rx1 bufferSize) firstBuffer s =
        handleUsers quietCallbacks rx2 (idealUser rx2 bufferSize) firstBuffer
          s := by
  have hsize := haccepted.received
  have ha1 := haccepted.congr h1
  have ha2 := haccepted.congr h2
  have hnonempty : bufferSize ≠ 0 := by
    lia
  rw [← h1.idealUserOffset hsize] at hideal1
  rw [← h2.idealUserOffset hsize] at hideal2
  rcases exists_got_firstBuffer with ⟨s', hbuffer⟩
  have hrun := h.eq h1 h2 (handedOver [firstBuffer] fun _ => 0)
  rw [ktHandleReceivedMetadata_got _ hnonempty ha1.type ha1.version
      ha1.count_le ha1.count_ne hideal1 hbuffer (by decide),
    ktHandleReceivedMetadata_got _ hnonempty ha2.type ha2.version
      ha2.count_le ha2.count_ne hideal2 hbuffer (by decide)] at hrun
  exact ⟨s', hrun⟩

/-- Where the message ends in front of the ideal user's record, there is no ideal
user. -/
theorem DependsOnReceived.handleUsers_ended {rx1 rx2 : Memory}
    (h : DependsOnReceived rx bufferSize) (haccepted : Accepted rx bufferSize)
    (hended : ¬ idealUserOffset rx < bufferSize)
    (h1 : SameReceived bufferSize rx rx1) (h2 : SameReceived bufferSize rx rx2) :
    exists s : KtState Unit, handleUsers quietCallbacks rx1 none firstBuffer s =
      handleUsers quietCallbacks rx2 none firstBuffer s := by
  have hnone : forall {rx'}, SameReceived bufferSize rx rx' ->
      idealUser rx' bufferSize = none := by
    intro rx' hsame
    rw [idealUser, hsame.idealUserOffset haccepted.received, if_neg hended]
  rcases h.handleUsers_eq haccepted h1 h2 (fun hstarted => absurd hstarted hended)
    (fun hstarted => absurd hstarted hended) with ⟨s, hrun⟩
  rw [hnone h1, hnone h2] at hrun
  exact ⟨s, hrun⟩

/-- With a negative number of users, the ideal user's record is looked for in
front of the message. -/
theorem DependsOnReceived.nbUsers_pos (h : DependsOnReceived rx bufferSize)
    (haccepted : Accepted rx bufferSize) : 0 < nbUsers rx := by
  by_contra hneg
  have hne := haccepted.count_ne
  have hsize := haccepted.received
  have hnonempty : bufferSize ≠ 0 := by
    lia
  have hfront : idealUserOffset rx + 1 ≤ 0 := by
    unfold idealUserOffset trackedUser
    lia
  have hstore : forall byte : UInt8, SameReceived bufferSize rx
      (rx.store (idealUserOffset rx) [byte]) := by
    intro byte
    exact sameReceived_store (Or.inr hfront)
  have ha0 := haccepted.congr (hstore 0)
  have ha1 := haccepted.congr (hstore 1)
  have hoffset0 := (hstore 0).idealUserOffset hsize
  have hoffset1 := (hstore 1).idealUserOffset hsize
  rcases exists_got_firstBuffer with ⟨s', hbuffer⟩
  have hother : idealUserOffset (rx.store (idealUserOffset rx) [0]) <
        bufferSize ∧
      (rx.store (idealUserOffset rx) [0])
          (idealUserOffset (rx.store (idealUserOffset rx) [0])) ≠
        AppHmiMetadataOutputDataType.idealUserOutputData.code := by
    rw [hoffset0, Memory.store_byte_same rfl]
    exact ⟨by lia, by decide⟩
  have hideal : idealUserOffset (rx.store (idealUserOffset rx) [1]) <
        bufferSize ->
      (rx.store (idealUserOffset rx) [1])
          (idealUserOffset (rx.store (idealUserOffset rx) [1])) =
        AppHmiMetadataOutputDataType.idealUserOutputData.code := by
    intro _
    rw [hoffset1, Memory.store_byte_same rfl]
    rfl
  have hrun := h.eq (hstore 0) (hstore 1) (handedOver [firstBuffer] fun _ => 0)
  rw [ktHandleReceivedMetadata_otherIdeal _ hnonempty ha0.type ha0.version
      ha0.count_le ha0.count_ne hother hbuffer (by decide),
    ktHandleReceivedMetadata_got _ hnonempty ha1.type ha1.version ha1.count_le
      ha1.count_ne hideal hbuffer (by decide)] at hrun
  exact handleUsers_ne_idealDataType (congrArg Prod.fst hrun).symm

/-- The first pass skips a user without a face id, whatever else is in memory. -/
theorem SameReceived.identifiedUser_absent {rx1 rx2 : Memory}
    (h1 : SameReceived bufferSize rx rx1) (h2 : SameReceived bufferSize rx rx2)
    {ideal1 ideal2 : Option Nat} {out : MetaBuffer} {i : Nat}
    (hi : trackedUser i + 7 ≤ bufferSize) (hnone : faceIdOfTrackedUser rx i = 0)
    (st : FacePass) :
    identifiedUser rx2 ideal2 out i st = identifiedUser rx1 ideal1 out i st := by
  apply identifiedUser_congr st
  · rw [h1.faceId hi, h2.faceId hi]
  · intro _
    rw [h1.userDataType (by lia), h2.userDataType (by lia)]
  · intro hsome
    rw [h1.faceId hi] at hsome
    exact absurd hnone hsome

/-- With every record received, two staging buffers are handled in the same way
only if they agree on whether the first face that is filled in is the ideal
user's. -/
theorem handleUsers_reveals_firstFilled {rx1 rx2 : Memory}
    {ideal1 ideal2 : Option Nat} {out : MetaBuffer} {s : KtState Unit}
    (h1 : SameReceived bufferSize rx rx1) (h2 : SameReceived bufferSize rx rx2)
    (hsize : 35 ≤ bufferSize) (hcount : 0 < loopCount rx)
    (hend : forall i : Nat, i < loopCount rx ->
      trackedUser i + 32 ≤ bufferSize)
    (htype : userDataType rx (firstFilled rx) =
      AppHmiMetadataOutputDataType.userOutputData.code)
    (hsame : handleUsers quietCallbacks rx2 ideal2 out s =
      handleUsers quietCallbacks rx1 ideal1 out s) :
    ideal2 = some (firstFilled rx) <-> ideal1 = some (firstFilled rx) := by
  have hloop1 := h1.loopCount hsize
  have hloop2 := h2.loopCount hsize
  have hreceived : forall i : Nat, i < loopCount rx ->
      trackedUser i + 7 ≤ bufferSize := by
    intro i hi
    have hrecord := hend i hi
    lia
  cases hhead : (identifiedUsers rx (loopCount rx)).head? with
  | some f =>
      rcases firstFilled_of_head hhead with ⟨hf, hface, hbefore⟩
      have hfirst : firstFilled rx = f := by
        simp [firstFilled, hhead]
      rw [hfirst] at htype ⊢
      have hgoes : forall j, j ≤ f -> identifiedStop rx j = false := by
        intro j hj
        rcases Nat.eq_or_lt_of_le hj with rfl | hlt
        · simp [identifiedStop, htype]
        · simp [identifiedStop, hbefore j hlt]
      have hstop1 : forall j, j ≤ f -> identifiedStop rx1 j = false := by
        intro j hj
        rw [h1.identifiedStop (hreceived j (by lia)), hgoes j hj]
      have hstop2 : identifiedStop rx2 f = false := by
        rw [h2.identifiedStop (hreceived f hf), hgoes f (le_refl f)]
      exact (firstPass_reveals (by rw [hloop1, hloop2]) (by rw [hloop1]; exact hf)
        hstop1 hstop2 (by rw [h1.faceId (hreceived f hf)]; exact hface)
        (by rw [h2.faceId (hreceived f hf)]; exact hface)
        (fun j hj => h1.identifiedUser_absent h2 (hreceived j (by lia)) (hbefore j hj))
        hsame).ideal
  | none =>
      have hnone := faceId_of_noHead hhead
      have hfirst : firstFilled rx = 0 := by
        simp [firstFilled, hhead]
      rw [hfirst] at htype ⊢
      have hzero := hreceived 0 hcount
      have hgoes : unidentifiedStop rx 0 = false := by
        rw [unidentifiedStop, htype]
        simp
      have hgoes1 : forall j, j < loopCount rx1 ->
          identifiedStop rx1 j = false := by
        intro j hj
        rw [hloop1] at hj
        simp [identifiedStop, h1.faceId (hreceived j hj), hnone j hj]
      have hskipped : forall j : Nat, j < loopCount rx1 -> forall st,
          identifiedUser rx2 ideal2 out j st = identifiedUser rx1 ideal1 out j st := by
        intro j hj
        rw [hloop1] at hj
        exact h1.identifiedUser_absent h2 (hreceived j hj) (hnone j hj)
      have hstop1 : forall j, j ≤ 0 -> unidentifiedStop rx1 j = false := by
        intro j hj
        rw [Nat.le_zero.mp hj, h1.unidentifiedStop hzero, hgoes]
      exact (secondPass_reveals (by rw [hloop1, hloop2])
        (by rw [hloop1]; exact hcount) hgoes1 hskipped hstop1
        (by rw [h2.unidentifiedStop hzero, hgoes])
        (by rw [h1.faceId hzero, hnone 0 hcount])
        (by rw [h2.faceId hzero, hnone 0 hcount])
        (fun j hj => absurd hj (Nat.not_lt_zero j)) hsame).ideal

theorem firstFilled_lt (hcount : 0 < loopCount rx) :
    firstFilled rx < loopCount rx := by
  cases hhead : (identifiedUsers rx (loopCount rx)).head? with
  | some f =>
      simpa [firstFilled, hhead] using (firstFilled_of_head hhead).1
  | none =>
      simpa [firstFilled, hhead] using hcount

/-- Without the index of the ideal user, the user whose face is filled in first
might be the ideal one or not. -/
theorem DependsOnReceived.idealUserReceived
    (h : DependsOnReceived rx bufferSize) (haccepted : Accepted rx bufferSize)
    (hstarted : idealUserOffset rx < bufferSize) :
    IdealUserReceived rx bufferSize := by
  have hpos := h.nbUsers_pos haccepted
  have hsize := haccepted.received
  have hcount := loopCount_eq hpos.le haccepted.count_le
  have hle := haccepted.count_le
  by_contra hnot
  simp only [IdealUserReceived, not_or, not_not, not_le] at hnot
  rcases hnot with ⟨hcode, hindex, htype⟩
  have hfirst := firstFilled_lt (by lia : 0 < loopCount rx)
  have hstore : forall byte : UInt8, SameReceived bufferSize rx
      (rx.store (idealUserOffset rx + 4) [byte]) := by
    intro byte
    exact sameReceived_store (Or.inl (by lia))
  have hideal : forall byte : UInt8,
      idealUser (rx.store (idealUserOffset rx + 4) [byte]) bufferSize =
        some byte.toNat := by
    intro byte
    rw [idealUser, (hstore byte).idealUserOffset hsize, if_pos hstarted,
      idealUserIndex, Memory.store_byte_same rfl]
  have hcodes : forall byte : UInt8, idealUserOffset rx < bufferSize ->
      (rx.store (idealUserOffset rx + 4) [byte]) (idealUserOffset rx) =
        AppHmiMetadataOutputDataType.idealUserOutputData.code := by
    intro byte _
    rw [Memory.store_apply_of_not_mem (Or.inl (by lia)), hcode]
  rcases h.handleUsers_eq haccepted (hstore (UInt8.ofNat (firstFilled rx)))
    (hstore 255) (hcodes _) (hcodes _) with ⟨s, hrun⟩
  rw [hideal, hideal] at hrun
  have hend := trackedUser_received hcount hstarted
  have hreveals := handleUsers_reveals_firstFilled
    (hstore (UInt8.ofNat (firstFilled rx))) (hstore 255) hsize (by lia) hend
    htype hrun.symm
  unfold maxUsersSupportedPerFrame at hle
  have hbyte : (UInt8.ofNat (firstFilled rx)).toNat = firstFilled rx := by
    simp
    lia
  have hother : (255 : UInt8).toNat = firstFilled rx :=
    Option.some.inj (hreveals.mpr (by rw [hbyte]))
  simp at hother
  lia

/-- The face id of a user, patched into a message that may already hold the type
of the record. -/
def patchedFaceId (rx : Memory) (i : Nat) (faceId : UInt8) : Memory :=
  (rx.store (trackedUser i) [0]).store (trackedUser i + 6) [faceId]

theorem faceId_patchedFaceId (rx : Memory) (i : Nat) (faceId : UInt8) :
    faceIdOfTrackedUser (patchedFaceId rx i faceId) i = faceId.toNat % 16 := by
  rw [faceIdOfTrackedUser_eq, patchedFaceId, Memory.store_byte_same rfl]

theorem identifiedStop_patchedFaceId (rx : Memory) (i : Nat) (faceId : UInt8) :
    identifiedStop (patchedFaceId rx i faceId) i = false := by
  have htype : userDataType (patchedFaceId rx i faceId) i =
      AppHmiMetadataOutputDataType.userOutputData.code := by
    rw [userDataType, patchedFaceId,
      Memory.store_apply_of_not_mem (Or.inl (by lia)),
      Memory.store_byte_same rfl]
    rfl
  rw [identifiedStop, htype]
  simp

theorem patchedFaceId_before {i : Nat} {faceId : UInt8} {x : Int}
    (h : x < trackedUser i) : patchedFaceId rx i faceId x = rx x := by
  rw [patchedFaceId, Memory.store_apply_of_not_mem (Or.inl (by lia)),
    Memory.store_apply_of_not_mem (Or.inl h)]

theorem sameReceived_patchedFaceId {i : Nat} (hcut : bufferSize < trackedUser i + 7)
    (hfree : bufferSize ≤ trackedUser i ∨ rx (trackedUser i) = 0) (faceId : UInt8) :
    SameReceived bufferSize rx (patchedFaceId rx i faceId) := by
  intro x hlow hhigh
  rw [patchedFaceId, Memory.store_apply_of_not_mem (Or.inl (by lia))]
  by_cases hx : x = trackedUser i
  · rw [hx, Memory.store_byte_same rfl]
    rcases hfree with hbehind | hzero
    · lia
    · exact hzero.symm
  · rw [Memory.store_apply_of_not_mem (by simp; lia)]

/-- The users in front are filled in as before. -/
theorem identifiedUser_patchedFaceId {ideal : Option Nat} {out : MetaBuffer}
    {i j : Nat} (hj : j < i) (faceId faceId' : UInt8) (st : FacePass) :
    identifiedUser (patchedFaceId rx i faceId') ideal out j st =
      identifiedUser (patchedFaceId rx i faceId) ideal out j st := by
  have hsame : forall x, x < trackedUser i ->
      patchedFaceId rx i faceId' x = patchedFaceId rx i faceId x := by
    intro x hx
    rw [patchedFaceId_before hx, patchedFaceId_before hx]
  have hlt : trackedUser j + 32 ≤ trackedUser i := by
    unfold trackedUser
    lia
  apply identifiedUser_congr st
  · exact faceIdOfTrackedUser_congr (hsame _ (by lia))
  · intro _
    exact hsame _ (by lia)
  · intro _ _
    exact ⟨fun x _ hx => hsame x (by lia), Iff.rfl⟩

/-- The face id of a user has not been received, those in front have, and none
of these stops the first pass. -/
structure FirstCutOff (rx : Memory) (bufferSize i : Nat) : Prop where
  user : i < loopCount rx
  cutOff : bufferSize < trackedUser i + 7
  received : forall j : Nat, j < i -> trackedUser j + 7 ≤ bufferSize
  goes : forall j : Nat, j < i -> identifiedStop rx j = false

/-- The user cannot be one that may be made an identified one: it would be with
any face id. -/
theorem FirstCutOff.notFree {i : Nat} (hi : FirstCutOff rx bufferSize i)
    (h : DependsOnReceived rx bufferSize) (haccepted : Accepted rx bufferSize)
    (hended : ¬ idealUserOffset rx < bufferSize) :
    ¬ (bufferSize ≤ trackedUser i ∨ rx (trackedUser i) = 0) := by
  intro hfree
  have hsize := haccepted.received
  have hpatch := sameReceived_patchedFaceId hi.cutOff hfree
  rcases h.handleUsers_ended haccepted hended (hpatch 1) (hpatch 2) with ⟨s, hrun⟩
  have hcount1 := (hpatch 1).loopCount hsize
  have hcount2 := (hpatch 2).loopCount hsize
  have hface1 := faceId_patchedFaceId rx i 1
  have hface2 := faceId_patchedFaceId rx i 2
  have hgoes1 : forall j, j ≤ i ->
      identifiedStop (patchedFaceId rx i 1) j = false := by
    intro j hj
    rcases Nat.eq_or_lt_of_le hj with rfl | hlt
    · exact identifiedStop_patchedFaceId rx j 1
    · rw [(hpatch 1).identifiedStop (hi.received j hlt), hi.goes j hlt]
  have hsame := firstPass_reveals (by rw [hcount1, hcount2])
    (by rw [hcount1]; exact hi.user) hgoes1 (identifiedStop_patchedFaceId rx i 2)
    (by rw [hface1]; decide) (by rw [hface2]; decide)
    (fun _ hj st => identifiedUser_patchedFaceId hj 1 2 st) hrun.symm
  have hfaceId := hsame.faceId
  rw [hface1, hface2] at hfaceId
  exact absurd hfaceId (by decide)

/-- Any other user would stop the first pass or not, depending on the face id. -/
theorem FirstCutOff.free {i : Nat} (hi : FirstCutOff rx bufferSize i)
    (h : DependsOnReceived rx bufferSize) (haccepted : Accepted rx bufferSize)
    (hended : ¬ idealUserOffset rx < bufferSize) :
    bufferSize ≤ trackedUser i ∨ rx (trackedUser i) = 0 := by
  by_contra hfree
  simp only [not_or, not_le] at hfree
  have hsize := haccepted.received
  have hcut := hi.cutOff
  have h1 : SameReceived bufferSize rx (rx.store (trackedUser i + 6) [1]) :=
    sameReceived_store (Or.inl (by lia))
  have h2 : SameReceived bufferSize rx
      (fun x => if x < bufferSize then rx x else 0) := by
    intro x _ hx
    simp only [if_pos hx]
  rcases h.handleUsers_ended haccepted hended h1 h2 with ⟨s, hrun⟩
  have hstops : identifiedStop (rx.store (trackedUser i + 6) [1]) i = true := by
    have htype : userDataType (rx.store (trackedUser i + 6) [1]) i =
        rx (trackedUser i) :=
      Memory.store_apply_of_not_mem (Or.inl (by lia))
    have hface : faceIdOfTrackedUser (rx.store (trackedUser i + 6) [1]) i = 1 := by
      rw [faceIdOfTrackedUser_eq, Memory.store_byte_same rfl]
      decide
    rw [identifiedStop, htype, hface]
    simpa using hfree.2
  have hend : (handleUsers quietCallbacks (rx.store (trackedUser i + 6) [1]) none
      firstBuffer s).1 = .assertFailed .userDataType :=
    handleUsers_userDataType_iff.mpr
      ⟨i, by rw [h1.loopCount hsize]; exact hi.user, hstops⟩
  rw [hrun] at hend
  rcases handleUsers_userDataType_iff.mp hend with ⟨j, hj, hstops'⟩
  rw [h2.loopCount hsize] at hj
  rcases Nat.lt_or_ge j i with hlt | hge
  · rw [h2.identifiedStop (hi.received j hlt), hi.goes j hlt] at hstops'
    cases hstops'
  · have hface : faceIdOfTrackedUser
        (fun x => if x < bufferSize then rx x else 0) j = 0 := by
      have hbehind : ¬ trackedUser j + 6 < (bufferSize : Int) := by
        unfold trackedUser at *
        lia
      rw [faceIdOfTrackedUser_eq]
      simp [hbehind]
    simp [identifiedStop, hface] at hstops'

/-- Without the face id of some user, that user might be anyone. -/
theorem DependsOnReceived.faceId_received (h : DependsOnReceived rx bufferSize)
    (haccepted : Accepted rx bufferSize)
    (hended : ¬ idealUserOffset rx < bufferSize)
    (hgoes : forall i : Nat, i < loopCount rx -> identifiedStop rx i = true ->
      bufferSize < trackedUser i + 7) :
    forall i : Nat, i < loopCount rx -> trackedUser i + 7 ≤ bufferSize := by
  by_contra hnot
  simp only [not_forall, not_le] at hnot
  -- The first of the users whose face id is missing.
  have hleast := Nat.find_spec hnot
  have hbefore := fun j => Nat.find_min hnot (m := j)
  generalize Nat.find hnot = i at hleast hbefore
  rcases hleast with ⟨hi, hshort⟩
  have hreceived : forall j : Nat, j < i -> trackedUser j + 7 ≤ bufferSize := by
    intro j hj
    have hnone := hbefore j hj
    simp only [not_exists, not_lt] at hnone
    exact hnone (by lia)
  have hstopped : forall j : Nat, j < i -> identifiedStop rx j = false := by
    intro j hj
    by_contra hstops
    have hlt := hgoes j (by lia) (by simpa using hstops)
    have hle := hreceived j hj
    lia
  have hfirst : FirstCutOff rx bufferSize i := ⟨hi, hshort, hreceived, hstopped⟩
  exact hfirst.notFree h haccepted hended (hfirst.free h haccepted hended)

/-- The last byte of the box of a user, patched into a message. -/
def patchedBottom (rx : Memory) (l : Nat) (byte : UInt8) : Memory :=
  rx.store (trackedUser l + 31) [byte]

theorem patchedBottom_before {j l : Nat} (hj : j < l) (byte byte' : UInt8) (x : Int)
    (hx : x < trackedUser j + 32) :
    patchedBottom rx l byte x = patchedBottom rx l byte' x := by
  have hlt : x < trackedUser l + 31 := by
    unfold trackedUser at *
    lia
  rw [patchedBottom, patchedBottom, Memory.store_apply_of_not_mem (Or.inl hlt),
    Memory.store_apply_of_not_mem (Or.inl hlt)]

theorem personBottom_patchedBottom (rx : Memory) (l : Nat) :
    personBottom (patchedBottom rx l 1) l ≠ personBottom (patchedBottom rx l 0) l := by
  intro heq
  have hbyte := congrArg (fun bytes => bytes[3]?) heq
  simp [patchedBottom, personBottom, Memory.load, Memory.store, List.range_succ,
    add_assoc] at hbyte

/-- The face id of the last user has been received, its box has not, and nobody
stops a pass in front of that box. -/
structure LastCutOff (rx : Memory) (bufferSize l : Nat) : Prop where
  header : 35 ≤ bufferSize
  last : loopCount rx = l + 1
  received : forall j : Nat, j ≤ l -> trackedUser j + 7 ≤ bufferSize
  cutOff : bufferSize < trackedUser l + 32
  first : forall j, j ≤ l -> identifiedStop rx j = false
  second : faceIdOfTrackedUser rx l = 0 ->
    forall j, j ≤ l -> unidentifiedStop rx j = false

section LastUser

variable {l : Nat} (h : LastCutOff rx bufferSize l)
include h

theorem LastCutOff.patched (byte : UInt8) :
    SameReceived bufferSize rx (patchedBottom rx l byte) := by
  have hcut := h.cutOff
  exact sameReceived_store (Or.inl (by lia))

theorem LastCutOff.loopCount (byte : UInt8) :
    loopCount (patchedBottom rx l byte) = l + 1 := by
  rw [(h.patched byte).loopCount h.header, h.last]

theorem LastCutOff.faceId (byte : UInt8) {j : Nat} (hj : j ≤ l) :
    faceIdOfTrackedUser (patchedBottom rx l byte) j = faceIdOfTrackedUser rx j :=
  (h.patched byte).faceId (h.received j hj)

theorem LastCutOff.userDataType (byte : UInt8) {j : Nat} (hj : j ≤ l) :
    userDataType (patchedBottom rx l byte) j = userDataType rx j := by
  have hreceived := h.received j hj
  exact (h.patched byte).userDataType (by lia)

theorem LastCutOff.identifiedStop (byte : UInt8) {j : Nat} (hj : j ≤ l) :
    identifiedStop (patchedBottom rx l byte) j = false := by
  rw [(h.patched byte).identifiedStop (h.received j hj), h.first j hj]

/-- The first pass does not depend on the byte, but for the last user where that
one has been identified. -/
theorem LastCutOff.identifiedUser {ideal : Option Nat} {out : MetaBuffer} {j : Nat}
    (hj : j ≤ l) (hother : j = l -> faceIdOfTrackedUser rx l = 0) (st : FacePass) :
    identifiedUser (patchedBottom rx l 1) ideal out j st =
      identifiedUser (patchedBottom rx l 0) ideal out j st := by
  apply identifiedUser_congr st
  · rw [h.faceId 0 hj, h.faceId 1 hj]
  · intro _
    rw [h.userDataType 0 hj, h.userDataType 1 hj]
  · intro hsome _
    rw [h.faceId 0 hj] at hsome
    have hlt : j < l := by
      rcases Nat.eq_or_lt_of_le hj with rfl | hlt
      · exact absurd (hother rfl) hsome
      · exact hlt
    exact ⟨fun x _ hx => patchedBottom_before hlt 1 0 x hx, Iff.rfl⟩

theorem LastCutOff.unidentifiedUser {ideal : Option Nat} {out : MetaBuffer} {j : Nat}
    (hj : j < l) (st : FacePass) :
    unidentifiedUser (patchedBottom rx l 1) ideal out j st =
      unidentifiedUser (patchedBottom rx l 0) ideal out j st := by
  apply unidentifiedUser_congr st
  · rw [h.faceId 0 hj.le, h.faceId 1 hj.le]
  · intro _
    rw [h.userDataType 0 hj.le, h.userDataType 1 hj.le]
  · intro _ _
    exact ⟨fun x _ hx => patchedBottom_before hj 1 0 x hx, Iff.rfl⟩

/-- Without the box of the last user, its bottom edge might be any. -/
theorem LastCutOff.reveals {ideal : Option Nat} {s : KtState Unit}
    {out : MetaBuffer} :
    handleUsers quietCallbacks (patchedBottom rx l 1) ideal out s ≠
      handleUsers quietCallbacks (patchedBottom rx l 0) ideal out s := by
  intro hsame
  have hcount0 := h.loopCount 0
  have hcount1 := h.loopCount 1
  apply personBottom_patchedBottom rx l
  by_cases hnone : faceIdOfTrackedUser rx l = 0
  · have hstop2 : forall (byte : UInt8) (j : Nat), j ≤ l ->
        unidentifiedStop (patchedBottom rx l byte) j = false := by
      intro byte j hj
      rw [(h.patched byte).unidentifiedStop (h.received j hj), h.second hnone j hj]
    exact (secondPass_reveals (by rw [hcount0, hcount1]) (by lia)
      (fun j hj => h.identifiedStop 0 (by lia))
      (fun j hj => h.identifiedUser (by lia) (fun _ => hnone))
      (hstop2 0) (hstop2 1 l (le_refl l))
      (by rw [h.faceId 0 (le_refl l), hnone])
      (by rw [h.faceId 1 (le_refl l), hnone])
      (fun j hj => h.unidentifiedUser hj) hsame).bottom
  · exact (firstPass_reveals (by rw [hcount0, hcount1]) (by lia)
      (fun j => h.identifiedStop 0) (h.identifiedStop 1 (le_refl l))
      (by rw [h.faceId 0 (le_refl l)]; exact hnone)
      (by rw [h.faceId 1 (le_refl l)]; exact hnone)
      (fun j hj => h.identifiedUser hj.le (fun heq => absurd heq hj.ne))
      hsame).bottom

end LastUser

theorem DependsOnReceived.recordsReceived (h : DependsOnReceived rx bufferSize)
    (haccepted : Accepted rx bufferSize)
    (hended : ¬ idealUserOffset rx < bufferSize) :
    RecordsReceived rx bufferSize := by
  have hpos := h.nbUsers_pos haccepted
  have hcount := loopCount_eq hpos.le haccepted.count_le
  obtain ⟨l, hl⟩ : exists l, loopCount rx = l + 1 :=
    ⟨loopCount rx - 1, by lia⟩
  by_contra hnot
  have hlast : loopCount rx - 1 = l := by
    lia
  simp only [RecordsReceived, hlast, not_or, not_exists, not_and, not_le]
    at hnot
  rcases hnot with ⟨hfirst, hsecond⟩
  have hfaces := h.faceId_received haccepted hended hfirst
  rcases hsecond (hfaces l (by lia)) with ⟨hbox, hrest⟩
  have hgoes : forall j, j ≤ l -> identifiedStop rx j = false := by
    intro j hj
    by_contra hstops
    have hlt := hfirst j (by lia) (by simpa using hstops)
    have hle := hfaces j (by lia)
    lia
  have hcut : LastCutOff rx bufferSize l :=
    { header := haccepted.received
      last := hl
      received := fun j hj => hfaces j (by lia)
      cutOff := hbox
      first := hgoes
      second := fun hnone j hj => by simpa using hrest hnone j (by lia) }
  rcases h.handleUsers_ended haccepted hended (hcut.patched 1) (hcut.patched 0)
    with ⟨s, hrun⟩
  exact hcut.reveals hrun

end Patched

/-- A message is handled without the bytes around the received ones exactly if
everything that is read of it has been received. -/
theorem ktHandleReceivedMetadata_depends_iff {rx : Memory} {bufferSize : Nat}
    (hsize : 4 ≤ bufferSize) :
    DependsOnReceived rx bufferSize <-> MessageReceived rx bufferSize := by
  constructor
  · intro h
    by_cases htype : responseType rx = appHmiMetadataResponseType
    · have hfive := h.five_le hsize htype
      refine Or.inr ⟨hfive, ?_⟩
      by_cases hversion : responseVersion rx = appHmiMetadataVersion
      · have hheader := h.header_le hfive htype hversion
        refine Or.inr ⟨hheader, ?_⟩
        by_cases hle : nbUsers rx ≤ maxUsersSupportedPerFrame
        · by_cases hne : nbUsers rx = 0
          · exact Or.inr (Or.inl hne)
          · have haccepted : Accepted rx bufferSize :=
              ⟨hheader, htype, hversion, hle, hne⟩
            refine Or.inr (Or.inr ⟨h.nbUsers_pos haccepted, ?_⟩)
            split
            · next hstarted =>
              exact h.idealUserReceived haccepted hstarted
            · next hended =>
              exact h.recordsReceived haccepted hended
        · exact Or.inl (not_le.mp hle)
      · exact Or.inl hversion
    · exact Or.inl htype
  · intro h
    exact h.dependsOnReceived hsize

theorem ktHandleReceivedMetadata_depends_three :
    DependsOnReceived (received threeUsers) threeUsers.length := by
  apply (ktHandleReceivedMetadata_depends_iff (by decide +kernel)).mpr
  refine Or.inr ⟨by decide +kernel, Or.inr ⟨by decide +kernel,
    Or.inr (Or.inr ⟨by decide +kernel, ?_⟩)⟩⟩
  rw [if_pos (by decide +kernel)]
  exact Or.inr (Or.inl (by decide +kernel))

/-- A message that announces a user and ends behind the header. -/
def headerOnly : List UInt8 := messageHeader 1

/-- The user is read from what an earlier message has left. -/
theorem ktHandleReceivedMetadata_reads_earlier :
    4 ≤ headerOnly.length ∧
      ¬ DependsOnReceived (received headerOnly) headerOnly.length := by
  refine ⟨by decide, ?_⟩
  intro h
  have hsame : SameReceived headerOnly.length (received headerOnly)
      (received (headerOnly ++ userRecord 5 10)) := by
    intro x hlow hhigh
    have hlt : x.toNat < headerOnly.length := by
      lia
    simp [received, hlow, List.getElem?_append_left hlt]
  have hreports : (ktHandleReceivedMetadata keepingCallbacks
      (received (headerOnly ++ userRecord 5 10)) headerOnly.length
      (twoBuffers fun _ => 0)).2.reports.map (fun r => r.identified) =
        [true] := by
    decide +kernel
  have hreports' : (ktHandleReceivedMetadata keepingCallbacks
      (received headerOnly) headerOnly.length
      (twoBuffers fun _ => 0)).2.reports.map (fun r => r.identified) =
        [false] := by
    decide +kernel
  rw [h _ hsame Unit keepingCallbacks (twoBuffers fun _ => 0), hreports']
    at hreports
  cases hreports

end KtLib
end GardHub
