import GardHub.KtLib.Reports

/-!
# Received bytes

The staging buffer is used for one message after another, so behind a message
that is shorter than the last one there are bytes of that one.  Which messages
are handled without them.
-/

namespace GardHub
namespace KtLib

open Foundation
open Interface

variable {app : Type}

/-- Two staging buffers hold the same received bytes.  Nothing is said about
what lies around those. -/
def SameReceived (bufferSize : Nat) (rx rx' : Memory) : Prop :=
  forall x : Int, 0 ≤ x -> x < bufferSize -> rx' x = rx x

/-- Whatever the application and its buffers are, a message is handled in the
same way from every staging buffer with the same received bytes. -/
def DependsOnReceived (rx : Memory) (bufferSize : Nat) : Prop :=
  forall rx', SameReceived bufferSize rx rx' ->
    forall (app : Type) (cbs : KtCallbacks app) (s : KtState app),
      ktHandleReceivedMetadata cbs rx' bufferSize s =
        ktHandleReceivedMetadata cbs rx bufferSize s

/-!
## What is read of a record
-/

section Records

variable {rx rx' : Memory} {ideal ideal' : Option Nat} {out : MetaBuffer}
  {i : Nat}

theorem faceIdOfTrackedUser_congr
    (h : rx' (trackedUser i + 6) = rx (trackedUser i + 6)) :
    faceIdOfTrackedUser rx' i = faceIdOfTrackedUser rx i := by
  rw [faceIdOfTrackedUser_eq, faceIdOfTrackedUser_eq, h]

theorem fillFace_congr (idSlot slot : Nat) (st : FacePass)
    (hface : faceIdOfTrackedUser rx' i = faceIdOfTrackedUser rx i)
    (hbox : forall x, trackedUser i + 16 ≤ x -> x < trackedUser i + 32 ->
      rx' x = rx x)
    (hideal : ideal' = some i <-> ideal = some i) :
    fillFace rx' ideal' out idSlot slot i st =
      fillFace rx ideal out idSlot slot i st := by
  have hload : forall a, trackedUser i + 16 ≤ a ->
      a + 4 ≤ trackedUser i + 32 -> rx'.load a 4 = rx.load a 4 := by
    intro a hlow hhigh
    apply Memory.load_congr
    intro x hx hx'
    exact hbox x (by lia) (by lia)
  simp only [fillFace, personLeft, personTop, personRight, personBottom, hface,
    hideal, hload _ (le_refl _) (by lia : trackedUser i + 16 + 4 ≤ _),
    hload (trackedUser i + 20) (by lia) (by lia),
    hload (trackedUser i + 24) (by lia) (by lia),
    hload (trackedUser i + 28) (by lia) (by lia)]

/-- The first pass reads the type and the box of an identified user only, and
the box only if the type is right. -/
theorem identifiedUser_congr (st : FacePass)
    (hface : faceIdOfTrackedUser rx' i = faceIdOfTrackedUser rx i)
    (htype : faceIdOfTrackedUser rx i ≠ 0 ->
      userDataType rx' i = userDataType rx i)
    (hbox : faceIdOfTrackedUser rx i ≠ 0 -> identifiedStop rx i = false ->
      (forall x, trackedUser i + 16 ≤ x -> x < trackedUser i + 32 ->
        rx' x = rx x) ∧ (ideal' = some i <-> ideal = some i)) :
    identifiedUser rx' ideal' out i st = identifiedUser rx ideal out i st := by
  unfold identifiedUser
  rw [hface]
  by_cases hnone : faceIdOfTrackedUser rx i = 0
  · rw [if_pos hnone, if_pos hnone]
  · rw [if_neg hnone, if_neg hnone, htype hnone]
    by_cases hother : userDataType rx i ≠
        AppHmiMetadataOutputDataType.userOutputData.code
    · rw [if_pos hother, if_pos hother]
    · have hgoes : identifiedStop rx i = false := by
        simpa [identifiedStop, hnone] using hother
      rcases hbox hnone hgoes with ⟨hsame, hideal⟩
      rw [if_neg hother, if_neg hother, fillFace_congr _ _ _ hface hsame hideal]

theorem unidentifiedUser_congr (st : FacePass)
    (hface : faceIdOfTrackedUser rx' i = faceIdOfTrackedUser rx i)
    (htype : faceIdOfTrackedUser rx i = 0 ->
      userDataType rx' i = userDataType rx i)
    (hbox : faceIdOfTrackedUser rx i = 0 -> unidentifiedStop rx i = false ->
      (forall x, trackedUser i + 16 ≤ x -> x < trackedUser i + 32 ->
        rx' x = rx x) ∧ (ideal' = some i <-> ideal = some i)) :
    unidentifiedUser rx' ideal' out i st =
      unidentifiedUser rx ideal out i st := by
  unfold unidentifiedUser
  rw [hface]
  by_cases hnone : faceIdOfTrackedUser rx i = 0
  · rw [if_neg (not_not.mpr hnone), if_neg (not_not.mpr hnone), htype hnone]
    by_cases hother : userDataType rx i ≠
        AppHmiMetadataOutputDataType.userOutputData.code
    · rw [if_pos hother, if_pos hother]
    · have hgoes : unidentifiedStop rx i = false := by
        simpa [unidentifiedStop, hnone] using hother
      rcases hbox hnone hgoes with ⟨hsame, hideal⟩
      rw [if_neg hother, if_neg hother, fillFace_congr _ _ _ hface hsame hideal]
  · rw [if_pos hnone, if_pos hnone]

theorem identifiedUser_stops (st : FacePass)
    (h : identifiedStop rx i = true) :
    (identifiedUser rx ideal out i st).1 ≠ none := by
  simp only [identifiedStop, decide_eq_true_eq] at h
  rw [identifiedUser, if_neg h.1, if_pos h.2]
  simp

theorem unidentifiedUser_stops (st : FacePass)
    (h : unidentifiedStop rx i = true) :
    (unidentifiedUser rx ideal out i st).1 ≠ none := by
  simp only [unidentifiedStop, decide_eq_true_eq] at h
  rw [unidentifiedUser, if_neg (not_not.mpr h.1), if_pos h.2]
  simp

theorem firstPass_congr {n : Nat}
    (h : forall i : Nat, i < n ->
      (forall j, j < i -> identifiedStop rx j = false) ->
      forall st, identifiedUser rx' ideal' out i st =
        identifiedUser rx ideal out i st) (st : FacePass) :
    loopOver (identifiedUser rx' ideal' out) (List.range n) st =
      loopOver (identifiedUser rx ideal out) (List.range n) st := by
  have hstops : forall (i : Nat) (s : FacePass), identifiedStop rx i = true ->
      (identifiedUser rx ideal out i s).1 ≠ none := by
    intro i s hi
    exact identifiedUser_stops s hi
  symm
  apply loopOver_range_congr hstops
  intro i hi hgoes s
  exact (h i hi hgoes s).symm

theorem secondPass_congr {n : Nat}
    (h : forall i : Nat, i < n ->
      (forall j, j < i -> unidentifiedStop rx j = false) ->
      forall st, unidentifiedUser rx' ideal' out i st =
        unidentifiedUser rx ideal out i st) (st : FacePass) :
    loopOver (unidentifiedUser rx' ideal' out) (List.range n) st =
      loopOver (unidentifiedUser rx ideal out) (List.range n) st := by
  have hstops : forall (i : Nat) (s : FacePass),
      unidentifiedStop rx i = true ->
      (unidentifiedUser rx ideal out i s).1 ≠ none := by
    intro i s hi
    exact unidentifiedUser_stops s hi
  symm
  apply loopOver_range_congr hstops
  intro i hi hgoes s
  exact (h i hi hgoes s).symm

/-- The pass over the identified users is not stopped if it ends regularly. -/
theorem not_identifiedStop_of_loopOver {st st' : FacePass} {n : Nat}
    (hloop : loopOver (identifiedUser rx ideal out) (List.range n) st =
      (none, st')) :
    forall j, j < n -> identifiedStop rx j = false := by
  intro j hj
  rcases loopOver_goes hloop j (List.mem_range.mpr hj) with ⟨t, hgoes⟩
  by_contra hstops
  exact identifiedUser_stops t (by simpa using hstops) hgoes

theorem handleUsers_congr (cbs : KtCallbacks app) (s : KtState app)
    (hcount : loopCount rx' = loopCount rx)
    (hfirst : forall st,
      loopOver (identifiedUser rx' ideal' out) (List.range (loopCount rx)) st =
        loopOver (identifiedUser rx ideal out) (List.range (loopCount rx)) st)
    (hsecond : (forall j, j < loopCount rx -> identifiedStop rx j = false) ->
      forall out' st,
        loopOver (unidentifiedUser rx' ideal' out')
            (List.range (loopCount rx)) st =
          loopOver (unidentifiedUser rx ideal out')
            (List.range (loopCount rx)) st) :
    handleUsers cbs rx' ideal' out s = handleUsers cbs rx ideal out s := by
  unfold handleUsers
  rw [hcount, hfirst]
  cases hloop : loopOver (identifiedUser rx ideal out)
      (List.range (loopCount rx)) (s.startPass 0) with
  | mk result st =>
      cases result with
      | some site =>
          rfl
      | none =>
          have hreport : forall identified out' (s' : KtState app),
              reportUnidentified cbs rx' ideal' identified out' s' =
                reportUnidentified cbs rx ideal identified out' s' := by
            intro identified out' s'
            unfold reportUnidentified
            rw [hcount, hsecond (not_identifiedStop_of_loopOver hloop)]
          have hrest : forall identified unidentified pOutData
              (s' : KtState app),
              handleUnidentified cbs rx' ideal' identified unidentified pOutData
                  s' =
                handleUnidentified cbs rx ideal identified unidentified pOutData
                  s' := by
            intro identified unidentified pOutData s'
            simp only [handleUnidentified, hreport]
          simp only [hrest]

end Records

/-!
## The condition
-/

/-- The user whose face is filled in first: the first one who has been
identified or, if nobody has, the first one of all. -/
def firstFilled (rx : Memory) : Nat :=
  (identifiedUsers rx (loopCount rx)).head?.getD 0

/-- A record has started behind those of the users.  Its type is not the ideal
user's, or its index has been received, or no face is filled in. -/
def IdealUserReceived (rx : Memory) (bufferSize : Nat) : Prop :=
  rx (idealUserOffset rx) ≠
      AppHmiMetadataOutputDataType.idealUserOutputData.code ∨
    idealUserOffset rx + 5 ≤ bufferSize ∨
    userDataType rx (firstFilled rx) ≠
      AppHmiMetadataOutputDataType.userOutputData.code

/-- No record has started behind those of the users.  An identified user whose
face id has been received stops the first pass, or all face ids have been
received and so has the box of the last user, unless that user belongs to the
second pass and it is stopped. -/
def RecordsReceived (rx : Memory) (bufferSize : Nat) : Prop :=
  (exists i : Nat, i < loopCount rx ∧ identifiedStop rx i = true ∧
      trackedUser i + 7 ≤ bufferSize) ∨
    (trackedUser (loopCount rx - 1 : Nat) + 7 ≤ bufferSize ∧
      (trackedUser (loopCount rx - 1 : Nat) + 32 ≤ bufferSize ∨
        (faceIdOfTrackedUser rx (loopCount rx - 1 : Nat) = 0 ∧
          exists i : Nat, i < loopCount rx ∧ unidentifiedStop rx i = true)))

/-- Everything that is read of a message has been received. -/
def MessageReceived (rx : Memory) (bufferSize : Nat) : Prop :=
  responseType rx ≠ appHmiMetadataResponseType ∨
    (5 ≤ bufferSize ∧
      (responseVersion rx ≠ appHmiMetadataVersion ∨
        (35 ≤ bufferSize ∧
          (maxUsersSupportedPerFrame < nbUsers rx ∨ nbUsers rx = 0 ∨
            (0 < nbUsers rx ∧
              if idealUserOffset rx < bufferSize then
                IdealUserReceived rx bufferSize
              else RecordsReceived rx bufferSize)))))

/-!
## Received messages
-/

section Received

variable {rx rx' : Memory} {bufferSize : Nat}

theorem SameReceived.userDataType (h : SameReceived bufferSize rx rx') {i : Nat}
    (hi : trackedUser i + 1 ≤ bufferSize) :
    userDataType rx' i = userDataType rx i :=
  h _ (by unfold trackedUser; lia) (by lia)

theorem SameReceived.faceId (h : SameReceived bufferSize rx rx') {i : Nat}
    (hi : trackedUser i + 7 ≤ bufferSize) :
    faceIdOfTrackedUser rx' i = faceIdOfTrackedUser rx i :=
  faceIdOfTrackedUser_congr (h _ (by unfold trackedUser; lia) (by lia))

theorem SameReceived.box (h : SameReceived bufferSize rx rx') {i : Nat}
    (hi : trackedUser i + 32 ≤ bufferSize) :
    forall x, trackedUser i + 16 ≤ x -> x < trackedUser i + 32 ->
      rx' x = rx x := by
  intro x hlow hhigh
  exact h x (by unfold trackedUser at hlow; lia) (by lia)

theorem SameReceived.nbUsers (h : SameReceived bufferSize rx rx')
    (hsize : 35 ≤ bufferSize) : nbUsers rx' = nbUsers rx := by
  have hload : rx'.load32 31 = rx.load32 31 := by
    apply Memory.load32_congr
    intro x hlow hhigh
    exact h x (by lia) (by lia)
  rw [Interface.nbUsers, Interface.nbUsers, hload]

/-- The handler reads the header, the type of the record behind the users, and
what the passes read. -/
theorem ktHandleReceivedMetadata_congr (cbs : KtCallbacks app)
    (s : KtState app) (htype : responseType rx' = responseType rx)
    (hversion : responseVersion rx' = responseVersion rx)
    (hcount : nbUsers rx' = nbUsers rx)
    (hideal : nbUsers rx ≤ maxUsersSupportedPerFrame -> nbUsers rx ≠ 0 ->
      idealUserOffset rx < bufferSize ->
      rx' (idealUserOffset rx) = rx (idealUserOffset rx))
    (husers : nbUsers rx ≤ maxUsersSupportedPerFrame -> nbUsers rx ≠ 0 ->
      (idealUserOffset rx < bufferSize -> rx (idealUserOffset rx) =
        AppHmiMetadataOutputDataType.idealUserOutputData.code) ->
      forall out (s' : KtState app),
        handleUsers cbs rx' (idealUser rx' bufferSize) out s' =
          handleUsers cbs rx (idealUser rx bufferSize) out s') :
    ktHandleReceivedMetadata cbs rx' bufferSize s =
      ktHandleReceivedMetadata cbs rx bufferSize s := by
  have hoffset : idealUserOffset rx' = idealUserOffset rx := by
    rw [idealUserOffset, idealUserOffset, hcount]
  unfold ktHandleReceivedMetadata
  rw [htype, hversion, hcount, hoffset]
  by_cases hmax : maxUsersSupportedPerFrame < nbUsers rx
  · simp only [if_pos hmax]
  by_cases hzero : nbUsers rx = 0
  · simp only [if_pos hzero]
  by_cases hstarted : idealUserOffset rx < bufferSize
  · rw [hideal (not_lt.mp hmax) hzero hstarted]
    by_cases hcode : rx (idealUserOffset rx) =
        AppHmiMetadataOutputDataType.idealUserOutputData.code
    · simp only [husers (not_lt.mp hmax) hzero fun _ => hcode]
    · simp only [hstarted, ne_eq, hcode, not_false_eq_true, and_self, if_true]
  · have hnot : idealUserOffset rx < bufferSize ->
        rx (idealUserOffset rx) =
          AppHmiMetadataOutputDataType.idealUserOutputData.code := by
      intro hlt
      exact absurd hlt hstarted
    simp only [hstarted, false_and, husers (not_lt.mp hmax) hzero hnot]

theorem ktHandleReceivedMetadata_otherHeader (cbs : KtCallbacks app)
    (s : KtState app) (hsize : bufferSize ≠ 0)
    (h : responseType rx ≠ appHmiMetadataResponseType ∨
      responseVersion rx ≠ appHmiMetadataVersion) :
    ktHandleReceivedMetadata cbs rx bufferSize s =
      (.assertFailed .responseHeader, s) := by
  rw [ktHandleReceivedMetadata, if_neg hsize, if_pos h]

/-- The records stand before that of the ideal user, so they have been received
where that one starts inside the message. -/
theorem trackedUser_received (hcount : (loopCount rx : Int) = nbUsers rx)
    (hstarted : idealUserOffset rx < bufferSize) (i : Nat) (hi : i < loopCount rx) :
    trackedUser i + 32 ≤ bufferSize := by
  unfold idealUserOffset trackedUser at *
  lia

/-- Every record has been received as far as it is read. -/
theorem SameReceived.handleUsers_all (h : SameReceived bufferSize rx rx')
    (cbs : KtCallbacks app) {ideal : Option Nat} {out : MetaBuffer}
    (s : KtState app) (hcount : loopCount rx' = loopCount rx)
    (hend : forall i : Nat, i < loopCount rx ->
      trackedUser i + 32 ≤ bufferSize) :
    handleUsers cbs rx' ideal out s = handleUsers cbs rx ideal out s := by
  apply handleUsers_congr cbs s hcount
  · apply firstPass_congr
    intro i hi _ st
    have hreceived := hend i hi
    exact identifiedUser_congr st (h.faceId (by lia))
      (fun _ => h.userDataType (by lia))
      (fun _ _ => ⟨h.box hreceived, Iff.rfl⟩)
  · intro _ out'
    apply secondPass_congr
    intro i hi _ st
    have hreceived := hend i hi
    exact unidentifiedUser_congr st (h.faceId (by lia))
      (fun _ => h.userDataType (by lia))
      (fun _ _ => ⟨h.box hreceived, Iff.rfl⟩)

/-- The pass over the identified users is stopped by a user whose face id has
been received. -/
theorem SameReceived.handleUsers_stopped (h : SameReceived bufferSize rx rx')
    (cbs : KtCallbacks app) {ideal : Option Nat} {out : MetaBuffer}
    (s : KtState app) (hcount : loopCount rx' = loopCount rx) {i : Nat}
    (hi : i < loopCount rx) (hstops : identifiedStop rx i = true)
    (hend : trackedUser i + 7 ≤ bufferSize) :
    handleUsers cbs rx' ideal out s = handleUsers cbs rx ideal out s := by
  apply handleUsers_congr cbs s hcount
  · apply firstPass_congr
    intro j _ hgoes st
    -- A user behind the one that stops the pass is not reached.
    have hle : j ≤ i := by
      by_contra hlt
      have hnot := hgoes i (by lia)
      rw [hstops] at hnot
      cases hnot
    have hreceived : trackedUser j + 7 ≤ bufferSize := by
      unfold trackedUser at *
      lia
    apply identifiedUser_congr st (h.faceId hreceived)
      (fun _ => h.userDataType (by lia))
    intro _ hnot
    refine ⟨h.box ?_, Iff.rfl⟩
    have hne : j ≠ i := by
      intro heq
      rw [heq, hstops] at hnot
      cases hnot
    unfold trackedUser at *
    lia
  · intro hgoes
    rw [hgoes i hi] at hstops
    cases hstops

/-- All face ids have been received, and the pass over the other users is
stopped before the box of the last one is read. -/
theorem SameReceived.handleUsers_stopped_second
    (h : SameReceived bufferSize rx rx') (cbs : KtCallbacks app)
    {ideal : Option Nat} {out : MetaBuffer} (s : KtState app)
    (hcount : loopCount rx' = loopCount rx)
    (hend : trackedUser (loopCount rx - 1 : Nat) + 7 ≤ bufferSize)
    (hlast : faceIdOfTrackedUser rx (loopCount rx - 1 : Nat) = 0) {i : Nat}
    (hi : i < loopCount rx) (hstops : unidentifiedStop rx i = true) :
    handleUsers cbs rx' ideal out s = handleUsers cbs rx ideal out s := by
  have hreceived : forall j : Nat, j < loopCount rx ->
      trackedUser j + 7 ≤ bufferSize := by
    intro j hj
    unfold trackedUser at *
    lia
  have hbefore : forall j : Nat, j < loopCount rx - 1 ->
      trackedUser j + 32 ≤ bufferSize := by
    intro j hj
    unfold trackedUser at *
    lia
  apply handleUsers_congr cbs s hcount
  · apply firstPass_congr
    intro j hj _ st
    apply identifiedUser_congr st (h.faceId (hreceived j hj))
      (fun _ => h.userDataType (by have := hreceived j hj; lia))
    intro hsome _
    refine ⟨h.box (hbefore j ?_), Iff.rfl⟩
    by_contra hge
    have heq : j = loopCount rx - 1 := by
      lia
    rw [heq] at hsome
    exact hsome hlast
  · intro _ out'
    apply secondPass_congr
    intro j hj hgoes st
    have hle : j ≤ i := by
      by_contra hlt
      have hnot := hgoes i (by lia)
      rw [hstops] at hnot
      cases hnot
    apply unidentifiedUser_congr st (h.faceId (hreceived j hj))
      (fun _ => h.userDataType (by have := hreceived j hj; lia))
    intro _ hnot
    have hne : j ≠ i := by
      intro heq
      rw [heq, hstops] at hnot
      cases hnot
    exact ⟨h.box (hbefore j (by lia)), Iff.rfl⟩

theorem firstFilled_of_head {f : Nat}
    (h : (identifiedUsers rx (loopCount rx)).head? = some f) :
    f < loopCount rx ∧ faceIdOfTrackedUser rx f ≠ 0 ∧
      forall j : Nat, j < f -> faceIdOfTrackedUser rx j = 0 := by
  rw [identifiedUsers, List.head?_filter, List.find?_range_eq_some] at h
  rcases h with ⟨hface, hmem, hbefore⟩
  refine ⟨List.mem_range.mp hmem, by simpa using hface, ?_⟩
  intro j hj
  simpa using hbefore j hj

theorem faceId_of_noHead (h : (identifiedUsers rx (loopCount rx)).head? = none)
    (i : Nat) (hi : i < loopCount rx) : faceIdOfTrackedUser rx i = 0 := by
  rw [identifiedUsers, List.head?_filter, List.find?_eq_none] at h
  simpa using h i (List.mem_range.mpr hi)

/-- No face is filled in, so the ideal user does not matter. -/
theorem SameReceived.handleUsers_noFace (h : SameReceived bufferSize rx rx')
    (cbs : KtCallbacks app) {ideal ideal' : Option Nat} {out : MetaBuffer}
    (s : KtState app) (hcount : loopCount rx' = loopCount rx)
    (hend : forall i : Nat, i < loopCount rx ->
      trackedUser i + 32 ≤ bufferSize)
    (hother : Interface.userDataType rx (firstFilled rx) ≠
      AppHmiMetadataOutputDataType.userOutputData.code) :
    handleUsers cbs rx' ideal' out s = handleUsers cbs rx ideal out s := by
  cases hhead : (identifiedUsers rx (loopCount rx)).head? with
  | some f =>
      -- The first identified user stops the first pass.
      rcases firstFilled_of_head hhead with ⟨hf, hface, hbefore⟩
      have hstops : identifiedStop rx f = true := by
        simp only [firstFilled, hhead, Option.getD_some] at hother
        simpa [identifiedStop, hface] using hother
      apply handleUsers_congr cbs s hcount
      · apply firstPass_congr
        intro i hi hgoes st
        have hreceived := hend i hi
        apply identifiedUser_congr st (h.faceId (by lia))
          (fun _ => h.userDataType (by lia))
        intro hsome hnot
        have hle : i ≤ f := by
          by_contra hlt
          have hgone := hgoes f (by lia)
          rw [hstops] at hgone
          cases hgone
        rcases Nat.eq_or_lt_of_le hle with heq | hlt
        · rw [heq, hstops] at hnot
          cases hnot
        · exact absurd (hbefore i hlt) hsome
      · intro hgoes
        rw [hgoes f hf] at hstops
        cases hstops
  | none =>
      -- Nobody has been identified, and the first user stops the second pass.
      have hnone := faceId_of_noHead hhead
      simp only [firstFilled, hhead, Option.getD_none] at hother
      apply handleUsers_congr cbs s hcount
      · apply firstPass_congr
        intro i hi _ st
        have hreceived := hend i hi
        apply identifiedUser_congr st (h.faceId (by lia))
          (fun _ => h.userDataType (by lia))
        intro hsome _
        exact absurd (hnone i hi) hsome
      · intro _ out'
        apply secondPass_congr
        intro i hi hgoes st
        have hreceived := hend i hi
        have hstops : unidentifiedStop rx 0 = true := by
          have hzero := hnone 0 (by lia)
          simp only [Nat.cast_zero] at hzero hother
          simpa [unidentifiedStop, hzero] using hother
        apply unidentifiedUser_congr st (h.faceId (by lia))
          (fun _ => h.userDataType (by lia))
        intro _ hnot
        rcases Nat.eq_zero_or_pos i with hzero | hpos
        · rw [hzero, hstops] at hnot
          cases hnot
        · rw [hgoes 0 hpos] at hstops
          cases hstops

/-- A received message is handled without the bytes around it. -/
theorem SameReceived.loopCount (h : SameReceived bufferSize rx rx')
    (hsize : 35 ≤ bufferSize) : loopCount rx' = loopCount rx := by
  rw [KtLib.loopCount, KtLib.loopCount, h.nbUsers hsize]

theorem SameReceived.idealUserOffset (h : SameReceived bufferSize rx rx')
    (hsize : 35 ≤ bufferSize) : idealUserOffset rx' = idealUserOffset rx := by
  rw [KtLib.idealUserOffset, KtLib.idealUserOffset, h.nbUsers hsize]

theorem IdealUserReceived.handleUsers_eq (h : IdealUserReceived rx bufferSize)
    (hsame : SameReceived bufferSize rx rx') (hsize : 35 ≤ bufferSize)
    (hcount : (loopCount rx : Int) = nbUsers rx)
    (hstarted : idealUserOffset rx < bufferSize)
    (hcode : rx (idealUserOffset rx) =
      AppHmiMetadataOutputDataType.idealUserOutputData.code)
    (cbs : KtCallbacks app) (out : MetaBuffer) (s : KtState app) :
    handleUsers cbs rx' (idealUser rx' bufferSize) out s =
      handleUsers cbs rx (idealUser rx bufferSize) out s := by
  have hloop := hsame.loopCount hsize
  have hend := trackedUser_received hcount hstarted
  rcases h with hother | hindex | hother
  · exact absurd hcode hother
  · have hbyte : rx' (idealUserOffset rx + 4) = rx (idealUserOffset rx + 4) := by
      apply hsame
      · unfold idealUserOffset trackedUser
        lia
      · lia
    have hideal : idealUser rx' bufferSize = idealUser rx bufferSize := by
      rw [idealUser, idealUser, hsame.idealUserOffset hsize, idealUserIndex,
        idealUserIndex, hbyte]
    rw [hideal]
    exact hsame.handleUsers_all cbs s hloop hend
  · exact hsame.handleUsers_noFace cbs s hloop hend hother

theorem RecordsReceived.handleUsers_eq (h : RecordsReceived rx bufferSize)
    (hsame : SameReceived bufferSize rx rx') (hsize : 35 ≤ bufferSize)
    (hended : ¬ idealUserOffset rx < bufferSize)
    (cbs : KtCallbacks app) (out : MetaBuffer) (s : KtState app) :
    handleUsers cbs rx' (idealUser rx' bufferSize) out s =
      handleUsers cbs rx (idealUser rx bufferSize) out s := by
  have hloop := hsame.loopCount hsize
  have hideal : idealUser rx' bufferSize = idealUser rx bufferSize := by
    rw [idealUser, idealUser, hsame.idealUserOffset hsize, if_neg hended,
      if_neg hended]
  rw [hideal]
  rcases h with ⟨i, hi, hstops, hend⟩ | ⟨hface, hbox | ⟨hnone, i, hi, hstops⟩⟩
  · exact hsame.handleUsers_stopped cbs s hloop hi hstops hend
  · apply hsame.handleUsers_all cbs s hloop
    intro i hi
    unfold trackedUser at *
    lia
  · exact hsame.handleUsers_stopped_second cbs s hloop hface hnone hi hstops

theorem MessageReceived.dependsOnReceived
    (h : MessageReceived rx bufferSize) (hsize : 4 ≤ bufferSize) :
    DependsOnReceived rx bufferSize := by
  intro rx' hsame app cbs s
  have htype : responseType rx' = responseType rx :=
    hsame 3 (by decide) (by lia)
  have hnonempty : bufferSize ≠ 0 := by
    lia
  rcases h with hother | ⟨hfive, h⟩
  · have hother' : responseType rx' ≠ appHmiMetadataResponseType := by
      rw [htype]
      exact hother
    rw [ktHandleReceivedMetadata_otherHeader cbs s hnonempty (Or.inl hother),
      ktHandleReceivedMetadata_otherHeader cbs s hnonempty (Or.inl hother')]
  have hversion : responseVersion rx' = responseVersion rx :=
    hsame 4 (by decide) (by lia)
  rcases h with hother | ⟨hheader, h⟩
  · have hother' : responseVersion rx' ≠ appHmiMetadataVersion := by
      rw [hversion]
      exact hother
    rw [ktHandleReceivedMetadata_otherHeader cbs s hnonempty (Or.inr hother),
      ktHandleReceivedMetadata_otherHeader cbs s hnonempty (Or.inr hother')]
  apply ktHandleReceivedMetadata_congr cbs s htype hversion (hsame.nbUsers hheader)
  · intro hle hne hstarted
    have hpos : 0 < nbUsers rx := by
      rcases h with hmax | hzero | ⟨hpos, -⟩ <;> lia
    apply hsame _ _ hstarted
    unfold idealUserOffset trackedUser
    lia
  · intro hle hne hcode out s'
    rcases h with hmax | hzero | ⟨hpos, h⟩
    · lia
    · exact absurd hzero hne
    by_cases hstarted : idealUserOffset rx < bufferSize
    · rw [if_pos hstarted] at h
      exact h.handleUsers_eq hsame hheader (loopCount_eq hpos.le hle) hstarted
        (hcode hstarted) cbs out s'
    · rw [if_neg hstarted] at h
      exact h.handleUsers_eq hsame hheader hstarted cbs out s'

end Received

end KtLib
end GardHub
