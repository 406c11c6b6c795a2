import GardHub.KtLib.Reports

/-!
# Two applications behind one handler

The handler does not look at the state of the application.  Two applications
whose callbacks agree on what the handler sees of them therefore go through the
same calls, and what relates their states is kept.  A callback may count on the
fields that the handler fills in: those that are declared as a `bool` hold one.
-/

namespace GardHub
namespace KtLib

open Foundation
open Interface

/-!
## Fields that hold a `bool`
-/

/-- The offsets of the `bool` fields of `FaceData`. -/
def boolOffsets : List Nat := [4, 24, 25, 26]

/-- In the first faces of a buffer, the `bool` fields are 0 or 1. -/
def HoldsBools (p : Int) (count : Nat) (heap : Memory) : Prop :=
  forall j, j < count -> forall offset, offset ∈ boolOffsets ->
    (heap (p + pdFaces j + offset)).toNat ≤ 1

theorem HoldsBools.congr {p : Int} {count : Nat} {heap heap' : Memory}
    (h : HoldsBools p count heap)
    (hsame : forall j, j < count -> forall offset, offset ∈ boolOffsets ->
      heap' (p + pdFaces j + offset) = heap (p + pdFaces j + offset)) :
    HoldsBools p count heap' := by
  intro j hj offset hoffset
  rw [hsame j hj offset hoffset]
  exact h j hj offset hoffset

theorem HoldsBools.mono {p : Int} {count count' : Nat} {heap : Memory}
    (h : HoldsBools p count heap) (hle : count' ≤ count) :
    HoldsBools p count' heap :=
  fun j hj => h j (lt_of_lt_of_le hj hle)

theorem holdsBools_zero (p : Int) (heap : Memory) : HoldsBools p 0 heap :=
  fun j hj => absurd hj (Nat.not_lt_zero j)

theorem mem_boolOffsets_bounds {offset : Nat} (h : offset ∈ boolOffsets) :
    4 ≤ offset ∧ offset < 27 := by
  simp only [boolOffsets, List.mem_cons, List.not_mem_nil, or_false] at h
  lia

section Passes

variable {rx : Memory} {ideal : Option Nat} {out : MetaBuffer}

/-- Filling in a face makes its `bool` fields hold one. -/
theorem fillFace_bool {idSlot slot i offset : Nat} {st : FacePass}
    (h : offset ∈ boolOffsets) :
    ((fillFace rx ideal out idSlot slot i st).heap
      (out.address + pdFaces slot + offset)).toNat ≤ 1 := by
  simp only [boolOffsets, List.mem_cons, List.not_mem_nil, or_false] at h
  by_cases hideal : ideal = some i
  · rcases h with rfl | rfl | rfl | rfl <;>
      simp (disch := first | rfl | (simp only [pdFaces, leBytes_length,
          box_length, List.length_singleton] <;> omega) | fail) only [fillFace,
        FacePass.put, if_pos hideal, Memory.store_byte_same,
        Memory.store_apply_of_not_mem] <;> decide
  · rcases h with rfl | rfl | rfl | rfl <;>
      simp (disch := first | rfl | (simp only [pdFaces, leBytes_length,
          box_length, List.length_singleton] <;> omega) | fail) only [fillFace,
        FacePass.put, if_neg hideal, Memory.store_byte_same,
        Memory.store_apply_of_not_mem] <;> decide

/-- One more face, wherever its face id went. -/
theorem HoldsBools.fillFace {idSlot slot i : Nat} {st : FacePass}
    (h : HoldsBools out.address slot st.heap) :
    HoldsBools out.address (slot + 1)
      (fillFace rx ideal out idSlot slot i st).heap := by
  intro j hj offset hoffset
  have hbounds := mem_boolOffsets_bounds hoffset
  rcases Nat.eq_or_lt_of_le (Nat.le_of_lt_succ hj) with rfl | hlt
  · exact fillFace_bool hoffset
  · rw [fillFace_heap_of_not_mem]
    · exact h j hlt offset hoffset
    · simp only [pdFaces]
      lia
    · simp only [pdFaces]
      lia

theorem identifiedUsers_holdBools (rx : Memory) (ideal : Option Nat)
    (out : MetaBuffer) (users : List Nat) {start : FacePass}
    (hstart : start.countOfIdentifiedUsers = 0) :
    HoldsBools out.address
      (loopOver (identifiedUser rx ideal out) users
        start).2.countOfIdentifiedUsers
      (loopOver (identifiedUser rx ideal out) users start).2.heap := by
  have hbody : forall i, i ∈ users -> forall st : FacePass,
      HoldsBools out.address st.countOfIdentifiedUsers st.heap ->
      HoldsBools out.address
        (identifiedUser rx ideal out i st).2.countOfIdentifiedUsers
        (identifiedUser rx ideal out i st).2.heap := by
    intro i _ st hst
    unfold identifiedUser
    split
    · exact hst
    · split
      · exact hst
      · exact hst.fillFace
  apply loopOver_preserves users hbody
  rw [hstart]
  exact holdsBools_zero _ _

theorem unidentifiedUsers_holdBools (rx : Memory) (ideal : Option Nat)
    (out : MetaBuffer) (users : List Nat) {start : FacePass}
    (hstart : start.countOfUnidentifiedUsers = 0) :
    HoldsBools out.address
      (loopOver (unidentifiedUser rx ideal out) users
        start).2.countOfUnidentifiedUsers
      (loopOver (unidentifiedUser rx ideal out) users start).2.heap := by
  have hbody : forall i, i ∈ users -> forall st : FacePass,
      HoldsBools out.address st.countOfUnidentifiedUsers st.heap ->
      HoldsBools out.address
        (unidentifiedUser rx ideal out i st).2.countOfUnidentifiedUsers
        (unidentifiedUser rx ideal out i st).2.heap := by
    intro i _ st hst
    unfold unidentifiedUser
    split
    · exact hst
    · split
      · exact hst
      · exact hst.fillFace
  apply loopOver_preserves users hbody
  rw [hstart]
  exact holdsBools_zero _ _

/-- The count that is put in front of the faces counts them. -/
theorem HoldsBools.put {count : Nat} {st : FacePass}
    (h : HoldsBools out.address count st.heap) :
    HoldsBools out.address
      ((st.put out 0 (leBytes 4 count)).heap.load32 out.address)
      (st.put out 0 (leBytes 4 count)).heap := by
  have hcount : (st.put out 0 (leBytes 4 count)).heap.load32 out.address ≤
      count := by
    rw [FacePass.put_heap,
      Memory.load32_store_same (by simp) (leBytes_length 4 count),
      leValue_leBytes]
    exact Nat.mod_le _ _
  apply (h.mono hcount).congr
  intro j _ offset hoffset
  have hbounds := mem_boolOffsets_bounds hoffset
  rw [FacePass.put_heap, Memory.store_apply_of_not_mem]
  right
  simp only [leBytes_length, pdFaces]
  lia

end Passes

/-!
## States that differ in the application
-/

variable {app app' : Type}

/-- The same state of the library, for another application. -/
def KtState.withApp (s : KtState app) (a : app') : KtState app' :=
  { fifo := s.fifo
    heap := s.heap
    app := a
    reports := s.reports
    stores := s.stores }

/-- Two states that are the same but for the application, whose states are
related in view of the reports made so far. -/
def SameButApp (related : app -> app' -> List Report -> Prop) (s : KtState app)
    (t : KtState app') : Prop :=
  exists a, t = s.withApp a ∧ related s.app a s.reports

/-- Two results that agree, with states that are the same but for the
application. -/
def AgreeButApp {result : Type} (related : app -> app' -> List Report -> Prop)
    (x : result × KtState app) (y : result × KtState app') : Prop :=
  y.1 = x.1 ∧ SameButApp related x.2 y.2

/-- Two callbacks do the same to memory and add the same buffers, and keep what
relates their applications, when they are called with a buffer that holds
`bool`s. -/
def CallbackAgrees (related : app -> app' -> List Report -> Prop)
    (identified : Bool) (callback : app -> Memory -> Int -> AppReaction app)
    (callback' : app' -> Memory -> Int -> AppReaction app') : Prop :=
  forall a a' reports heap out, related a a' reports ->
    HoldsBools out.address (heap.load32 out.address) heap ->
    (callback' a' heap out.address).heap = (callback a heap out.address).heap ∧
      (callback' a' heap out.address).added =
        (callback a heap out.address).added ∧
      related (callback a heap out.address).app
        (callback' a' heap out.address).app
        (reports ++ [readPpeData identified heap out])

/-- Two tables of callbacks, each of them in both or in neither. -/
structure CallbacksAgree (related : app -> app' -> List Report -> Prop)
    (cbs : KtCallbacks app) (cbs' : KtCallbacks app') : Prop where
  identified : Option.Rel (CallbackAgrees related true)
    cbs.kcOnFaceIdentified cbs'.kcOnFaceIdentified
  notIdentified : Option.Rel (CallbackAgrees related false)
    cbs.kcOnFaceNotIdentified cbs'.kcOnFaceNotIdentified

section Simulation

variable {related : app -> app' -> List Report -> Prop} {cbs : KtCallbacks app}
  {cbs' : KtCallbacks app'} {rx : Memory} {ideal : Option Nat}

theorem ktGetMetadataBuffer_agrees {s : KtState app} {t : KtState app'}
    (h : SameButApp related s t) :
    AgreeButApp related (ktGetMetadataBuffer s) (ktGetMetadataBuffer t) := by
  rcases h with ⟨a, rfl, hrelated⟩
  unfold ktGetMetadataBuffer KtState.withApp
  cases ktBufFifoIsEmpty s.fifo <;> exact ⟨rfl, a, rfl, hrelated⟩

theorem loopOver_ktAddMetadataBuffer_agrees (added : List MetaBuffer)
    {s : KtState app} {t : KtState app'} (h : SameButApp related s t) :
    AgreeButApp related (loopOver ktAddMetadataBuffer added s)
      (loopOver ktAddMetadataBuffer added t) := by
  induction added generalizing s t with
  | nil =>
      exact ⟨rfl, h⟩
  | cons b rest ih =>
      rcases h with ⟨a, rfl, hrelated⟩
      cases hadd : ktAddBufferToFifo s.fifo b s.heap with
      | mk result after =>
          have hstep : ktAddMetadataBuffer b s =
              (result, { s with fifo := after.1, heap := after.2 }) := by
            rw [ktAddMetadataBuffer, hadd]
          have hstep' : ktAddMetadataBuffer b (s.withApp a) = (result,
              ({ s with fifo := after.1, heap := after.2 } :
                KtState app).withApp a) := by
            rw [ktAddMetadataBuffer]
            simp only [KtState.withApp, hadd]
          cases result with
          | none =>
              rw [loopOver_cons_of_none _ hstep, loopOver_cons_of_none _ hstep']
              exact ih ⟨a, rfl, hrelated⟩
          | some site =>
              rw [loopOver_cons_of_some _ hstep, loopOver_cons_of_some _ hstep']
              exact ⟨rfl, a, rfl, hrelated⟩

theorem runCallback_agrees {identified : Bool}
    {callback : app -> Memory -> Int -> AppReaction app}
    {callback' : app' -> Memory -> Int -> AppReaction app'}
    (hagrees : CallbackAgrees related identified callback callback')
    {out : MetaBuffer} {s : KtState app} {t : KtState app'}
    (h : SameButApp related s t)
    (hbools : HoldsBools out.address (s.heap.load32 out.address) s.heap) :
    AgreeButApp related (runCallback identified callback out s)
      (runCallback identified callback' out t) := by
  rcases h with ⟨a, rfl, hrelated⟩
  rcases hagrees s.app a s.reports s.heap out hrelated hbools
    with ⟨hheap, hadded, happ⟩
  unfold runCallback
  simp only [KtState.withApp, hheap, hadded]
  exact loopOver_ktAddMetadataBuffer_agrees _ ⟨_, rfl, happ⟩

/-- What is made of a call: there is no return from a failed assertion, and
otherwise the handler goes on behind the call. -/
def behindCall (next : KtState app -> MetaOutcome × KtState app) :
    Option AssertSite × KtState app -> MetaOutcome × KtState app
  | (some site, s) => (.assertFailed site, s)
  | (none, s) => next s

theorem AgreeButApp.behindCall {x : Option AssertSite × KtState app}
    {y : Option AssertSite × KtState app'} (h : AgreeButApp related x y)
    {next : KtState app -> MetaOutcome × KtState app}
    {next' : KtState app' -> MetaOutcome × KtState app'}
    (hnext : forall s t, SameButApp related s t ->
      AgreeButApp related (next s) (next' t)) :
    AgreeButApp related (behindCall next x) (KtLib.behindCall next' y) := by
  rcases x with ⟨stop, s⟩
  rcases y with ⟨stop', t⟩
  rcases h with ⟨hstop, hsame⟩
  cases hstop
  cases stop with
  | some site =>
      exact ⟨rfl, hsame⟩
  | none =>
      exact hnext s t hsame

theorem reportUnidentified_agrees (hcbs : CallbacksAgree related cbs cbs')
    (rx : Memory) (ideal : Option Nat) (identified : Nat) (out : MetaBuffer)
    {s : KtState app} {t : KtState app'} (h : SameButApp related s t) :
    AgreeButApp related (reportUnidentified cbs rx ideal identified out s)
      (reportUnidentified cbs' rx ideal identified out t) := by
  rcases h with ⟨a, rfl, hrelated⟩
  have hstart : (s.withApp a).startPass identified = s.startPass identified :=
    rfl
  have hbools := unidentifiedUsers_holdBools rx ideal out
    (List.range (loopCount rx))
    (rfl : (s.startPass identified).countOfUnidentifiedUsers = 0)
  simp only [reportUnidentified, hstart]
  cases hloop : loopOver (unidentifiedUser rx ideal out)
      (List.range (loopCount rx)) (s.startPass identified) with
  | mk stop st =>
      rw [hloop] at hbools
      cases stop with
      | some site =>
          exact ⟨rfl, a, rfl, hrelated⟩
      | none =>
          have hput : SameButApp related
              (s.finishPass (st.put out 0
                (leBytes 4 st.countOfUnidentifiedUsers)))
              ((s.withApp a).finishPass (st.put out 0
                (leBytes 4 st.countOfUnidentifiedUsers))) :=
            ⟨a, rfl, hrelated⟩
          rcases cbs with ⟨callback, notIdentified⟩
          rcases cbs' with ⟨callback', notIdentified'⟩
          have hnotIdentified := hcbs.notIdentified
          cases hnotIdentified with
          | none =>
              exact ⟨rfl, hput⟩
          | some hagrees =>
              have hcalled := runCallback_agrees hagrees hput hbools.put
              have hreturns : forall s t, SameButApp related s t ->
                  AgreeButApp related ((.returned true : MetaOutcome), s)
                    (.returned true, t) :=
                fun _ _ hsame => ⟨rfl, hsame⟩
              exact hcalled.behindCall hreturns

theorem handleUnidentified_agrees (hcbs : CallbacksAgree related cbs cbs')
    (rx : Memory) (ideal : Option Nat) (identified unidentified : Nat)
    (pOutData : Option MetaBuffer) {s : KtState app} {t : KtState app'}
    (h : SameButApp related s t) :
    AgreeButApp related
      (handleUnidentified cbs rx ideal identified unidentified pOutData s)
      (handleUnidentified cbs' rx ideal identified unidentified pOutData t) := by
  unfold handleUnidentified
  by_cases hnobody : unidentified = 0
  · rw [if_pos hnobody, if_pos hnobody]
    exact ⟨rfl, h⟩
  · rw [if_neg hnobody, if_neg hnobody]
    cases pOutData with
    | some out =>
        exact reportUnidentified_agrees hcbs rx ideal identified out h
    | none =>
        rcases ktGetMetadataBuffer_agrees h with ⟨hbuffer, hsame⟩
        cases hget : ktGetMetadataBuffer s with
        | mk buffer s' =>
            cases hget' : ktGetMetadataBuffer t with
            | mk buffer' t' =>
                rw [hget, hget'] at hbuffer hsame
                cases hbuffer
                cases buffer with
                | none =>
                    exact ⟨rfl, hsame⟩
                | some out =>
                    by_cases hlength : out.length = 0
                    · simp only [if_pos hlength]
                      exact ⟨rfl, hsame⟩
                    · simp only [if_neg hlength]
                      exact reportUnidentified_agrees hcbs rx ideal identified
                        out hsame

theorem handleUsers_agrees (hcbs : CallbacksAgree related cbs cbs')
    (rx : Memory) (ideal : Option Nat) (out : MetaBuffer) {s : KtState app}
    {t : KtState app'} (h : SameButApp related s t) :
    AgreeButApp related (handleUsers cbs rx ideal out s)
      (handleUsers cbs' rx ideal out t) := by
  rcases h with ⟨a, rfl, hrelated⟩
  have hstart : (s.withApp a).startPass 0 = s.startPass 0 := rfl
  have hbools := identifiedUsers_holdBools rx ideal out
    (List.range (loopCount rx))
    (rfl : (s.startPass 0).countOfIdentifiedUsers = 0)
  simp only [handleUsers, hstart]
  cases hloop : loopOver (identifiedUser rx ideal out)
      (List.range (loopCount rx)) (s.startPass 0) with
  | mk stop st =>
      rw [hloop] at hbools
      cases stop with
      | some site =>
          exact ⟨rfl, a, rfl, hrelated⟩
      | none =>
          have hput : SameButApp related
              (s.finishPass (st.put out 0
                (leBytes 4 st.countOfIdentifiedUsers)))
              ((s.withApp a).finishPass (st.put out 0
                (leBytes 4 st.countOfIdentifiedUsers))) :=
            ⟨a, rfl, hrelated⟩
          have hothers : forall pOutData s t, SameButApp related s t ->
              AgreeButApp related
                (handleUnidentified cbs rx ideal st.countOfIdentifiedUsers
                  st.countOfUnidentifiedUsers pOutData s)
                (handleUnidentified cbs' rx ideal st.countOfIdentifiedUsers
                  st.countOfUnidentifiedUsers pOutData t) :=
            fun pOutData _ _ => handleUnidentified_agrees hcbs rx ideal _ _
              pOutData
          rcases cbs with ⟨callback, notIdentified⟩
          rcases cbs' with ⟨callback', notIdentified'⟩
          have hidentified := hcbs.identified
          cases hidentified with
          | none =>
              exact hothers _ _ _ hput
          | some hagrees =>
              by_cases hnobody : st.countOfIdentifiedUsers = 0
              · simp only [if_pos hnobody]
                exact hothers _ _ _ hput
              · simp only [if_neg hnobody]
                have hcalled := runCallback_agrees hagrees hput hbools.put
                exact hcalled.behindCall (hothers none)

/-- The handler goes through the same calls for both applications, and keeps
what relates them. -/
theorem ktHandleReceivedMetadata_agrees (hcbs : CallbacksAgree related cbs cbs')
    (rx : Memory) (bufferSize : Nat) {s : KtState app} {t : KtState app'}
    (h : SameButApp related s t) :
    AgreeButApp related (ktHandleReceivedMetadata cbs rx bufferSize s)
      (ktHandleReceivedMetadata cbs' rx bufferSize t) := by
  have hends : forall outcome : MetaOutcome,
      AgreeButApp related (outcome, s) (outcome, t) :=
    fun _ => ⟨rfl, h⟩
  rcases ktGetMetadataBuffer_agrees h with ⟨hbuffer, hsame⟩
  cases hget : ktGetMetadataBuffer s with
  | mk buffer s' =>
      cases hget' : ktGetMetadataBuffer t with
      | mk buffer' t' =>
          rw [hget, hget'] at hbuffer hsame
          cases hbuffer
          unfold ktHandleReceivedMetadata
          split
          · exact hends _
          · split
            · exact hends _
            · split
              · exact hends _
              · split
                · exact hends _
                · rw [hget, hget']
                  cases buffer with
                  | none =>
                      exact ⟨rfl, hsame⟩
                  | some out =>
                      simp only
                      split
                      · exact ⟨rfl, hsame⟩
                      · split
                        · exact ⟨rfl, hsame⟩
                        · exact handleUsers_agrees hcbs rx _ out hsame

end Simulation

end KtLib
end GardHub
