import GardHub.KtLib.Reports

/-!
# Rules for the handler

The handler fills a buffer, calls back with it, and may do so a second time.
Whatever is to hold when it returns has to be established by the callbacks; the
rules say of what state each of them can rely on.
-/

namespace GardHub
namespace KtLib

open Foundation
open Interface

variable {app : Type}

/-- A buffer is being filled with up to `n` faces: nothing else has changed. -/
structure Filled (n : Nat) (out : MetaBuffer) (s s' : KtState app) : Prop where
  fifo : s'.fifo = s.fifo
  app : s'.app = s.app
  same : forall x, x < out.address ∨ out.address + pdFaces n ≤ x ->
    s'.heap x = s.heap x

theorem Filled.trans {n : Nat} {out : MetaBuffer} {s mid s' : KtState app}
    (h : Filled n out s mid) (h' : Filled n out mid s') :
    Filled n out s s' := by
  constructor
  · rw [h'.fifo, h.fifo]
  · rw [h'.app, h.app]
  · intro x hx
    rw [h'.same x hx, h.same x hx]

/-- The face count in a buffer says that there are faces, at most `n`. -/
def Counted (n : Nat) (out : MetaBuffer) (s : KtState app) : Prop :=
  0 < s.heap.load32 out.address ∧ s.heap.load32 out.address ≤ n

/-- A call that is made once a buffer has been filled returns and establishes
something. -/
def CallsBack (call : KtState app -> Option AssertSite × KtState app)
    (n : Nat) (out : MetaBuffer) (s : KtState app)
    (post : KtState app -> Prop) : Prop :=
  forall s', Filled n out s s' -> Counted n out s' ->
    exists s'', call s' = (none, s'') ∧ post s''

/-- The second callback, which may be left out. -/
def callNotIdentified (cbs : KtCallbacks app) (out : MetaBuffer)
    (s : KtState app) : Option AssertSite × KtState app :=
  match cbs.kcOnFaceNotIdentified with
  | none => (none, s)
  | some callback => runCallback false callback out s

/-- The next buffer can be got, and then satisfies something. -/
def CanGet (s : KtState app) (post : MetaBuffer -> KtState app -> Prop) :
    Prop :=
  exists c s', ktGetMetadataBuffer s = (some c, s') ∧ c.length ≠ 0 ∧ post c s'

theorem filled_put {n count : Nat} {out : MetaBuffer} {s : KtState app}
    {st : FacePass} {slots : Nat}
    (hsame : SameBehindFaces out.address slots s.heap st.heap)
    (hslots : slots ≤ n) :
    Filled n out s (s.finishPass (st.put out 0 (leBytes 4 count))) := by
  refine ⟨rfl, rfl, ?_⟩
  intro x hx
  simp only [pdFaces] at hx
  rw [KtState.finishPass_heap, FacePass.put_heap,
    Memory.store_apply_of_not_mem (by simp; lia), hsame x]
  simp only [pdFaces]
  lia

theorem load32_put {count : Nat} {out : MetaBuffer} {s : KtState app}
    {st : FacePass} (hcount : count < 2 ^ 32) :
    (s.finishPass (st.put out 0 (leBytes 4 count))).heap.load32 out.address =
      count := by
  have hread : readPpeData false (st.put out 0 (leBytes 4 count)).heap out =
      _ := readPpeData_put hcount
  exact congrArg Report.pdFaceCount hread

section Rules

variable {cbs : KtCallbacks app} {rx : Memory} {ideal : Option Nat}
  {post : KtState app -> Prop}

theorem reportUnidentified_rule {identified : Nat} {out : MetaBuffer}
    {s : KtState app}
    (htype : forall i : Nat, i < loopCount rx -> userDataType rx i =
      AppHmiMetadataOutputDataType.userOutputData.code)
    (hcount : loopCount rx < 2 ^ 32) (hidentified : identified < loopCount rx)
    (hsome : unidentifiedUsers rx (loopCount rx) ≠ [])
    (hcall : CallsBack (callNotIdentified cbs out) (loopCount rx) out s post) :
    exists s', reportUnidentified cbs rx ideal identified out s =
      (.returned true, s') ∧ post s' := by
  have hpasses := unidentifiedUsers_pass_of_type rx ideal out
    (rfl : (s.startPass identified).countOfUnidentifiedUsers = 0) htype
  rcases hpasses with ⟨st, hloop, hpass⟩
  have hle := unidentifiedUsers_length_le rx (loopCount rx)
  rw [← hpass.unidentified] at hle
  have hpos : 0 < st.countOfUnidentifiedUsers := by
    rw [hpass.unidentified]
    exact List.length_pos_of_ne_nil hsome
  have hfilled : Filled (loopCount rx) out s (s.finishPass
      (st.put out 0 (leBytes 4 st.countOfUnidentifiedUsers))) :=
    filled_put hpass.same (max_le hle hidentified)
  have hcounted : Counted (loopCount rx) out (s.finishPass
      (st.put out 0 (leBytes 4 st.countOfUnidentifiedUsers))) := by
    rw [Counted, load32_put (by lia)]
    exact ⟨hpos, hle⟩
  rcases hcall _ hfilled hcounted with ⟨s', hcalled, hpost⟩
  refine ⟨s', ?_, hpost⟩
  cases hcallback : cbs.kcOnFaceNotIdentified with
  | none =>
      rw [callNotIdentified, hcallback] at hcalled
      cases hcalled
      simp only [reportUnidentified, hloop, hcallback]
  | some callback =>
      rw [callNotIdentified, hcallback] at hcalled
      simp only [reportUnidentified, hloop, hcallback, hcalled]

/-- Both reports.  The first callback has to see to it that the next buffer can
be got, and if it is left out the first buffer is kept for the other users. -/
theorem handleUsers_rule {out : MetaBuffer} {s : KtState app}
    (htype : forall i : Nat, i < loopCount rx -> userDataType rx i =
      AppHmiMetadataOutputDataType.userOutputData.code)
    (hcount : loopCount rx < 2 ^ 32) (hpos : 0 < loopCount rx)
    (hidentified : forall callback, cbs.kcOnFaceIdentified = some callback ->
      CallsBack (runCallback true callback out) (loopCount rx) out s
        fun s' => post s' ∧ CanGet s' fun c mid =>
          CallsBack (callNotIdentified cbs c) (loopCount rx) c mid post)
    (hreused : CallsBack (callNotIdentified cbs out) (loopCount rx) out s post)
    (hkept : cbs.kcOnFaceIdentified = none ->
      forall s', Filled (loopCount rx) out s s' -> post s') :
    exists s', handleUsers cbs rx ideal out s = (.returned true, s') ∧
      post s' := by
  have hpasses := identifiedUsers_pass_of_type rx ideal out
    (rfl : (s.startPass 0).countOfIdentifiedUsers = 0) rfl htype
  rcases hpasses with ⟨st, hloop, hpass⟩
  have hsum := identifiedUsers_add_unidentifiedUsers rx (loopCount rx)
  rw [← hpass.identified, ← hpass.unidentified] at hsum
  have hfilled : Filled (loopCount rx) out s (s.finishPass
      (st.put out 0 (leBytes 4 st.countOfIdentifiedUsers))) :=
    filled_put hpass.same (by lia)
  have hothers : st.countOfUnidentifiedUsers ≠ 0 ->
      unidentifiedUsers rx (loopCount rx) ≠ [] := by
    intro hne hnone
    rw [hpass.unidentified, hnone] at hne
    exact hne rfl
  -- With the first buffer still there, it takes the other users.
  have hreuse : st.countOfUnidentifiedUsers ≠ 0 ->
      exists s', handleUnidentified cbs rx ideal st.countOfIdentifiedUsers
        st.countOfUnidentifiedUsers (some out) (s.finishPass
          (st.put out 0 (leBytes 4 st.countOfIdentifiedUsers))) =
        (.returned true, s') ∧ post s' := by
    intro hne
    rw [handleUnidentified, if_neg hne]
    apply reportUnidentified_rule htype hcount (by lia) (hothers hne)
    intro s' hfilled' hcounted
    exact hreused s' (hfilled.trans hfilled') hcounted
  cases hcallback : cbs.kcOnFaceIdentified with
  | none =>
      simp only [handleUsers, hloop, hcallback]
      by_cases hne : st.countOfUnidentifiedUsers = 0
      · rw [handleUnidentified, if_pos hne]
        exact ⟨_, rfl, hkept hcallback _ hfilled⟩
      · exact hreuse hne
  | some callback =>
      simp only [handleUsers, hloop, hcallback]
      by_cases hnobody : st.countOfIdentifiedUsers = 0
      · rw [if_pos hnobody]
        exact hreuse (by lia)
      · have hcounted : Counted (loopCount rx) out (s.finishPass
            (st.put out 0 (leBytes 4 st.countOfIdentifiedUsers))) := by
          rw [Counted, load32_put (by lia)]
          lia
        rcases hidentified callback hcallback _ hfilled hcounted
          with ⟨mid, hcalled, hpost, hget⟩
        rw [if_neg hnobody, hcalled]
        by_cases hne : st.countOfUnidentifiedUsers = 0
        · simp only [handleUnidentified, if_pos hne]
          exact ⟨mid, rfl, hpost⟩
        · rcases hget with ⟨c, next, hbuffer, hlength, hsecond⟩
          simp only [handleUnidentified, if_neg hne, hbuffer, if_neg hlength]
          exact reportUnidentified_rule htype hcount (by lia) (hothers hne)
            hsecond

end Rules

end KtLib
end GardHub
