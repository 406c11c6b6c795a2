import GardHub.KtLib.Extends
import GardHub.KtLib.Reports

/-!
# Bounds of the metadata buffers

What the handler puts into the application's buffers and how many faces it
reports, against the lengths the application declared for them.  The length of
a buffer is checked against zero only, so every face is filled in whether it
fits or not.
-/

namespace GardHub
namespace KtLib

open Foundation
open Interface

variable {app : Type}

/-- The number of whole faces that fit into a buffer. -/
def facesThatFit (declared : Nat) : Nat := (declared - 4) / 28

theorem le_facesThatFit_iff {count declared : Nat} (h : 4 ≤ declared) :
    count ≤ facesThatFit declared <-> pdFaces count ≤ declared := by
  rw [facesThatFit, Nat.le_div_iff_mul_le (by decide), pdFaces]
  lia

/-- The users that a callback is for. -/
def usersOfKind (rx : Memory) (identified : Bool) (n : Nat) : List Nat :=
  if identified then identifiedUsers rx n else unidentifiedUsers rx n

def FaceData.withoutFaceId (face : FaceData) : FaceData :=
  { face with fdFaceId := 0 }

@[simp] theorem withoutFaceId_wireFace (rx : Memory) (ideal : Option Nat)
    (faceId i : Nat) :
    (wireFace rx ideal faceId i).withoutFaceId = wireFace rx ideal 0 i := by
  simp [FaceData.withoutFaceId, wireFace]

/-- A report has as many faces as fit, and those are the first ones in wire
order. -/
structure FirstFaces (rx : Memory) (ideal : Option Nat) (r : Report) :
    Prop where
  count : r.pdFaceCount =
    min (usersOfKind rx r.identified (loopCount rx)).length
      (facesThatFit r.declared)
  faces : r.faces.map FaceData.withoutFaceId =
    ((usersOfKind rx r.identified (loopCount rx)).take r.pdFaceCount).map
      (wireFace rx ideal 0)

/-- From one state to another, the handler puts bytes inside the declared
lengths only, never a face count of more faces than fit, and reports the first
faces. -/
structure KeepsBuffers (rx : Memory) (ideal : Option Nat)
    (s s' : KtState app) : Prop where
  inBounds : forall x, x ∈ s'.stores.drop s.stores.length -> x.InBounds
  counts : forall x, x ∈ s'.stores.drop s.stores.length -> x.offset = 0 ->
    leValue x.bytes ≤ facesThatFit x.declared
  faces : forall r, r ∈ s'.reports.drop s.reports.length ->
    FirstFaces rx ideal r

/-!
## Parts of a run
-/

section Parts

variable {rx : Memory} {ideal : Option Nat}

theorem keepsBuffers_iff {s s' : KtState app} {stores : List MetaStore}
    {reports : List Report} (hstores : s'.stores = s.stores ++ stores)
    (hreports : s'.reports = s.reports ++ reports) :
    KeepsBuffers rx ideal s s' <->
      (forall x, x ∈ stores -> x.InBounds) ∧
      (forall x, x ∈ stores -> x.offset = 0 ->
        leValue x.bytes ≤ facesThatFit x.declared) ∧
      (forall r, r ∈ reports -> FirstFaces rx ideal r) := by
  constructor
  · intro h
    have hinBounds := h.inBounds
    have hcounts := h.counts
    have hfaces := h.faces
    rw [hstores, List.drop_left] at hinBounds hcounts
    rw [hreports, List.drop_left] at hfaces
    exact ⟨hinBounds, hcounts, hfaces⟩
  · intro h
    constructor
    · rw [hstores, List.drop_left]
      exact h.1
    · rw [hstores, List.drop_left]
      exact h.2.1
    · rw [hreports, List.drop_left]
      exact h.2.2

theorem KeepsBuffers.refl (s : KtState app) : KeepsBuffers rx ideal s s := by
  constructor <;> simp

theorem keepsBuffers_trans_iff {s mid s' : KtState app} (h : Extends s mid)
    (h' : Extends mid s') :
    KeepsBuffers rx ideal s s' <->
      KeepsBuffers rx ideal s mid ∧ KeepsBuffers rx ideal mid s' := by
  rcases h.stores with ⟨front, hfront⟩
  rcases h'.stores with ⟨back, hback⟩
  rcases h.reports with ⟨first, hfirst⟩
  rcases h'.reports with ⟨last, hlast⟩
  have hstores : s'.stores = s.stores ++ (front ++ back) := by
    rw [← hback, ← hfront, List.append_assoc]
  have hreports : s'.reports = s.reports ++ (first ++ last) := by
    rw [← hlast, ← hfirst, List.append_assoc]
  rw [keepsBuffers_iff hstores hreports,
    keepsBuffers_iff hfront.symm hfirst.symm,
    keepsBuffers_iff hback.symm hlast.symm, List.forall_mem_append,
    List.forall_mem_append, List.forall_mem_append]
  constructor
  · rintro ⟨⟨h1, h2⟩, ⟨h3, h4⟩, h5, h6⟩
    exact ⟨⟨h1, h3, h5⟩, h2, h4, h6⟩
  · rintro ⟨⟨h1, h3, h5⟩, h2, h4, h6⟩
    exact ⟨⟨h1, h2⟩, ⟨h3, h4⟩, h5, h6⟩

/-- A pass over the users keeps the buffers if its faces fit. -/
theorem PutsFaces.keepsBuffers_iff {fits : Prop} {s : KtState app}
    {st : FacePass} (h : PutsFaces fits s.stores st.stores) :
    KeepsBuffers rx ideal s (s.finishPass st) <-> fits := by
  rcases h with ⟨new, hnew, hbehind, hbounds⟩
  have hstores : (s.finishPass st).stores = s.stores ++ new := hnew
  have hreports : (s.finishPass st).reports = s.reports ++ [] :=
    (List.append_nil s.reports).symm
  rw [KtLib.keepsBuffers_iff hstores hreports, ← hbounds]
  constructor
  · intro h
    exact h.1
  · intro h
    refine ⟨h, ?_, by simp⟩
    intro x hx hzero
    have hfour := hbehind x hx
    lia

theorem keepsBuffers_count_iff {s : KtState app} {st : FacePass}
    {out : MetaBuffer} {count : Nat} (hout : 16 ≤ out.length)
    (hcount : count < 2 ^ 32) :
    KeepsBuffers rx ideal (s.finishPass st)
        (s.finishPass (st.put out 0 (leBytes 4 count))) <->
      pdFaces count ≤ out.length := by
  have hstores : (s.finishPass (st.put out 0 (leBytes 4 count))).stores =
      (s.finishPass st).stores ++ [
        { declared := out.length, offset := 0, bytes := leBytes 4 count }] :=
    rfl
  have hreports : (s.finishPass (st.put out 0 (leBytes 4 count))).reports =
      (s.finishPass st).reports ++ [] :=
    (List.append_nil s.reports).symm
  have hvalue : leValue (leBytes 4 count) = count :=
    leValue_leBytes_of_lt (by simpa using hcount)
  rw [keepsBuffers_iff hstores hreports,
    ← le_facesThatFit_iff (by lia)]
  simp only [List.mem_singleton, forall_eq, MetaStore.InBounds, hvalue,
    leBytes_length, List.not_mem_nil, false_implies, implies_true, and_true]
  constructor
  · intro h
    exact h.2 trivial
  · intro h
    exact ⟨by lia, fun _ => h⟩

theorem keepsBuffers_runCallback {identified : Bool}
    (callback : app -> Memory -> Int -> AppReaction app) {out : MetaBuffer}
    {s : KtState app}
    (h : FirstFaces rx ideal (readPpeData identified s.heap out)) :
    KeepsBuffers rx ideal s (runCallback identified callback out s).2 := by
  rcases runCallback_reports identified callback out s with ⟨hreports, hstores⟩
  rw [← List.append_nil s.stores] at hstores
  rw [keepsBuffers_iff hstores hreports]
  simpa using h

/-- A buffer with room for every user of a kind is reported with all of them. -/
theorem firstFaces_of_fit {identified : Bool} {declared count : Nat}
    {faces : List FaceData}
    (hcount : count = (usersOfKind rx identified (loopCount rx)).length)
    (hlength : 4 ≤ declared) (hfits : pdFaces count ≤ declared)
    (hfaces : faces.map FaceData.withoutFaceId =
      (usersOfKind rx identified (loopCount rx)).map (wireFace rx ideal 0)) :
    FirstFaces rx ideal
      { identified := identified
        declared := declared
        pdFaceCount := count
        faces := faces } := by
  have hle := (le_facesThatFit_iff hlength).mpr hfits
  constructor
  · change count = min _ _
    rw [← hcount, min_eq_left hle]
  · change faces.map _ = List.map _ (List.take count _)
    rw [hcount, List.take_length, hfaces]

end Parts

/-!
## The passes
-/

/-- The faces of the users who have been identified fit, up to the one that
stops the pass.  The last byte of a face is padding and is never set. -/
def FirstPassFits (rx : Memory) (out : MetaBuffer) : Prop :=
  let reached := firstStop (identifiedStop rx) (loopCount rx)
  if reached = loopCount rx then
    pdFaces (identifiedUsers rx reached).length ≤ out.length
  else pdFaces (identifiedUsers rx reached).length ≤ out.length + 1

/-- The faces of the other users fit, and so does the face id at the position
that the number of identified users gives. -/
def SecondPassFits (rx : Memory) (out : MetaBuffer) : Prop :=
  let reached := firstStop (unidentifiedStop rx) (loopCount rx)
  (unidentifiedUsers rx reached ≠ [] ->
    pdFaces (identifiedUsers rx (loopCount rx)).length + 4 ≤ out.length) ∧
  if reached = loopCount rx then
    pdFaces (unidentifiedUsers rx reached).length ≤ out.length
  else pdFaces (unidentifiedUsers rx reached).length ≤ out.length + 1

section Passes

variable {cbs : KtCallbacks app} {rx : Memory} {ideal : Option Nat}

theorem loopCount_lt (rx : Memory) : loopCount rx < 2 ^ 32 := by
  unfold loopCount toUInt32
  lia

theorem mapIdx_withoutFaceId (users : List Nat) (faceId : Nat -> Nat -> Nat) :
    (users.mapIdx fun j i => wireFace rx ideal (faceId j i) i).map
        FaceData.withoutFaceId =
      users.map (wireFace rx ideal 0) := by
  apply List.ext_getElem
  · simp
  · intro j hj hj'
    simp

theorem reportUnidentified_keepsBuffers_iff {out : MetaBuffer}
    {s : KtState app} (hout : 16 ≤ out.length) :
    KeepsBuffers rx ideal s (reportUnidentified cbs rx ideal
        (identifiedUsers rx (loopCount rx)).length out s).2 <->
      SecondPassFits rx out := by
  have hpasses := unidentifiedUsers_pass rx ideal out (loopCount rx)
    (rfl : (s.startPass (identifiedUsers rx
      (loopCount rx)).length).countOfUnidentifiedUsers = 0)
  rcases hpasses with ⟨st, hpass, ⟨hreached, hloop⟩ | ⟨hreached, hloop⟩⟩
  · have hcount := hpass.unidentified
    rw [hreached] at hcount
    have hlt : st.countOfUnidentifiedUsers < 2 ^ 32 := by
      have hle := unidentifiedUsers_length_le rx (loopCount rx)
      have hbound := loopCount_lt rx
      lia
    have hput : KeepsBuffers rx ideal s (s.finishPass (st.put out 0
        (leBytes 4 st.countOfUnidentifiedUsers))) <->
        SecondPassFits rx out := by
      rw [keepsBuffers_trans_iff (PutsFaces.extends hpass.stores)
        extends_count, PutsFaces.keepsBuffers_iff hpass.stores,
        keepsBuffers_count_iff hout hlt, hcount, SecondPassFits, hreached,
        if_pos rfl]
      simp only [List.length_eq_zero_iff, ne_eq, KtState.startPass,
        pdFaces]
      constructor
      · rintro ⟨hboth, hfits⟩
        exact ⟨fun hsome => (hboth hsome).1, hfits⟩
      · rintro ⟨hslot, hfits⟩
        exact ⟨fun hsome => ⟨hslot hsome, by lia⟩, hfits⟩
    cases hcallback : cbs.kcOnFaceNotIdentified with
    | none =>
        simp only [reportUnidentified, hloop, hcallback]
        exact hput
    | some callback =>
        have hrun : (reportUnidentified cbs rx ideal
            (identifiedUsers rx (loopCount rx)).length out s).2 =
            (runCallback false callback out (s.finishPass (st.put out 0
              (leBytes 4 st.countOfUnidentifiedUsers)))).2 := by
          simp only [reportUnidentified, hloop, hcallback]
          split <;> simp_all
        rw [hrun, keepsBuffers_trans_iff
          ((PutsFaces.extends hpass.stores).trans extends_count)
          (runCallback_extends false callback out _), hput]
        constructor
        · intro h
          exact h.1
        · intro h
          refine ⟨h, keepsBuffers_runCallback callback ?_⟩
          rw [KtState.finishPass_heap, readPpeData_put hlt]
          rw [SecondPassFits, hreached, if_pos rfl, ← hcount] at h
          have hkind : st.countOfUnidentifiedUsers =
              (usersOfKind rx false (loopCount rx)).length := hcount
          apply firstFaces_of_fit hkind (by lia) h.2
          rw [hpass.faces, hreached]
          exact mapIdx_withoutFaceId _ _
  · have hrun : (reportUnidentified cbs rx ideal
        (identifiedUsers rx (loopCount rx)).length out s).2 =
        s.finishPass st := by
      simp only [reportUnidentified, hloop]
    rw [hrun, PutsFaces.keepsBuffers_iff hpass.stores, hpass.unidentified,
      SecondPassFits, if_neg (Nat.ne_of_lt hreached)]
    simp only [List.length_eq_zero_iff, ne_eq, KtState.startPass]
    constructor
    · intro hboth
      refine ⟨fun hsome => (hboth hsome).1, ?_⟩
      by_cases hnone : unidentifiedUsers rx
          (firstStop (unidentifiedStop rx) (loopCount rx)) = []
      · simp only [hnone, List.length_nil, pdFaces]
        lia
      · exact (hboth hnone).2
    · rintro ⟨hslot, hfits⟩ hsome
      exact ⟨hslot hsome, hfits⟩

theorem handleUnidentified_reuse_iff {out : MetaBuffer} {s : KtState app}
    (hout : 16 ≤ out.length) :
    KeepsBuffers rx ideal s (handleUnidentified cbs rx ideal
        (identifiedUsers rx (loopCount rx)).length
        (unidentifiedUsers rx (loopCount rx)).length (some out) s).2 <->
      (unidentifiedUsers rx (loopCount rx) ≠ [] -> SecondPassFits rx out) := by
  by_cases hnone : unidentifiedUsers rx (loopCount rx) = []
  · simp [handleUnidentified, hnone, KeepsBuffers.refl]
  · have hlength : (unidentifiedUsers rx (loopCount rx)).length ≠ 0 := by
      simpa using hnone
    rw [handleUnidentified, if_neg hlength,
      reportUnidentified_keepsBuffers_iff hout]
    simp [hnone]

/-- With the first buffer given away, the next one that waits has to have room
for the other users, if there is one. -/
theorem handleUnidentified_second_iff {waiting : List MetaBuffer}
    {s : KtState app} (hheld : FifoHolds s.heap s.fifo waiting) :
    KeepsBuffers rx ideal s (handleUnidentified cbs rx ideal
        (identifiedUsers rx (loopCount rx)).length
        (unidentifiedUsers rx (loopCount rx)).length none s).2 <->
      (unidentifiedUsers rx (loopCount rx) ≠ [] ->
        forall c, waiting.head? = some c -> SecondPassFits rx c) := by
  by_cases hnone : unidentifiedUsers rx (loopCount rx) = []
  · simp [handleUnidentified, hnone, KeepsBuffers.refl]
  · have hlength : (unidentifiedUsers rx (loopCount rx)).length ≠ 0 := by
      simpa using hnone
    rw [handleUnidentified, if_neg hlength]
    cases waiting with
    | nil =>
        simp [hheld.ktGetMetadataBuffer_nil, KeepsBuffers.refl]
    | cons c rest =>
        have hc := (hheld.usable c List.mem_cons_self).length_ge
        have hcLength : c.length ≠ 0 := by
          lia
        rcases hheld.ktGetMetadataBuffer with ⟨fifo, hbuffer, -⟩
        have hsame : KeepsBuffers rx ideal s
            { s with fifo := fifo, heap := setBiNext s.heap c.address 0 } := by
          constructor <;> simp
        have hextends : Extends s
            { s with fifo := fifo, heap := setBiNext s.heap c.address 0 } :=
          ⟨List.prefix_rfl, List.prefix_rfl⟩
        rw [hbuffer]
        simp only [if_neg hcLength]
        rw [keepsBuffers_trans_iff hextends
            (reportUnidentified_extends _ c _),
          reportUnidentified_keepsBuffers_iff hc]
        simp [hsame, hnone]

end Passes

/-!
## The handler
-/

/-- What the application does in the first callback, which it may choose by what
it finds in the report and outside of the buffer: it is courteous, and then
`second` is the buffer that waits first. -/
def FirstCallback (cbs : KtCallbacks app) (rx : Memory) (ideal : Option Nat)
    (b : MetaBuffer) (rest : List MetaBuffer) (second : Option MetaBuffer)
    (s : KtState app) : Prop :=
  forall callback, cbs.kcOnFaceIdentified = some callback ->
    forall heap, SameOutside b s.heap heap ->
      identifiedReports rx ideal (loopCount rx) b.length =
        [readPpeData true heap b] ->
      Courteous rest heap (callback s.app heap b.address) ∧
        (rest ++ (callback s.app heap b.address).added).head? = second

/-- The buffer for the users who have not been identified: the first one is used
again unless it has been given away. -/
def secondPassBuffer (cbs : KtCallbacks app) (rx : Memory) (b : MetaBuffer)
    (second : Option MetaBuffer) : Option MetaBuffer :=
  if cbs.kcOnFaceIdentified.isSome ∧ identifiedUsers rx (loopCount rx) ≠ [] then
    second
  else some b

/-- All faces that the passes fill in have room in their buffer. -/
def FacesFit (cbs : KtCallbacks app) (rx : Memory) (b : MetaBuffer)
    (second : Option MetaBuffer) : Prop :=
  FirstPassFits rx b ∧
    (firstStop (identifiedStop rx) (loopCount rx) = loopCount rx ->
      unidentifiedUsers rx (loopCount rx) ≠ [] ->
      forall c, secondPassBuffer cbs rx b second = some c ->
        SecondPassFits rx c)

section Handler

variable {cbs : KtCallbacks app} {rx : Memory} {ideal : Option Nat}
  {b : MetaBuffer} {rest : List MetaBuffer} {second : Option MetaBuffer}
  {start s : KtState app}

theorem IdentifiedPass.count_lt {before st : FacePass} {n : Nat}
    (hpass : IdentifiedPass rx ideal b before n st) (hn : n ≤ loopCount rx) :
    st.countOfIdentifiedUsers < 2 ^ 32 := by
  have hle := identifiedUsers_length_le rx n
  have hbound := loopCount_lt rx
  rw [hpass.identified]
  lia

/-- What the first callback reads is all there is to report to it. -/
theorem IdentifiedPass.firstFaces {before st : FacePass}
    (hpass : IdentifiedPass rx ideal b before (loopCount rx) st) (hb : b.Usable)
    (hfits : pdFaces st.countOfIdentifiedUsers ≤ b.length) :
    FirstFaces rx ideal (readPpeData true
      (st.put b 0 (leBytes 4 st.countOfIdentifiedUsers)).heap b) := by
  have hge := hb.length_ge
  have hkind : st.countOfIdentifiedUsers =
      (usersOfKind rx true (loopCount rx)).length := hpass.identified
  rw [readPpeData_put (hpass.count_lt (le_refl _))]
  apply firstFaces_of_fit hkind (by lia) hfits
  rw [hpass.faces, List.map_map, usersOfKind, if_pos rfl]
  apply List.map_congr_left
  intro i _
  exact withoutFaceId_wireFace _ _ _ _

/-- Without a first callback, the other users get the first buffer. -/
theorem handleUsers_reused {st : FacePass}
    (hloop : loopOver (identifiedUser rx ideal b) (List.range (loopCount rx))
      (s.startPass 0) = (none, st))
    (hpass : IdentifiedPass rx ideal b (s.startPass 0) (loopCount rx) st)
    (hreuse : ¬ (cbs.kcOnFaceIdentified.isSome = true ∧
      identifiedUsers rx (loopCount rx) ≠ [])) :
    handleUsers cbs rx ideal b s =
      handleUnidentified cbs rx ideal (identifiedUsers rx (loopCount rx)).length
        (unidentifiedUsers rx (loopCount rx)).length (some b) (s.finishPass
          (st.put b 0 (leBytes 4 st.countOfIdentifiedUsers))) := by
  rw [← hpass.identified, ← hpass.unidentified]
  cases hsome : cbs.kcOnFaceIdentified with
  | none =>
      simp only [handleUsers, hloop, hsome]
  | some callback =>
      have hzero : st.countOfIdentifiedUsers = 0 := by
        rw [hpass.identified]
        simpa [hsome] using hreuse
      simp only [handleUsers, hloop, hsome, if_pos hzero]

/-- The first callback is made with all identified users, and leaves the buffers
in the library to the second pass. -/
theorem handleUsers_called {st : FacePass}
    {callback : app -> Memory -> Int -> AppReaction app}
    (hb : b.Usable) (hapart : forall c, c ∈ rest -> b.Apart c)
    (hcallback : FirstCallback cbs rx ideal b rest second start)
    (happ : s.app = start.app)
    (hheap : s.heap = setBiNext start.heap b.address 0)
    (hheld : FifoHolds s.heap s.fifo rest)
    (hloop : loopOver (identifiedUser rx ideal b) (List.range (loopCount rx))
      (s.startPass 0) = (none, st))
    (hpass : IdentifiedPass rx ideal b (s.startPass 0) (loopCount rx) st)
    (hfits : pdFaces st.countOfIdentifiedUsers ≤ b.length)
    (hsome : cbs.kcOnFaceIdentified = some callback)
    (hne : identifiedUsers rx (loopCount rx) ≠ []) :
    exists waiting s', runCallback true callback b (s.finishPass
          (st.put b 0 (leBytes 4 st.countOfIdentifiedUsers))) = (none, s') ∧
      handleUsers cbs rx ideal b s =
        handleUnidentified cbs rx ideal (identifiedUsers rx (loopCount rx)).length
          (unidentifiedUsers rx (loopCount rx)).length none s' ∧
      FifoHolds s'.heap s'.fifo waiting ∧ waiting.head? = second := by
  have hlt := hpass.count_lt (le_refl _)
  have hsome' : st.countOfIdentifiedUsers ≠ 0 := by
    rw [hpass.identified]
    simpa using hne
  have hsame : SameOutside b start.heap
      (st.put b 0 (leBytes 4 st.countOfIdentifiedUsers)).heap :=
    hpass.sameOutside hheap hfits hb
  have hreport : identifiedReports rx ideal (loopCount rx) b.length =
      [readPpeData true
        (st.put b 0 (leBytes 4 st.countOfIdentifiedUsers)).heap b] := by
    rw [readPpeData_put hlt, hpass.faces, hpass.identified, identifiedReports,
      if_neg hne]
  have hreaction := hcallback callback hsome _ hsame hreport
  rw [← happ] at hreaction
  rcases hreaction with ⟨hcourteous, hsecond⟩
  have hge := hb.length_ge
  have hheld' : FifoHolds (s.finishPass
      (st.put b 0 (leBytes 4 st.countOfIdentifiedUsers))).heap
      (s.finishPass
        (st.put b 0 (leBytes 4 st.countOfIdentifiedUsers))).fifo rest := by
    apply hheld.congr
    intro c hc x hlow hhigh
    rw [KtState.finishPass_heap, hsame x, hheap, setBiNext_of_not_mem]
    · rcases hapart c hc with hbefore | hafter <;> lia
    · rcases hapart c hc with hbefore | hafter <;> lia
  rcases runCallback_courteous true hheld' hcourteous
    with ⟨s', hcalled, hheld'', -, -, -⟩
  refine ⟨_, s', hcalled, ?_, hheld'', hsecond⟩
  rw [← hpass.identified, ← hpass.unidentified]
  simp only [handleUsers, hloop, hsome, if_neg hsome', hcalled]

/-- Behind a first pass whose faces fit, the second one decides. -/
theorem handleUsers_second_iff {st : FacePass} (hb : b.Usable)
    (hapart : forall c, c ∈ rest -> b.Apart c)
    (hcallback : FirstCallback cbs rx ideal b rest second start)
    (happ : s.app = start.app)
    (hheap : s.heap = setBiNext start.heap b.address 0)
    (hheld : FifoHolds s.heap s.fifo rest)
    (hloop : loopOver (identifiedUser rx ideal b) (List.range (loopCount rx))
      (s.startPass 0) = (none, st))
    (hpass : IdentifiedPass rx ideal b (s.startPass 0) (loopCount rx) st)
    (hfits : pdFaces (identifiedUsers rx (loopCount rx)).length ≤ b.length) :
    KeepsBuffers rx ideal
        (s.finishPass (st.put b 0 (leBytes 4 st.countOfIdentifiedUsers)))
        (handleUsers cbs rx ideal b s).2 <->
      (unidentifiedUsers rx (loopCount rx) ≠ [] ->
        forall c, secondPassBuffer cbs rx b second = some c ->
          SecondPassFits rx c) := by
  by_cases hreuse : cbs.kcOnFaceIdentified.isSome = true ∧
      identifiedUsers rx (loopCount rx) ≠ []
  · rcases Option.isSome_iff_exists.mp hreuse.1 with ⟨callback, hsome⟩
    rw [← hpass.identified] at hfits
    rcases handleUsers_called hb hapart hcallback happ hheap hheld hloop hpass hfits
      hsome hreuse.2 with ⟨waiting, s', hcalled, hrun, hwaiting, hsecond⟩
    have hextends := runCallback_extends true callback b (s.finishPass
      (st.put b 0 (leBytes 4 st.countOfIdentifiedUsers)))
    have hkept : KeepsBuffers rx ideal (s.finishPass
        (st.put b 0 (leBytes 4 st.countOfIdentifiedUsers)))
        (runCallback true callback b _).2 :=
      keepsBuffers_runCallback callback (hpass.firstFaces hb hfits)
    rw [hcalled] at hextends hkept
    rw [hrun,
      keepsBuffers_trans_iff hextends (handleUnidentified_extends _ _ _ _),
      handleUnidentified_second_iff hwaiting, secondPassBuffer, if_pos hreuse,
      hsecond]
    constructor
    · intro h
      exact h.2
    · intro h
      exact ⟨hkept, h⟩
  · rw [handleUsers_reused hloop hpass hreuse,
      handleUnidentified_reuse_iff hb.length_ge, secondPassBuffer, if_neg hreuse]
    simp

theorem handleUsers_keepsBuffers_iff (hb : b.Usable)
    (hapart : forall c, c ∈ rest -> b.Apart c)
    (hcallback : FirstCallback cbs rx ideal b rest second start)
    (happ : s.app = start.app)
    (hheap : s.heap = setBiNext start.heap b.address 0)
    (hheld : FifoHolds s.heap s.fifo rest) :
    KeepsBuffers rx ideal s (handleUsers cbs rx ideal b s).2 <->
      FacesFit cbs rx b second := by
  have hge := hb.length_ge
  have hpasses := identifiedUsers_pass rx ideal b (loopCount rx)
    (rfl : (s.startPass 0).countOfIdentifiedUsers = 0) rfl
  rcases hpasses with ⟨st, hpass, ⟨hreached, hloop⟩ | ⟨hreached, hloop⟩⟩
  · have hcount := hpass.identified
    have hlt := hpass.count_lt hreached.le
    have hpassed : Extends s (s.finishPass st) :=
      PutsFaces.extends hpass.stores
    rw [keepsBuffers_trans_iff (hpassed.trans extends_count)
        (handleUsers_extends hloop),
      keepsBuffers_trans_iff hpassed extends_count,
      PutsFaces.keepsBuffers_iff hpass.stores, keepsBuffers_count_iff hge hlt,
      FacesFit, FirstPassFits, hreached, if_pos rfl]
    rw [hreached] at hpass hcount
    have hboth : ((st.countOfIdentifiedUsers ≠ 0 ->
        pdFaces st.countOfIdentifiedUsers ≤ b.length + 1) ∧
        pdFaces st.countOfIdentifiedUsers ≤ b.length) <->
        pdFaces (identifiedUsers rx (loopCount rx)).length ≤ b.length := by
      rw [hcount]
      constructor
      · intro h
        exact h.2
      · intro h
        exact ⟨fun _ => by lia, h⟩
    rw [hboth]
    constructor
    · rintro ⟨hfits, hrest⟩
      exact ⟨hfits, fun _ => (handleUsers_second_iff hb hapart hcallback happ
        hheap hheld hloop hpass hfits).mp hrest⟩
    · rintro ⟨hfits, hrest⟩
      exact ⟨hfits, (handleUsers_second_iff hb hapart hcallback happ hheap
        hheld hloop hpass hfits).mpr (hrest rfl)⟩
  · have hrun : (handleUsers cbs rx ideal b s).2 = s.finishPass st := by
      simp only [handleUsers, hloop]
    have hne := Nat.ne_of_lt hreached
    rw [hrun, PutsFaces.keepsBuffers_iff hpass.stores, hpass.identified,
      FacesFit, FirstPassFits, if_neg hne]
    constructor
    · intro h
      refine ⟨?_, fun heq => absurd heq hne⟩
      by_cases hnone : (identifiedUsers rx
          (firstStop (identifiedStop rx) (loopCount rx))).length = 0
      · rw [hnone]
        simp only [pdFaces]
        lia
      · exact h hnone
    · rintro ⟨hfits, -⟩ _
      exact hfits

/-- A message that passes the header checks is handled inside the declared
lengths exactly if there is nothing to do, the record behind the users has
another type than the ideal user's, or all faces fit. -/
theorem ktHandleReceivedMetadata_keepsBuffers_iff {bufferSize : Nat}
    {waiting : List MetaBuffer} (hsize : bufferSize ≠ 0)
    (htype : responseType rx = appHmiMetadataResponseType)
    (hversion : responseVersion rx = appHmiMetadataVersion)
    (hle : nbUsers rx ≤ maxUsersSupportedPerFrame)
    (hheld : FifoHolds s.heap s.fifo waiting)
    (hcallback : forall b rest, waiting = b :: rest ->
      FirstCallback cbs rx (idealUser rx bufferSize) b rest second s) :
    KeepsBuffers rx (idealUser rx bufferSize) s
        (ktHandleReceivedMetadata cbs rx bufferSize s).2 <->
      nbUsers rx = 0 ∨
        (idealUserOffset rx < bufferSize ∧ rx (idealUserOffset rx) ≠
          AppHmiMetadataOutputDataType.idealUserOutputData.code) ∨
        (forall b, waiting.head? = some b -> FacesFit cbs rx b second) := by
  by_cases hzero : nbUsers rx = 0
  · rw [ktHandleReceivedMetadata_nobody cbs s hsize htype hversion hzero]
    exact iff_of_true (KeepsBuffers.refl s) (Or.inl hzero)
  · cases waiting with
    | nil =>
        have hrun : ktHandleReceivedMetadata cbs rx bufferSize s =
            (.assertFailed .metadataBuffer, s) := by
          rw [ktHandleReceivedMetadata, if_neg hsize,
            if_neg (acceptedHeader htype hversion), if_neg (not_lt.mpr hle), if_neg hzero,
            hheld.ktGetMetadataBuffer_nil]
        rw [hrun]
        exact iff_of_true (KeepsBuffers.refl s) (Or.inr (Or.inr (by simp)))
    | cons b rest =>
        have hb := hheld.usable b List.mem_cons_self
        have hapart := List.pairwise_cons.mp hheld.apart
        by_cases hideal : idealUserOffset rx < bufferSize ∧
            rx (idealUserOffset rx) ≠
              AppHmiMetadataOutputDataType.idealUserOutputData.code
        · have hlength : b.length ≠ 0 := by
            have hge := hb.length_ge
            lia
          rcases hheld.ktGetMetadataBuffer with ⟨fifo, hbuffer, -⟩
          refine iff_of_true ?_ (Or.inr (Or.inl hideal))
          rw [ktHandleReceivedMetadata_otherIdeal cbs hsize htype hversion hle
            hzero hideal hbuffer hlength]
          constructor <;> simp
        · have hidealOk : idealUserOffset rx < bufferSize ->
              rx (idealUserOffset rx) =
                AppHmiMetadataOutputDataType.idealUserOutputData.code := by
            intro hlt
            by_contra hother
            exact hideal ⟨hlt, hother⟩
          rcases ktHandleReceivedMetadata_users cbs hsize htype
            hversion hle hzero hidealOk hheld with ⟨fifo, hrun, hrest⟩
          rw [hrun]
          have hiff := handleUsers_keepsBuffers_iff (s := { s with
              fifo := fifo
              heap := setBiNext s.heap b.address 0 })
            hb hapart.1 (hcallback b rest rfl) rfl rfl hrest
          simp only [hzero, hideal, false_or, List.head?_cons,
            Option.some.injEq, forall_eq']
          rw [← hiff]
          constructor
          · intro h
            exact ⟨h.inBounds, h.counts, h.faces⟩
          · intro h
            exact ⟨h.inBounds, h.counts, h.faces⟩

end Handler

theorem ktHandleReceivedMetadata_keepsBuffers_three :
    KeepsBuffers (received threeUsers)
      (idealUser (received threeUsers) threeUsers.length) (twoBuffers fun _ => 0)
      (ktHandleReceivedMetadata keepingCallbacks (received threeUsers)
        threeUsers.length (twoBuffers fun _ => 0)).2 := by
  have hcallback : forall b rest,
      [firstBuffer, secondBuffer] = b :: rest ->
      FirstCallback keepingCallbacks (received threeUsers)
        (idealUser (received threeUsers) threeUsers.length) b rest
        (some secondBuffer) (twoBuffers fun _ => 0) := by
    intro b rest hsplit callback hsome heap _ _
    cases hsplit
    cases hsome
    refine ⟨⟨fun b _ x _ _ => rfl, by simp, by simp⟩, rfl⟩
  have hfirst : FirstPassFits (received threeUsers) firstBuffer := by
    rw [FirstPassFits, if_pos (by decide +kernel)]
    decide +kernel
  have hsecond : SecondPassFits (received threeUsers) secondBuffer := by
    rw [SecondPassFits, if_pos (by decide +kernel)]
    exact ⟨fun _ => by decide +kernel, by decide +kernel⟩
  apply (ktHandleReceivedMetadata_keepsBuffers_iff (by decide +kernel)
    (by decide +kernel) (by decide +kernel) (by decide +kernel)
    (fifoHolds_twoBuffers fun _ => 0) hcallback).mpr
  refine Or.inr (Or.inr ?_)
  intro b hb
  cases hb
  refine ⟨hfirst, ?_⟩
  intro _ _ c hc
  rw [secondPassBuffer, if_pos (by decide +kernel)] at hc
  cases hc
  exact hsecond

/-- Eleven users who have been identified. -/
def elevenUsers : List UInt8 :=
  messageHeader 11 ++ (List.replicate 11 (userRecord 5 10)).flatten

/-- The shipped application makes room for ten faces. -/
def tenFaces : MetaBuffer := { address := 1000, length := pdFaces 10 }

/-- The eleventh face is put behind the end of the buffer and is counted. -/
theorem ktHandleReceivedMetadata_overruns :
    (responseType (received elevenUsers) = appHmiMetadataResponseType ∧
      responseVersion (received elevenUsers) = appHmiMetadataVersion ∧
      nbUsers (received elevenUsers) ≤ maxUsersSupportedPerFrame) ∧
    ¬ KeepsBuffers (received elevenUsers)
      (idealUser (received elevenUsers) elevenUsers.length)
      (handedOver [tenFaces] fun _ => 0)
      (ktHandleReceivedMetadata keepingCallbacks (received elevenUsers)
        elevenUsers.length (handedOver [tenFaces] fun _ => 0)).2 := by
  refine ⟨by decide +kernel, ?_⟩
  intro h
  have hstore := h.inBounds
    { declared := 284, offset := 292, bytes := [10, 0, 0, 0] }
    (by decide +kernel)
  exact absurd hstore (by decide)

end KtLib
end GardHub
