import GardHub.KtApp.BufferOwners

/-!
# Recorded lengths

A buffer's length is recorded where the buffer goes: in the ring, in the FIFO,
and with the report.  What the callbacks record when a buffer goes back to the
ring is the size of the faces in it, not the size of the block.
-/

namespace GardHub
namespace KtApp

open Foundation
open Interface
open KtLib

/-- Each length that is recorded with a buffer is the one it was allocated with:
in the ring, with what came out of it and was handed over, in the FIFO, and in
the reports. -/
structure LengthsKept (s : KtState KtAppCtx) : Prop where
  ring : forall i, i ∈ s.app.bufferQueue.listed ->
    (s.app.bufferQueue.buffers i).length = ktAppMetadataBufferSize
  got : forall b, b ∈ s.app.got -> b.length = ktAppMetadataBufferSize
  handedOver : forall b, b ∈ s.app.handedOver ->
    b.length = ktAppMetadataBufferSize
  linked : forall linked, Links s.heap s.fifo.pHead linked ->
    forall a, a ∈ linked -> biBuffLen s.heap a = ktAppMetadataBufferSize
  reported : forall r, r ∈ s.reports -> r.declared = ktAppMetadataBufferSize

/-- The points of a run: the end of the start-up, and behind every frame. -/
def LengthsThroughout (pool : BufferPool) (heap : Memory)
    (frames : List MetadataFrame) : Prop :=
  forall count, count ≤ frames.length ->
    LengthsKept (ktAppRun pool heap (frames.take count)).lib

/-!
## What a frame fills in
-/

/-- A pass over the users of a frame: the faces it fills in, and whether it gets
to the callback with them. -/
structure FramePass where
  faces : Nat
  reported : Bool
deriving DecidableEq

/-- The pass over the users who have been identified. -/
def identifiedPass (rx : Memory) : FramePass :=
  let reached := firstStop (identifiedStop rx) (loopCount rx)
  { faces := (identifiedUsers rx reached).length
    reported := reached = loopCount rx ∧ identifiedUsers rx reached ≠ [] }

/-- The pass over the others, if there are any. -/
def unidentifiedPass (rx : Memory) : FramePass :=
  let reached := firstStop (unidentifiedStop rx) (loopCount rx)
  { faces := (unidentifiedUsers rx reached).length
    reported := reached = loopCount rx }

theorem identifiedPass_reported_iff (rx : Memory) :
    (identifiedPass rx).reported = true <->
      firstStop (identifiedStop rx) (loopCount rx) = loopCount rx ∧
        identifiedUsers rx (firstStop (identifiedStop rx) (loopCount rx)) ≠
          [] := by
  simp only [identifiedPass, decide_eq_true_eq]

theorem unidentifiedPass_reported_iff (rx : Memory) :
    (unidentifiedPass rx).reported = true <->
      firstStop (unidentifiedStop rx) (loopCount rx) = loopCount rx := by
  simp only [unidentifiedPass, decide_eq_true_eq]

/-- The handler gets to the users of a frame. -/
def GetsToUsers (frame : MetadataFrame) : Prop :=
  frame.bufferSize ≠ 0 ∧
    responseType frame.rx = appHmiMetadataResponseType ∧
    responseVersion frame.rx = appHmiMetadataVersion ∧
    nbUsers frame.rx ≤ maxUsersSupportedPerFrame ∧ nbUsers frame.rx ≠ 0 ∧
    ¬ (idealUserOffset frame.rx < frame.bufferSize ∧
      frame.rx (idealUserOffset frame.rx) ≠
        AppHmiMetadataOutputDataType.idealUserOutputData.code)

instance (frame : MetadataFrame) : Decidable (GetsToUsers frame) :=
  inferInstanceAs (Decidable (_ ∧ _))

/-- The passes over the users that are made for a frame. -/
def framePasses (frame : MetadataFrame) : List FramePass :=
  if GetsToUsers frame then
    if firstStop (identifiedStop frame.rx) (loopCount frame.rx) =
          loopCount frame.rx ∧
        unidentifiedUsers frame.rx (loopCount frame.rx) ≠ [] then
      [identifiedPass frame.rx, unidentifiedPass frame.rx]
    else [identifiedPass frame.rx]
  else []

/-- The faces fit into a block, and if they are reported they fill it. -/
def FramePass.FillsBlock (pass : FramePass) : Prop :=
  pass.faces ≤ 10 ∧ (pass.reported = true -> pass.faces = 10)

instance (pass : FramePass) : Decidable pass.FillsBlock :=
  inferInstanceAs (Decidable (_ ∧ _))

/-- Whatever is filled in and reported for the frame fills its block. -/
def FillsBlocks (frame : MetadataFrame) : Prop :=
  forall pass, pass ∈ framePasses frame -> pass.FillsBlock

instance (frame : MetadataFrame) : Decidable (FillsBlocks frame) :=
  inferInstanceAs (Decidable (forall pass, pass ∈ framePasses frame -> _))

/-!
## Lengths in the context
-/

/-- The lengths that are recorded outside of the FIFO, in whatever slot. -/
structure FullLengths (s : KtState KtAppCtx) : Prop where
  slots : forall i,
    (s.app.bufferQueue.buffers i).length = ktAppMetadataBufferSize
  got : forall b, b ∈ s.app.got -> b.length = ktAppMetadataBufferSize
  handedOver : forall b, b ∈ s.app.handedOver ->
    b.length = ktAppMetadataBufferSize
  reported : forall r, r ∈ s.reports -> r.declared = ktAppMetadataBufferSize

section Lengths

variable {pool : BufferPool} {s : KtState KtAppCtx}

theorem FullLengths.congr {s' : KtState KtAppCtx} (h : FullLengths s)
    (happ : s'.app = s.app) (hreports : s'.reports = s.reports) :
    FullLengths s' := by
  constructor
  · rw [happ]
    exact h.slots
  · rw [happ]
    exact h.got
  · rw [happ]
    exact h.handedOver
  · rw [hreports]
    exact h.reported

theorem chained_biBuffLen {heap : Memory} {p : Int} {buffers : List MetaBuffer}
    (h : Chained heap p buffers) {b : MetaBuffer} (hb : b ∈ buffers) :
    biBuffLen heap b.address = b.length := by
  induction buffers generalizing p with
  | nil =>
      cases hb
  | cons c rest ih =>
      rcases List.mem_cons.mp hb with rfl | hb
      · exact h.2.1
      · exact ih h.2.2 hb

/-- If the buffers that wait are some of the slots', their lengths in the FIFO
are the slots'. -/
theorem FullLengths.kept {waiting : List MetaBuffer} (h : FullLengths s)
    (hheld : FifoHolds s.heap s.fifo waiting)
    (hslots : forall b, b ∈ waiting ->
      exists i, b = s.app.bufferQueue.buffers i) : LengthsKept s := by
  refine ⟨fun i _ => h.slots i, h.got, h.handedOver, ?_, h.reported⟩
  intro linked hlinks a ha
  have hsame := hlinks.unique (links_of_fifoHolds hheld)
  rw [hsame] at ha
  rcases List.mem_map.mp ha with ⟨b, hb, rfl⟩
  rcases hslots b hb with ⟨i, rfl⟩
  rw [chained_biBuffLen hheld.chained hb]
  exact h.slots i

theorem Idle.lengthsKept (h : Idle pool s) (hfull : FullLengths s) :
    LengthsKept s := by
  rcases h with ⟨later, hlater, hbetween⟩
  apply hfull.kept hbetween.held
  intro b hb
  rcases List.mem_cons.mp hb with rfl | hb
  · exact ⟨s.app.bufferQueue.head, rfl⟩
  · rcases hlater.others b hb with ⟨i, -, hi⟩
    exact ⟨i, hi⟩

theorem Busy.lengthsKept (h : Busy pool s) (hfull : FullLengths s) :
    LengthsKept s := by
  rcases h with ⟨later, hlater, hbetween⟩
  apply hfull.kept hbetween.held
  intro b hb
  rcases hlater.others b hb with ⟨i, -, hi⟩
  exact ⟨i, hi⟩

/-!
## Filling a buffer
-/

/-- The library fills the buffer at the head, with up to `n` faces: these fit, or
there is no other buffer in the FIFO that they could run into. -/
def Fills (pool : BufferPool) (n : Nat) (s : KtState KtAppCtx) : Prop :=
  exists later, BehindHead s.app.bufferQueue later ∧ Between pool later s ∧
    (n ≤ 10 ∨ later = [])

theorem Fills.busy {n : Nat} (h : Fills pool n s) : Busy pool s := by
  rcases h with ⟨later, hlater, hbetween, -⟩
  exact ⟨later, hlater, hbetween⟩

theorem Fills.filled {n : Nat} {out : MetaBuffer} {s' : KtState KtAppCtx}
    (h : Fills pool n s) (hout : out.address = (headBuffer s).address)
    (hfilled : Filled n out s s') : Fills pool n s' := by
  rcases h with ⟨later, hlater, hbetween, hroom⟩
  refine ⟨later, ?_, ?_, hroom⟩
  · rw [hfilled.app]
    exact hlater
  · rcases hroom with hn | hnone
    · exact hbetween.filled hlater hout hn hfilled
    · subst hnone
      refine ⟨?_, ?_, ?_⟩
      · rw [hfilled.app]
        exact hbetween.queue
      · rw [hfilled.app]
        exact hbetween.supplied
      · rw [hfilled.fifo]
        exact hbetween.held.congr (by simp)

/-- A pass leaves memory alone except for the faces. -/
theorem filled_pass {n slots : Nat} {out : MetaBuffer} {st : FacePass}
    (hsame : SameBehindFaces out.address slots s.heap st.heap)
    (hslots : slots ≤ n) : Filled n out s (s.finishPass st) := by
  refine ⟨rfl, rfl, ?_⟩
  intro x hx
  simp only [pdFaces] at hx
  rw [KtState.finishPass_heap]
  apply hsame x
  simp only [pdFaces]
  lia

/-- The callback records the size of ten faces, the length of the block. -/
theorem FullLengths.runCallback (h : FullLengths s)
    (hqueue : QueueFits pool s.app.bufferQueue) {out : MetaBuffer}
    (hlength : out.length = ktAppMetadataBufferSize)
    (hten : s.heap.load32 out.address = 10) (identified : Bool) :
    FullLengths (runCallback identified faceCb out s).2 := by
  have happ : (KtLib.runCallback identified faceCb out s).2.app =
      appCtxAfter s.app (reportedBuffer s.heap out.address) := by
    rw [KtLib.runCallback, (loopOver_ktAddMetadataBuffer_same _ _).1,
      faceCb_eq hqueue]
  have hreports := (runCallback_reports identified faceCb out s).1
  have hreturned : (reportedBuffer s.heap out.address).length =
      ktAppMetadataBufferSize := by
    simp only [reportedBuffer, hten]
    decide
  have hnext := h.slots (s.app.bufferQueue.head + 1)
  constructor
  · rw [happ]
    intro i
    simp only [appCtxAfter, Function.update_apply]
    split
    · exact hreturned
    · exact h.slots i
  · rw [happ]
    intro b hb
    rcases List.mem_append.mp hb with hb | hb
    · exact h.got b hb
    · rcases List.mem_singleton.mp hb with rfl
      exact hnext
  · rw [happ]
    intro b hb
    rcases List.mem_append.mp hb with hb | hb
    · exact h.handedOver b hb
    · rcases List.mem_singleton.mp hb with rfl
      exact hnext
  · rw [hreports]
    intro r hr
    rcases List.mem_append.mp hr with hr | hr
    · exact h.reported r hr
    · rcases List.mem_singleton.mp hr with rfl
      exact hlength

/-!
## Frames
-/

/-- The lengths behind a part of the handler.  If it returns, the library waits
for the next frame. -/
structure KeepsLengths (pool : BufferPool)
    (result : MetaOutcome × KtState KtAppCtx) : Prop where
  full : FullLengths result.2
  kept : LengthsKept result.2
  idle : forall ret, result.1 = .returned ret -> Idle pool result.2

theorem Idle.keepsLengths (h : Idle pool s) (hfull : FullLengths s)
    (outcome : MetaOutcome) : KeepsLengths pool (outcome, s) :=
  ⟨hfull, h.lengthsKept hfull, fun _ _ => h⟩

theorem Busy.keepsLengths (h : Busy pool s) (hfull : FullLengths s)
    (site : AssertSite) : KeepsLengths pool (.assertFailed site, s) :=
  ⟨hfull, h.lengthsKept hfull, fun _ hret => by cases hret⟩

theorem Fills.runCallback {n : Nat} (h : Fills pool n s)
    (hfull : FullLengths s) (hten : s.heap.load32 (headBuffer s).address = 10)
    (identified : Bool) :
    exists s', KtLib.runCallback identified faceCb (headBuffer s) s =
      (none, s') ∧ Reported pool s' ∧ FullLengths s' := by
  have hcounted : Counted 10 (headBuffer s) s := by
    rw [Counted, hten]
    decide
  have hqueue : QueueFits pool s.app.bufferQueue := by
    rcases h with ⟨_, _, hbetween, -⟩
    exact hbetween.queue
  have hlength : (headBuffer s).length = ktAppMetadataBufferSize :=
    hfull.slots s.app.bufferQueue.head
  have hlengths := hfull.runCallback hqueue hlength hten identified
  rcases h.busy.runCallback rfl le_rfl hcounted identified
    with ⟨s', hcalled, hreported⟩
  rw [hcalled] at hlengths
  exact ⟨s', hcalled, hreported, hlengths⟩

/-- A pass that has filled ten faces is reported. -/
theorem Fills.reportPass {n count : Nat} {st : FacePass} (h : Fills pool n s)
    (hfull : FullLengths s) (hten : count = 10)
    (hfilled : Filled n (headBuffer s) s
      (s.finishPass (st.put (headBuffer s) 0 (leBytes 4 count))))
    (identified : Bool) :
    exists s', KtLib.runCallback identified faceCb (headBuffer s)
        (s.finishPass (st.put (headBuffer s) 0 (leBytes 4 count))) =
        (none, s') ∧ Reported pool s' ∧ FullLengths s' := by
  have hlengths : FullLengths
      (s.finishPass (st.put (headBuffer s) 0 (leBytes 4 count))) :=
    hfull.congr rfl rfl
  have hcount : (s.finishPass (st.put (headBuffer s) 0
      (leBytes 4 count))).heap.load32 (headBuffer s).address = 10 := by
    rw [hten]
    exact load32_put (by decide)
  exact (h.filled rfl hfilled).runCallback hlengths hcount identified

theorem Fills.reportUnidentified {rx : Memory} {ideal : Option Nat}
    {identified : Nat}
    (h : Fills pool (max (unidentifiedPass rx).faces (identified + 1)) s)
    (hfull : FullLengths s) (hblock : (unidentifiedPass rx).FillsBlock) :
    KeepsLengths pool
      (reportUnidentified ktCallbacks rx ideal identified (headBuffer s) s) := by
  have hpasses := unidentifiedUsers_pass rx ideal (headBuffer s)
    (loopCount rx) (rfl : (s.startPass identified).countOfUnidentifiedUsers = 0)
  rcases hpasses with ⟨st, hpass, hends⟩
  have hfaces : st.countOfUnidentifiedUsers = (unidentifiedPass rx).faces := by
    rw [hpass.unidentified, unidentifiedPass]
  have hslots : max st.countOfUnidentifiedUsers (identified + 1) ≤
      max (unidentifiedPass rx).faces (identified + 1) :=
    max_le_max_right _ hfaces.le
  rcases hends with ⟨hend, hloop⟩ | ⟨-, hloop⟩
  · have hreported : (unidentifiedPass rx).reported = true :=
      (unidentifiedPass_reported_iff rx).mpr hend
    have hten : st.countOfUnidentifiedUsers = 10 := by
      rw [hfaces]
      exact hblock.2 hreported
    rcases h.reportPass hfull hten (filled_put hpass.same hslots) false
      with ⟨s', hcalled, hcalledBack, hfull'⟩
    have hcalled' : KtLib.runCallback false ktAppFaceNotIdentifiedCb
        (headBuffer s) (s.finishPass (st.put (headBuffer s) 0
          (leBytes 4 st.countOfUnidentifiedUsers))) = (none, s') :=
      hcalled
    simp only [KtLib.reportUnidentified, hloop, ktCallbacks, hcalled']
    exact hcalledBack.idle.keepsLengths hfull' _
  · have hfilled : Filled (max (unidentifiedPass rx).faces (identified + 1))
        (headBuffer s) s (s.finishPass st) :=
      filled_pass hpass.same hslots
    have hlengths : FullLengths (s.finishPass st) :=
      hfull.congr rfl rfl
    simp only [KtLib.reportUnidentified, hloop]
    exact (h.filled rfl hfilled).busy.keepsLengths hlengths _

theorem Busy.fills {n : Nat} (h : Busy pool s) (hn : n ≤ 10) :
    Fills pool n s := by
  rcases h with ⟨later, hlater, hbetween⟩
  exact ⟨later, hlater, hbetween, Or.inl hn⟩

/-- From the first report on, the buffer that is got is the only one. -/
theorem Reported.get (h : Reported pool s) :
    exists mid, ktGetMetadataBuffer s = (some (headBuffer s), mid) ∧
      mid.app = s.app ∧ mid.reports = s.reports ∧
      forall n, Fills pool n mid := by
  rcases h.between.held.ktGetMetadataBuffer with ⟨fifo, hget, hrest⟩
  refine ⟨_, hget, rfl, rfl, ?_⟩
  intro n
  exact ⟨[], ⟨Or.inl rfl, by simp⟩,
    ⟨h.between.queue, h.between.supplied, hrest⟩, Or.inr rfl⟩

theorem Reported.handleUnidentified {rx : Memory} {ideal : Option Nat}
    {identified unidentified : Nat} (h : Reported pool s)
    (hfull : FullLengths s)
    (hblock : unidentified ≠ 0 -> (unidentifiedPass rx).FillsBlock) :
    KeepsLengths pool (handleUnidentified ktCallbacks rx ideal identified
      unidentified none s) := by
  by_cases hnobody : unidentified = 0
  · rw [KtLib.handleUnidentified, if_pos hnobody]
    exact h.idle.keepsLengths hfull _
  · rcases h.get with ⟨mid, hget, happ, hreports, hfills⟩
    have hhead : headBuffer mid = headBuffer s := by
      rw [headBuffer, headBuffer, happ]
    have hreport : KeepsLengths pool (reportUnidentified ktCallbacks rx ideal
        identified (headBuffer mid) mid) :=
      (hfills _).reportUnidentified (hfull.congr happ hreports)
        (hblock hnobody)
    rw [hhead] at hreport
    simp only [KtLib.handleUnidentified, if_neg hnobody, hget,
      if_neg h.idle.length_ne_zero]
    exact hreport

theorem Busy.handleUsers_lengths {rx : Memory} {ideal : Option Nat}
    (h : Busy pool s) (hfull : FullLengths s) (hcount : loopCount rx ≠ 0)
    (hblock : (identifiedPass rx).FillsBlock)
    (hblock' : firstStop (identifiedStop rx) (loopCount rx) = loopCount rx ->
      unidentifiedUsers rx (loopCount rx) ≠ [] ->
      (unidentifiedPass rx).FillsBlock) :
    KeepsLengths pool
      (KtLib.handleUsers ktCallbacks rx ideal (headBuffer s) s) := by
  have hpasses := identifiedUsers_pass rx ideal (headBuffer s) (loopCount rx)
    (rfl : (s.startPass 0).countOfIdentifiedUsers = 0) rfl
  rcases hpasses with ⟨st, hpass, hends⟩
  have hfaces : st.countOfIdentifiedUsers = (identifiedPass rx).faces := by
    rw [hpass.identified, identifiedPass]
  have hfills : Fills pool (identifiedPass rx).faces s := h.fills hblock.1
  rcases hends with ⟨hend, hloop⟩ | ⟨-, hloop⟩
  · have hfilled : Filled (identifiedPass rx).faces (headBuffer s) s
        (s.finishPass (st.put (headBuffer s) 0
          (leBytes 4 st.countOfIdentifiedUsers))) :=
      filled_put hpass.same hfaces.le
    have hothers : st.countOfUnidentifiedUsers ≠ 0 ->
        (unidentifiedPass rx).FillsBlock := by
      intro hne
      apply hblock' hend
      rw [← List.length_pos_iff, ← hend, ← hpass.unidentified]
      exact Nat.pos_of_ne_zero hne
    simp only [KtLib.handleUsers, hloop, ktCallbacks]
    by_cases hnobody : st.countOfIdentifiedUsers = 0
    · have hsum := identifiedUsers_add_unidentifiedUsers rx (loopCount rx)
      rw [← hend, ← hpass.identified, ← hpass.unidentified, hend] at hsum
      have hsome : st.countOfUnidentifiedUsers ≠ 0 := by
        lia
      have hroom : max (unidentifiedPass rx).faces (0 + 1) ≤ 10 :=
        max_le (hothers hsome).1 (by decide)
      have hfills' := hfills.filled rfl hfilled
      rw [if_pos hnobody, KtLib.handleUnidentified, if_neg hsome, hnobody]
      rw [hnobody] at hfills'
      exact (hfills'.busy.fills hroom).reportUnidentified (hfull.congr rfl rfl)
        (hothers hsome)
    · have hreported : (identifiedPass rx).reported = true := by
        rw [identifiedPass_reported_iff]
        refine ⟨hend, ?_⟩
        rw [← List.length_pos_iff, ← hpass.identified]
        exact Nat.pos_of_ne_zero hnobody
      have hten : st.countOfIdentifiedUsers = 10 := by
        rw [hfaces]
        exact hblock.2 hreported
      rcases hfills.reportPass hfull hten hfilled true
        with ⟨s', hcalled, hcalledBack, hfull'⟩
      have hcalled' : KtLib.runCallback true ktAppFaceIdentifiedCb
          (headBuffer s) (s.finishPass (st.put (headBuffer s) 0
            (leBytes 4 st.countOfIdentifiedUsers))) = (none, s') :=
        hcalled
      rw [if_neg hnobody, hcalled']
      exact hcalledBack.handleUnidentified hfull' hothers
  · have hfilled : Filled (identifiedPass rx).faces (headBuffer s) s
        (s.finishPass st) :=
      filled_pass hpass.same hfaces.le
    have hlengths : FullLengths (s.finishPass st) :=
      hfull.congr rfl rfl
    simp only [KtLib.handleUsers, hloop]
    exact (hfills.filled rfl hfilled).busy.keepsLengths hlengths _

theorem Idle.handle_lengths (h : Idle pool s) (hfull : FullLengths s)
    {frame : MetadataFrame} (hframe : FillsBlocks frame) :
    KeepsLengths pool (ktHandleReceivedMetadata ktCallbacks frame.rx
      frame.bufferSize s) := by
  unfold ktHandleReceivedMetadata
  by_cases hsize : frame.bufferSize = 0
  · rw [if_pos hsize]
    exact h.keepsLengths hfull _
  rw [if_neg hsize]
  by_cases hheader : responseType frame.rx ≠ appHmiMetadataResponseType ∨
      responseVersion frame.rx ≠ appHmiMetadataVersion
  · rw [if_pos hheader]
    exact h.keepsLengths hfull _
  rw [if_neg hheader]
  by_cases hmany : maxUsersSupportedPerFrame < nbUsers frame.rx
  · rw [if_pos hmany]
    exact h.keepsLengths hfull _
  rw [if_neg hmany]
  by_cases hzero : nbUsers frame.rx = 0
  · rw [if_pos hzero]
    exact h.keepsLengths hfull _
  rw [if_neg hzero]
  rcases h.get with ⟨mid, hget, happ, hbusy⟩
  have hreports : mid.reports = s.reports := by
    have hsame := ktGetMetadataBuffer_reports s
    rwa [hget] at hsame
  have hlengths : FullLengths mid := hfull.congr happ hreports
  have hhead : headBuffer mid = headBuffer s := by
    rw [headBuffer, headBuffer, happ]
  simp only [hget, if_neg h.length_ne_zero]
  by_cases hideal : idealUserOffset frame.rx < frame.bufferSize ∧
      frame.rx (idealUserOffset frame.rx) ≠
        AppHmiMetadataOutputDataType.idealUserOutputData.code
  · rw [if_pos hideal]
    exact hbusy.keepsLengths hlengths _
  rw [if_neg hideal]
  push Not at hheader
  have hgets : GetsToUsers frame :=
    ⟨hsize, hheader.1, hheader.2, not_lt.mp hmany, hzero, hideal⟩
  rw [FillsBlocks, framePasses, if_pos hgets] at hframe
  rw [← hhead]
  apply hbusy.handleUsers_lengths hlengths (loopCount_ne_zero hzero)
  · apply hframe
    split <;> exact List.mem_cons_self
  · intro hend hsome
    apply hframe
    rw [if_pos ⟨hend, hsome⟩]
    simp

end Lengths

/-!
## Runs
-/

/-- The application waits for the next frame, or an assertion has ended it, and
no length has changed. -/
def Keeping (pool : BufferPool) (ctxt : KtContext KtAppCtx) : Prop :=
  FullLengths ctxt.lib ∧ LengthsKept ctxt.lib ∧
    (ctxt.stopped = none -> Idle pool ctxt.lib)

theorem keeping_ktAppMain (pool : BufferPool) (heap : Memory) :
    Keeping pool (ktAppMain pool heap) := by
  have hidle := (idle_ktAppMain pool heap).2
  rcases ktAppMain_holds pool heap with ⟨s, hrun, -, happ, hreports⟩
  rw [hrun] at hidle ⊢
  have hinit : FullLengths (ktAppInitialised pool heap) := by
    constructor
    · intro i
      rfl
    · intro b hb
      cases hb
    · intro b hb
      rcases List.mem_ofFn.mp hb with ⟨i, rfl⟩
      rfl
    · intro r hr
      cases hr
  have hfull : FullLengths s := hinit.congr happ hreports
  exact ⟨hfull, hidle.lengthsKept hfull, fun _ => hidle⟩

theorem Keeping.handleFrame {pool : BufferPool} {ctxt : KtContext KtAppCtx}
    (h : Keeping pool ctxt) {frame : MetadataFrame}
    (hframe : FillsBlocks frame) : Keeping pool (handleFrame ctxt frame) := by
  rcases h with ⟨hfull, hkept, hidle⟩
  cases hstopped : ctxt.stopped with
  | some site =>
      simp only [KtApp.handleFrame, hstopped]
      exact ⟨hfull, hkept, hidle⟩
  | none =>
      have hkeeps := (hidle hstopped).handle_lengths hfull hframe
      simp only [KtApp.handleFrame, hstopped]
      cases hrun : ktHandleReceivedMetadata ktCallbacks frame.rx
          frame.bufferSize ctxt.lib with
      | mk outcome s' =>
          rw [hrun] at hkeeps
          cases outcome with
          | returned ret =>
              exact ⟨hkeeps.full, hkeeps.kept, fun _ => hkeeps.idle ret rfl⟩
          | assertFailed site =>
              refine ⟨hkeeps.full, hkeeps.kept, ?_⟩
              intro hnone
              cases hnone

theorem Keeping.foldl {pool : BufferPool} {ctxt : KtContext KtAppCtx}
    (h : Keeping pool ctxt) {frames : List MetadataFrame}
    (hframes : forall frame, frame ∈ frames -> FillsBlocks frame) :
    Keeping pool (frames.foldl KtApp.handleFrame ctxt) := by
  apply List.foldlRecOn frames KtApp.handleFrame h
  intro ctxt hctxt frame hframe
  exact hctxt.handleFrame (hframes frame hframe)

/-- Every length that is recorded is the one that was allocated, at every point
of a run in which each buffer that is reported holds ten faces. -/
theorem ktAppRun_lengthsThroughout (pool : BufferPool) (heap : Memory)
    (frames : List MetadataFrame)
    (hframes : forall frame, frame ∈ frames -> FillsBlocks frame) :
    LengthsThroughout pool heap frames := by
  intro count _
  have hkeeping : Keeping pool (ktAppRun pool heap (frames.take count)) := by
    apply (keeping_ktAppMain pool heap).foldl
    intro frame hframe
    exact hframes frame (List.mem_of_mem_take hframe)
  exact hkeeping.2.1

/-- Ten users have been identified. -/
def tenUsers : List UInt8 :=
  messageHeader 10 ++ (List.replicate 10 (userRecord 5 10)).flatten

def tenUsersFrame : MetadataFrame :=
  { rx := received tenUsers, bufferSize := tenUsers.length }

theorem ktAppRun_lengthsThroughout_tenUsers :
    LengthsThroughout pagePool (fun _ => 0)
      (List.replicate 12 tenUsersFrame) := by
  apply ktAppRun_lengthsThroughout
  intro frame hframe
  rw [List.eq_of_mem_replicate hframe]
  decide +kernel

/-- The buffer on the first page comes back with the length of one face, and the
ring lists it so. -/
theorem ktAppRun_shrinksBuffers :
    ¬ LengthsThroughout pagePool (fun _ => 0) [threeUsersFrame] := by
  intro h
  have hafter := (h 1 (by decide)).ring 0 (by decide +kernel)
  revert hafter
  decide +kernel

end KtApp
end GardHub
