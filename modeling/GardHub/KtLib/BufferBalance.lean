import GardHub.Foundation.Runs
import GardHub.KtLib.Reports

/-!
# What becomes of the buffers

The handler takes one metadata buffer, or two, from the FIFO, and gives one up
by passing it to a callback.  It has no other way to give one up: a buffer that
it took for users whose callback was left out is lost.
-/

namespace GardHub
namespace KtLib

open Foundation
open Interface

variable {app : Type}

/-- A buffer that was taken from the FIFO: the callbacks it was passed to (`true`
is `kc__on_face_identified`), and the buffers that the application has added
since it was taken. -/
structure BufferUse where
  buffer : MetaBuffer
  calls : List Bool
  added : List MetaBuffer

/-- The buffer was passed to exactly one call of a callback, or is back in the
FIFO. -/
def BufferUse.Settled (u : BufferUse) : Prop :=
  u.calls.length = 1 ∨ u.buffer ∈ u.added

instance (u : BufferUse) : Decidable u.Settled :=
  inferInstanceAs (Decidable (_ ∨ _))

/-- A buffer that was taken and went nowhere. -/
def BufferUse.unused (buffer : MetaBuffer) : BufferUse :=
  { buffer := buffer, calls := [], added := [] }

theorem BufferUse.unused_not_settled (buffer : MetaBuffer) :
    ¬ (BufferUse.unused buffer).Settled := by
  simp [BufferUse.Settled, BufferUse.unused]

/-- A buffer that was passed to a callback, and the reaction to that. -/
def BufferUse.calledBack (identified : Bool) (buffer : MetaBuffer)
    (reaction : AppReaction app) : BufferUse :=
  { buffer := buffer, calls := [identified], added := reaction.added }

theorem BufferUse.calledBack_settled (identified : Bool) (buffer : MetaBuffer)
    (reaction : AppReaction app) :
    (BufferUse.calledBack identified buffer reaction).Settled :=
  Or.inl rfl

/-!
## The uses of a frame

The buffers that the functions of the handler take, case by case as these
functions go on.
-/

/-- The use of the buffer in `reportUnidentified`. -/
def reportUse (cbs : KtCallbacks app) (rx : Memory) (ideal : Option Nat)
    (identified : Nat) (out : MetaBuffer) (s : KtState app) : BufferUse :=
  match loopOver (unidentifiedUser rx ideal out) (List.range (loopCount rx))
      (s.startPass identified) with
  | (some _, _) => .unused out
  | (none, st) =>
      let s := s.finishPass
        (st.put out 0 (leBytes 4 st.countOfUnidentifiedUsers))
      match cbs.kcOnFaceNotIdentified with
      | none => .unused out
      | some callback =>
          .calledBack false out (callback s.app s.heap out.address)

/-- The uses in `handleUnidentified`, of the buffer that is left from before or
of one that is taken. -/
def unidentifiedUses (cbs : KtCallbacks app) (rx : Memory)
    (ideal : Option Nat) (identified unidentified : Nat)
    (pOutData : Option MetaBuffer) (s : KtState app) : List BufferUse :=
  if unidentified = 0 then pOutData.toList.map .unused
  else
    match pOutData with
    | some out => [reportUse cbs rx ideal identified out s]
    | none =>
        match ktGetMetadataBuffer s with
        | (none, _) => []
        | (some out, s) =>
            if out.length = 0 then [.unused out]
            else [reportUse cbs rx ideal identified out s]

/-- The uses in `handleUsers`, of the buffer it is given and of others. -/
def userUses (cbs : KtCallbacks app) (rx : Memory) (ideal : Option Nat)
    (out : MetaBuffer) (s : KtState app) : List BufferUse :=
  match loopOver (identifiedUser rx ideal out) (List.range (loopCount rx))
      (s.startPass 0) with
  | (some _, _) => [.unused out]
  | (none, st) =>
      let s := s.finishPass (st.put out 0 (leBytes 4 st.countOfIdentifiedUsers))
      match cbs.kcOnFaceIdentified with
      | none =>
          unidentifiedUses cbs rx ideal st.countOfIdentifiedUsers
            st.countOfUnidentifiedUsers (some out) s
      | some callback =>
          if st.countOfIdentifiedUsers = 0 then
            unidentifiedUses cbs rx ideal st.countOfIdentifiedUsers
              st.countOfUnidentifiedUsers (some out) s
          else
            .calledBack true out (callback s.app s.heap out.address) ::
              match runCallback true callback out s with
              | (some _, _) => []
              | (none, s) =>
                  unidentifiedUses cbs rx ideal st.countOfIdentifiedUsers
                    st.countOfUnidentifiedUsers none s

/-- The uses in `Kt_HandleReceivedMetadata`. -/
def frameUses (cbs : KtCallbacks app) (rx : Memory) (bufferSize : Nat)
    (s : KtState app) : List BufferUse :=
  if bufferSize = 0 then []
  else if responseType rx ≠ appHmiMetadataResponseType ∨
      responseVersion rx ≠ appHmiMetadataVersion then []
  else if maxUsersSupportedPerFrame < nbUsers rx then []
  else if nbUsers rx = 0 then []
  else
    match ktGetMetadataBuffer s with
    | (none, _) => []
    | (some out, s) =>
        if out.length = 0 then [.unused out]
        else if idealUserOffset rx < bufferSize ∧
            rx (idealUserOffset rx) ≠
              AppHmiMetadataOutputDataType.idealUserOutputData.code then
          [.unused out]
        else userUses cbs rx (idealUser rx bufferSize) out s

/-- The callback of the users that are reported last is there: that of the users
without a face id, if there are any, and otherwise that of the others. -/
def LastCallbackGiven (cbs : KtCallbacks app) (rx : Memory) : Prop :=
  nbUsers rx = 0 ∨
    if unidentifiedUsers rx (loopCount rx) = [] then
      cbs.kcOnFaceIdentified.isSome = true
    else cbs.kcOnFaceNotIdentified.isSome = true

instance (cbs : KtCallbacks app) (rx : Memory) :
    Decidable (LastCallbackGiven cbs rx) :=
  inferInstanceAs (Decidable (_ ∨ _))

/-!
## Frames that are handled
-/

section Frame

variable {cbs : KtCallbacks app} {rx : Memory} {ideal : Option Nat}
  {s : KtState app} {ret : Bool}

theorem reportUse_settled_iff {identified : Nat} {out : MetaBuffer}
    (h : (reportUnidentified cbs rx ideal identified out s).1 =
      .returned ret) :
    (reportUse cbs rx ideal identified out s).Settled <->
      cbs.kcOnFaceNotIdentified.isSome = true := by
  unfold reportUnidentified at h
  unfold reportUse
  cases hloop : loopOver (unidentifiedUser rx ideal out)
      (List.range (loopCount rx)) (s.startPass identified) with
  | mk stop st =>
      rw [hloop] at h
      cases stop with
      | some site =>
          cases h
      | none =>
          cases cbs.kcOnFaceNotIdentified with
          | none =>
              simp [BufferUse.unused_not_settled]
          | some callback =>
              simp [BufferUse.calledBack_settled]

theorem unidentifiedUses_settled_iff {identified unidentified : Nat}
    {pOutData : Option MetaBuffer}
    (h : (handleUnidentified cbs rx ideal identified unidentified pOutData
      s).1 = .returned ret) :
    (forall u, u ∈ unidentifiedUses cbs rx ideal identified unidentified
        pOutData s -> u.Settled) <->
      if unidentified = 0 then pOutData = none
      else cbs.kcOnFaceNotIdentified.isSome = true := by
  unfold handleUnidentified at h
  unfold unidentifiedUses
  by_cases hnone : unidentified = 0
  · rw [if_pos hnone, if_pos hnone]
    cases pOutData with
    | none =>
        simp
    | some out =>
        simp [BufferUse.unused_not_settled]
  · rw [if_neg hnone] at h
    rw [if_neg hnone, if_neg hnone]
    cases pOutData with
    | some out =>
        simpa using reportUse_settled_iff h
    | none =>
        cases hget : ktGetMetadataBuffer s with
        | mk got s' =>
            rw [hget] at h
            cases got with
            | none =>
                cases h
            | some out =>
                by_cases hlength : out.length = 0
                · simp [hlength] at h
                · simp only [hlength, if_false] at h ⊢
                  simpa using reportUse_settled_iff h

/-- If the users are handled, the buffer goes on to those without a face id, or
to the callback of the others. -/
theorem handleUsers_cases {out : MetaBuffer} {s' : KtState app}
    (h : handleUsers cbs rx ideal out s = (.returned ret, s')) :
    exists st filled, loopOver (identifiedUser rx ideal out)
        (List.range (loopCount rx)) (s.startPass 0) = (none, st) ∧
      filled.reports = s.reports ∧
      (((cbs.kcOnFaceIdentified = none ∨ st.countOfIdentifiedUsers = 0) ∧
          handleUnidentified cbs rx ideal st.countOfIdentifiedUsers
            st.countOfUnidentifiedUsers (some out) filled =
              (.returned ret, s') ∧
          userUses cbs rx ideal out s =
            unidentifiedUses cbs rx ideal st.countOfIdentifiedUsers
              st.countOfUnidentifiedUsers (some out) filled) ∨
        exists callback mid, cbs.kcOnFaceIdentified = some callback ∧
          runCallback true callback out filled = (none, mid) ∧
          handleUnidentified cbs rx ideal st.countOfIdentifiedUsers
            st.countOfUnidentifiedUsers none mid = (.returned ret, s') ∧
          userUses cbs rx ideal out s =
            .calledBack true out
                (callback filled.app filled.heap out.address) ::
              unidentifiedUses cbs rx ideal st.countOfIdentifiedUsers
                st.countOfUnidentifiedUsers none mid) := by
  unfold handleUsers at h
  unfold userUses
  cases hloop : loopOver (identifiedUser rx ideal out)
      (List.range (loopCount rx)) (s.startPass 0) with
  | mk stop st =>
      rw [hloop] at h
      cases stop with
      | some site =>
          cases h
      | none =>
          refine ⟨st, s.finishPass
            (st.put out 0 (leBytes 4 st.countOfIdentifiedUsers)), rfl, rfl, ?_⟩
          cases hcallback : cbs.kcOnFaceIdentified with
          | none =>
              simp only [hcallback] at h
              exact Or.inl ⟨Or.inl rfl, h, rfl⟩
          | some callback =>
              simp only [hcallback] at h
              by_cases hnobody : st.countOfIdentifiedUsers = 0
              · rw [if_pos hnobody] at h
                exact Or.inl ⟨Or.inr hnobody, h, if_pos hnobody⟩
              · rw [if_neg hnobody] at h
                cases hcalled : runCallback true callback out (s.finishPass
                    (st.put out 0 (leBytes 4 st.countOfIdentifiedUsers))) with
                | mk stop mid =>
                    rw [hcalled] at h
                    cases stop with
                    | some site =>
                        cases h
                    | none =>
                        simp only [if_neg hnobody, hcalled]
                        exact Or.inr ⟨callback, mid, rfl, hcalled, h, rfl⟩

theorem userUses_settled_iff {out : MetaBuffer} {s' : KtState app}
    (hcount : loopCount rx ≠ 0)
    (h : handleUsers cbs rx ideal out s = (.returned ret, s')) :
    (forall u, u ∈ userUses cbs rx ideal out s -> u.Settled) <->
      if unidentifiedUsers rx (loopCount rx) = [] then
        cbs.kcOnFaceIdentified.isSome = true
      else cbs.kcOnFaceNotIdentified.isSome = true := by
  rcases handleUsers_cases h with ⟨st, filled, hloop, -, hcases⟩
  have hpasses := identifiedUsers_pass rx ideal out (loopCount rx)
    (rfl : (s.startPass 0).countOfIdentifiedUsers = 0) rfl
  rw [hloop] at hpasses
  rcases hpasses with ⟨_, hpass, ⟨hend, hst⟩ | ⟨-, hst⟩⟩
  · cases hst
    rw [hend] at hpass
    have hsum := identifiedUsers_add_unidentifiedUsers rx (loopCount rx)
    rw [← hpass.identified, ← hpass.unidentified] at hsum
    have hothers : st.countOfUnidentifiedUsers = 0 <->
        unidentifiedUsers rx (loopCount rx) = [] := by
      rw [hpass.unidentified, List.length_eq_zero_iff]
    rcases hcases with ⟨hkept, hrest, huses⟩ |
      ⟨callback, mid, hgiven, -, hrest, huses⟩
    · rw [huses, unidentifiedUses_settled_iff (congrArg Prod.fst hrest)]
      simp only [hothers, reduceCtorEq]
      rcases hkept with hnone | hnobody
      · rw [hnone]
        simp
      · have hsome : unidentifiedUsers rx (loopCount rx) ≠ [] := by
          rw [ne_eq, ← hothers]
          lia
        rw [if_neg hsome, if_neg hsome]
    · rw [huses, List.forall_mem_cons,
        and_iff_right (BufferUse.calledBack_settled _ _ _),
        unidentifiedUses_settled_iff (congrArg Prod.fst hrest), hgiven]
      simp only [hothers, Option.isSome_some]
  · cases hst

/-- A frame that is handled has nobody in it, or is handled with a buffer. -/
theorem ktHandleReceivedMetadata_cases {bufferSize : Nat} {s' : KtState app}
    (h : ktHandleReceivedMetadata cbs rx bufferSize s = (.returned ret, s')) :
    (nbUsers rx = 0 ∧ s' = s ∧ frameUses cbs rx bufferSize s = []) ∨
      exists out mid, nbUsers rx ≠ 0 ∧
        ktGetMetadataBuffer s = (some out, mid) ∧
        handleUsers cbs rx (idealUser rx bufferSize) out mid =
          (.returned ret, s') ∧
        frameUses cbs rx bufferSize s =
          userUses cbs rx (idealUser rx bufferSize) out mid := by
  unfold ktHandleReceivedMetadata at h
  unfold frameUses
  by_cases hsize : bufferSize = 0
  · rw [if_pos hsize] at h
    cases h
  rw [if_neg hsize] at h ⊢
  by_cases hheader : responseType rx ≠ appHmiMetadataResponseType ∨
      responseVersion rx ≠ appHmiMetadataVersion
  · rw [if_pos hheader] at h
    cases h
  rw [if_neg hheader] at h ⊢
  by_cases hmany : maxUsersSupportedPerFrame < nbUsers rx
  · rw [if_pos hmany] at h
    cases h
  rw [if_neg hmany] at h ⊢
  by_cases hzero : nbUsers rx = 0
  · rw [if_pos hzero, Prod.mk.injEq] at h
    rw [if_pos hzero]
    exact Or.inl ⟨hzero, h.2.symm, rfl⟩
  rw [if_neg hzero] at h ⊢
  cases hget : ktGetMetadataBuffer s with
  | mk got mid =>
      rw [hget] at h
      cases got with
      | none =>
          cases h
      | some out =>
          simp only at h ⊢
          by_cases hlength : out.length = 0
          · rw [if_pos hlength] at h
            cases h
          rw [if_neg hlength] at h ⊢
          by_cases hideal : idealUserOffset rx < bufferSize ∧
              rx (idealUserOffset rx) ≠
                AppHmiMetadataOutputDataType.idealUserOutputData.code
          · rw [if_pos hideal] at h
            cases h
          rw [if_neg hideal] at h ⊢
          exact Or.inr ⟨out, mid, hzero, rfl, h, rfl⟩

/-- Every buffer taken for a frame that is handled is passed to one callback or
back in the FIFO exactly when the last callback is there. -/
theorem frameUses_settled_iff {bufferSize : Nat}
    (h : (ktHandleReceivedMetadata cbs rx bufferSize s).1 = .returned ret) :
    (forall u, u ∈ frameUses cbs rx bufferSize s -> u.Settled) <->
      LastCallbackGiven cbs rx := by
  rcases ktHandleReceivedMetadata_cases (Prod.ext h rfl)
    with ⟨hzero, -, huses⟩ | ⟨out, mid, hzero, -, husers, huses⟩
  · rw [huses]
    exact iff_of_true (by simp) (Or.inl hzero)
  · rw [huses, LastCallbackGiven, or_iff_right hzero]
    exact userUses_settled_iff (loopCount_ne_zero hzero) husers

end Frame

/-!
## Reports

The calls recorded for the buffers are those that were made.
-/

section Calls

variable {cbs : KtCallbacks app} {rx : Memory} {ideal : Option Nat}
  {s s' : KtState app} {ret : Bool}

/-- The callbacks that were called, with the lengths of the buffers. -/
def callsOf (uses : List BufferUse) : List (Bool × Nat) :=
  uses.flatMap fun u => u.calls.map fun identified =>
    (identified, u.buffer.length)

/-- The reports made between two states are the calls of these uses. -/
def ReportsCalls (s s' : KtState app) (uses : List BufferUse) : Prop :=
  exists reports, s'.reports = s.reports ++ reports ∧
    reports.map (fun report => (report.identified, report.declared)) =
      callsOf uses

theorem reportsCalls_none {uses : List BufferUse} (h : callsOf uses = [])
    (hreports : s'.reports = s.reports) : ReportsCalls s s' uses :=
  ⟨[], by simp [hreports], by simp [h]⟩

theorem ReportsCalls.cons {mid : KtState app} {identified : Bool}
    {out : MetaBuffer} {reaction : AppReaction app} {uses : List BufferUse}
    {heap : Memory}
    (hfirst : mid.reports = s.reports ++ [readPpeData identified heap out])
    (h : ReportsCalls mid s' uses) :
    ReportsCalls s s' (.calledBack identified out reaction :: uses) := by
  rcases h with ⟨reports, hreports, hcalls⟩
  refine ⟨readPpeData identified heap out :: reports, ?_, ?_⟩
  · rw [hreports, hfirst, List.append_assoc]
    rfl
  · rw [List.map_cons, hcalls]
    rfl

theorem reportUse_calls {identified : Nat} {out : MetaBuffer}
    (h : reportUnidentified cbs rx ideal identified out s =
      (.returned ret, s')) :
    ReportsCalls s s' [reportUse cbs rx ideal identified out s] := by
  unfold reportUnidentified at h
  unfold reportUse
  cases hloop : loopOver (unidentifiedUser rx ideal out)
      (List.range (loopCount rx)) (s.startPass identified) with
  | mk stop st =>
      rw [hloop] at h
      cases stop with
      | some site =>
          cases h
      | none =>
          cases hcallback : cbs.kcOnFaceNotIdentified with
          | none =>
              simp only [hcallback, Prod.mk.injEq] at h ⊢
              exact reportsCalls_none rfl (by rw [← h.2]; rfl)
          | some callback =>
              simp only [hcallback] at h ⊢
              cases hcalled : runCallback false callback out (s.finishPass
                  (st.put out 0
                    (leBytes 4 st.countOfUnidentifiedUsers))) with
              | mk stop mid =>
                  have hreports := (runCallback_reports false callback out
                    (s.finishPass (st.put out 0
                      (leBytes 4 st.countOfUnidentifiedUsers)))).1
                  rw [hcalled] at h hreports
                  cases stop with
                  | some site =>
                      cases h
                  | none =>
                      simp only [Prod.mk.injEq] at h
                      rw [← h.2]
                      exact .cons hreports (reportsCalls_none rfl rfl)

theorem unidentifiedUses_calls {identified unidentified : Nat}
    {pOutData : Option MetaBuffer}
    (h : handleUnidentified cbs rx ideal identified unidentified pOutData s =
      (.returned ret, s')) :
    ReportsCalls s s' (unidentifiedUses cbs rx ideal identified unidentified
      pOutData s) := by
  unfold handleUnidentified at h
  unfold unidentifiedUses
  by_cases hnone : unidentified = 0
  · rw [if_pos hnone] at h ⊢
    cases h
    refine reportsCalls_none ?_ rfl
    cases pOutData <;> rfl
  · rw [if_neg hnone] at h ⊢
    cases pOutData with
    | some out =>
        exact reportUse_calls h
    | none =>
        have hreports := ktGetMetadataBuffer_reports s
        cases hget : ktGetMetadataBuffer s with
        | mk got mid =>
            rw [hget] at h hreports
            cases got with
            | none =>
                cases h
            | some out =>
                by_cases hlength : out.length = 0
                · simp [hlength] at h
                · simp only [hlength, if_false] at h ⊢
                  unfold ReportsCalls
                  rw [← hreports]
                  exact reportUse_calls h

theorem userUses_calls {out : MetaBuffer}
    (h : handleUsers cbs rx ideal out s = (.returned ret, s')) :
    ReportsCalls s s' (userUses cbs rx ideal out s) := by
  rcases handleUsers_cases h with ⟨st, filled, -, hfilled, hcases⟩
  have hsame : forall uses, ReportsCalls filled s' uses ->
      ReportsCalls s s' uses := by
    intro uses huses
    rw [ReportsCalls, ← hfilled]
    exact huses
  apply hsame
  rcases hcases with ⟨-, hrest, huses⟩ |
    ⟨callback, mid, -, hcalled, hrest, huses⟩
  · rw [huses]
    exact unidentifiedUses_calls hrest
  · have hreports := (runCallback_reports true callback out filled).1
    rw [hcalled] at hreports
    rw [huses]
    exact .cons hreports (unidentifiedUses_calls hrest)

/-- The callbacks that a handled frame makes are those recorded for the buffers
it takes. -/
theorem frameUses_calls {bufferSize : Nat}
    (h : ktHandleReceivedMetadata cbs rx bufferSize s = (.returned ret, s')) :
    ReportsCalls s s' (frameUses cbs rx bufferSize s) := by
  rcases ktHandleReceivedMetadata_cases h
    with ⟨-, rfl, huses⟩ | ⟨out, mid, -, hget, husers, huses⟩
  · rw [huses]
    exact reportsCalls_none rfl rfl
  · have hreports := ktGetMetadataBuffer_reports s
    rw [hget] at hreports
    rw [huses, ReportsCalls, ← hreports]
    exact userUses_calls husers

end Calls

/-!
## Runs
-/

/-- What happens to the library: a frame arrives, or the application adds a
buffer. -/
inductive LibEvent where
  | frame (rx : Memory) (bufferSize : Nat)
  | addBuffer (buffer : MetaBuffer)

/-- The library, with the uses of the buffers so far; there is nothing behind a
failed assertion. -/
def libStep (cbs : KtCallbacks app) (world : KtState app × List BufferUse) :
    LibEvent -> Option (KtState app × List BufferUse)
  | .frame rx bufferSize =>
      match ktHandleReceivedMetadata cbs rx bufferSize world.1 with
      | (.returned _, s) =>
          some (s, world.2 ++ frameUses cbs rx bufferSize world.1)
      | (.assertFailed _, _) => none
  | .addBuffer buffer =>
      match ktAddMetadataBuffer buffer world.1 with
      | (none, s) => some (s, world.2)
      | (some _, _) => none

/-- The condition on an event of a run. -/
def EventSettles (cbs : KtCallbacks app) : LibEvent -> Prop
  | .frame rx _ => LastCallbackGiven cbs rx
  | .addBuffer _ => True

theorem libStep_settled_iff {cbs : KtCallbacks app}
    {world world' : KtState app × List BufferUse} {event : LibEvent}
    (hsettled : forall u, u ∈ world.2 -> u.Settled)
    (h : libStep cbs world event = some world') :
    (forall u, u ∈ world'.2 -> u.Settled) <-> EventSettles cbs event := by
  cases event with
  | frame rx bufferSize =>
      cases hhandled : ktHandleReceivedMetadata cbs rx bufferSize world.1 with
      | mk outcome s =>
          cases outcome with
          | assertFailed site =>
              simp [libStep, hhandled] at h
          | returned ret =>
              simp only [libStep, hhandled, Option.some.injEq] at h
              have hreturned : (ktHandleReceivedMetadata cbs rx bufferSize
                  world.1).1 = .returned ret := congrArg Prod.fst hhandled
              rw [← h, List.forall_mem_append]
              exact (and_iff_right hsettled).trans
                (frameUses_settled_iff hreturned)
  | addBuffer buffer =>
      cases hadded : ktAddMetadataBuffer buffer world.1 with
      | mk stop s =>
          cases stop with
          | some site =>
              simp [libStep, hadded] at h
          | none =>
              simp only [libStep, hadded, Option.some.injEq] at h
              rw [← h]
              exact iff_of_true hsettled trivial

/-- No buffer is lost in a run, as far as it has come, exactly when the last
callback of every frame that was handled is there. -/
theorem buffers_settled_iff (cbs : KtCallbacks app) (s : KtState app)
    (events : List LibEvent) :
    (forall world, world ∈ reachedStates (libStep cbs) (s, []) events ->
        forall u, u ∈ world.2 -> u.Settled) <->
      RunMeets (libStep cbs) (fun _ event => EventSettles cbs event) (s, [])
        events :=
  reachedStates_all_iff
    (fun _ _ _ hsettled hstep => libStep_settled_iff hsettled hstep)
    (by simp) events

/-- An application that gives every buffer back, and does without the callback
for users who are not identified. -/
def identifiedOnlyCallbacks : KtCallbacks Unit :=
  { kcOnFaceIdentified := some fun app heap p =>
      { app := app, heap := heap, added := [{ address := p, length := 600 }] }
    kcOnFaceNotIdentified := none }

/-- A user without a face id. -/
def strangerMessage : List UInt8 := messageHeader 1 ++ userRecord 0 20

def strangerFrame : LibEvent :=
  .frame (received strangerMessage) strangerMessage.length

def handledStrangers (frames : Nat) : Option (KtState Unit × List BufferUse) :=
  runActions (libStep identifiedOnlyCallbacks) (twoBuffers fun _ => 0, [])
    (List.replicate frames strangerFrame)

/-- A frame with a stranger loses a buffer: two of them are handled, and the
third fails an assertion because the FIFO is empty. -/
theorem buffers_lost :
    (¬ forall world, world ∈ reachedStates (libStep identifiedOnlyCallbacks)
        (twoBuffers fun _ => 0, []) [strangerFrame] ->
      forall u, u ∈ world.2 -> u.Settled) ∧
      (handledStrangers 2).isSome = true ∧
      (handledStrangers 3).isNone = true :=
  ⟨by decide +kernel, by decide +kernel, by decide +kernel⟩

end KtLib
end GardHub
