import GardHub.KtApp.BufferPool

/-!
# What the application reports

Over a run of the application, every frame is reported as a frame on its own:
the users who have been identified in one report and the others in a second one,
although the buffers go around between the library and the ring.
-/

namespace GardHub
namespace KtApp

open Foundation
open Interface
open KtLib

variable {pool : BufferPool} {s : KtState KtAppCtx} {rx : Memory}
  {bufferSize : Nat}

/-- Some reports are those of a message, whatever the face ids of the users who
have not been identified and the lengths that go with the buffers. -/
def ReportsMessage (rx : Memory) (bufferSize : Nat) (reports : List Report) :
    Prop :=
  exists declared declared' faceId,
    reports = identifiedReports rx (idealUser rx bufferSize) (loopCount rx)
        declared ++
      unidentifiedReports rx (idealUser rx bufferSize) (loopCount rx) declared'
        faceId

/-- With somebody identified, the callback hands over the next buffer, and the
others are reported in that one. -/
theorem Busy.handleUsers_reports {ideal : Option Nat} {st : FacePass}
    (h : Busy pool s) (hrx : Documented rx bufferSize)
    (hloop : loopOver (identifiedUser rx ideal (headBuffer s))
      (List.range (loopCount rx)) (s.startPass 0) = (none, st))
    (hpass : IdentifiedPass rx ideal (headBuffer s) (s.startPass 0)
      (loopCount rx) st)
    (hsome : identifiedUsers rx (loopCount rx) ≠ []) :
    exists declared faceId,
      (KtLib.handleUsers ktCallbacks rx ideal (headBuffer s) s).2.reports =
        s.reports ++
          identifiedReports rx ideal (loopCount rx) (headBuffer s).length ++
          unidentifiedReports rx ideal (loopCount rx) declared faceId := by
  have hle := hrx.loopCount_le
  have hcount := identifiedUsers_length_le rx (loopCount rx)
  rw [← hpass.identified] at hcount
  have hne : st.countOfIdentifiedUsers ≠ 0 := by
    rw [hpass.identified]
    simpa using hsome
  have hfilled : Filled (loopCount rx) (headBuffer s) s (s.finishPass
      (st.put (headBuffer s) 0 (leBytes 4 st.countOfIdentifiedUsers))) :=
    filled_put hpass.same hcount
  have hcounted : Counted (loopCount rx) (headBuffer s) (s.finishPass
      (st.put (headBuffer s) 0 (leBytes 4 st.countOfIdentifiedUsers))) := by
    rw [Counted, load32_put (by lia)]
    exact ⟨Nat.pos_of_ne_zero hne, hcount⟩
  rcases h.callsBack rfl hle true _ hfilled hcounted
    with ⟨mid, hcalled, hreported⟩
  have hrun : KtLib.handleUsers ktCallbacks rx ideal (headBuffer s) s =
      handleUnidentified ktCallbacks rx ideal st.countOfIdentifiedUsers
        st.countOfUnidentifiedUsers none mid := by
    simp only [KtLib.handleUsers, hloop, ktCallbacks, if_neg hne]
    rw [show ktAppFaceIdentifiedCb = faceCb from rfl, hcalled]
  have hreports := (runCallback_reports true faceCb (headBuffer s)
    (s.finishPass (st.put (headBuffer s) 0
      (leBytes 4 st.countOfIdentifiedUsers)))).1
  rw [hcalled, KtState.finishPass_heap, readPpeData_put (by lia), hpass.faces,
    hpass.identified] at hreports
  have hmid : mid.reports = s.reports ++
      identifiedReports rx ideal (loopCount rx) (headBuffer s).length := by
    rw [identifiedReports, if_neg hsome]
    exact hreports
  have hcallback : ktCallbacks.kcOnFaceNotIdentified.isSome = true := rfl
  refine ⟨(headBuffer mid).length, leftFaceId ideal st.countOfIdentifiedUsers
    (setBiNext mid.heap (headBuffer mid).address 0) (headBuffer mid).address,
    ?_⟩
  rw [hrun, hpass.unidentified, handleUnidentified_second
    hreported.between.held (by lia) hrx.userType_of_lt hcallback, hmid]

/-- A documented frame with nothing but an ideal user behind its users is
reported, and the application waits for the next one. -/
theorem Idle.handle_reports (h : Idle pool s) (hrx : Documented rx bufferSize)
    (hideal : IdealUserFirst rx bufferSize) :
    exists s' reports,
      ktHandleReceivedMetadata ktCallbacks rx bufferSize s =
        (.returned true, s') ∧
      Idle pool s' ∧ s'.reports = s.reports ++ reports ∧
      ReportsMessage rx bufferSize reports := by
  by_cases hzero : nbUsers rx = 0
  · have hnone : loopCount rx = 0 := by
      have hcount := hrx.loopCount_eq
      lia
    refine ⟨s, [], ktHandleReceivedMetadata_nobody ktCallbacks s
      hrx.bufferSize_ne_zero hrx.responseType hrx.responseVersion hzero, h,
      by simp, 0, 0, fun _ _ => 0, ?_⟩
    simp [hnone, identifiedReports, unidentifiedReports, identifiedUsers,
      unidentifiedUsers]
  · rcases h with ⟨later, hlater, hbetween⟩
    have hlength := (hbetween.queue.usable s.app.bufferQueue.head).length_ne_zero
    rcases ktHandleReceivedMetadata_users ktCallbacks hrx.bufferSize_ne_zero
      hrx.responseType hrx.responseVersion hrx.nbUsers_le_supported hzero
      hideal hbetween.held with ⟨fifo, hrun, hheld⟩
    have hbusy : Busy pool { s with
        fifo := fifo
        heap := setBiNext s.heap (headBuffer s).address 0 } :=
      ⟨later, hlater, hbetween.queue, hbetween.supplied, hheld⟩
    rcases hbusy.handleUsers hrx hzero (idealUser rx bufferSize)
      with ⟨s', hreturned, hreported⟩
    have hreturned' : ktHandleReceivedMetadata ktCallbacks rx bufferSize s =
        (.returned true, s') := hrun.trans hreturned
    have hpasses := identifiedUsers_pass_of_type rx (idealUser rx bufferSize)
      (headBuffer s) (rfl : (KtState.startPass { s with
        fifo := fifo
        heap := setBiNext s.heap (headBuffer s).address 0 }
          0).countOfIdentifiedUsers = 0) rfl hrx.userType_of_lt
    rcases hpasses with ⟨st, hloop, hpass⟩
    have hlast := congrArg (fun result => result.2.reports) hreturned
    have hreports : exists reports, s'.reports = s.reports ++ reports ∧
        ReportsMessage rx bufferSize reports := by
      by_cases hnone : identifiedUsers rx (loopCount rx) = []
      · have hcallback : ktCallbacks.kcOnFaceNotIdentified.isSome = true := rfl
        have hothers := handleUsers_noneIdentified (by
          have hle := hrx.loopCount_le
          lia) hrx.userType_of_lt hcallback hloop hpass rfl hnone
        have hidentified : identifiedReports rx (idealUser rx bufferSize)
            (loopCount rx) 0 = [] := by
          rw [identifiedReports, if_pos hnone]
        refine ⟨_, hlast.symm.trans hothers, 0, (headBuffer s).length,
          reportedFaceId rx (idealUser rx bufferSize) s.heap (headBuffer s), ?_⟩
        rw [hidentified, List.nil_append]
      · rcases hbusy.handleUsers_reports hrx hloop hpass hnone
          with ⟨declared, faceId, hboth⟩
        rw [List.append_assoc] at hboth
        exact ⟨_, hlast.symm.trans hboth, _, declared, faceId, rfl⟩
    rcases hreports with ⟨reports, happended, hmessage⟩
    exact ⟨s', reports, hreturned', hreported.idle, happended, hmessage⟩

end KtApp
end GardHub
