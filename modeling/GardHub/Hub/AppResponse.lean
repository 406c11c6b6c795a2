import GardHub.Hub.AppLayerRequest

/-!
# The response buffer of the App Layer

`hub_app_layer_request` reads the payload of the response into a buffer of its
caller.  An exchange that falls short leaves there what was in it, or part of
it.
-/

namespace GardHub
namespace Hub

open Foundation
open Dal

variable {device app : Type} (port : Port device) (bus : DalBus)

/-!
## What the device delivers
-/

/-- What is read into the response buffer, once the response is in. -/
def deliveredReply (d : HubRequestResponseData) (line : BusLine device) :
    List UInt8 :=
  if gotResponse port bus d line then
    (dalRead port bus d.appResponseSize
      (received port bus d (sent port bus d line).final).final).2.1
  else []

variable {port bus}

theorem deliveredReply_length {d : HubRequestResponseData}
    {line : BusLine device} {buffer : List UInt8} (hsend : d.pSendData = none)
    (hbuffer : d.pAppResponse = some buffer)
    (hsize : d.appResponseSize.toNat < 2 ^ 31)
    (h : (exchange port bus d line).finished = true) :
    (deliveredReply port bus d line).length = d.appResponseSize.toNat := by
  rcases (exchange_finished_iff port bus d line).mp h
    with ⟨hsent, hreceived, hclosed⟩
  have hgot : gotResponse port bus d line = true := by
    rw [gotResponse, hsent, hreceived]
    rfl
  have hread : transferred
      (dalRead port bus d.appResponseSize
        (received port bus d (sent port bus d line).final).final).1
      d.appResponseSize = true := by
    simpa [closed, closingOps, hsend, hbuffer, transfer] using hclosed
  rw [deliveredReply, if_pos hgot]
  exact dalRead_length hsize (by simpa [transferred] using hread)

theorem dalRead_length_lt {count : UInt32} {line : BusLine device}
    (hcount : count.toNat < 2 ^ 31)
    (h : transferred (dalRead port bus count line).1 count = false) :
    (dalRead port bus count line).2.1.length < count.toNat := by
  have hle := dalRead_length_le port bus count line
  refine lt_of_le_of_ne hle fun hfull => ?_
  have hne : toUInt32 (dalRead port bus count line).1 ≠ count.toNat := by
    simpa [transferred] using h
  apply hne
  unfold dalRead at hfull ⊢
  by_cases hzero : count = 0
  · subst hzero
    rfl
  · have hpositive : 0 < count.toNat := by
      rcases Nat.eq_zero_or_pos count.toNat with hnone | hpositive
      · exact absurd (UInt32.toNat_inj.mp hnone) hzero
      · exact hpositive
    rw [if_neg hzero] at hfull ⊢
    cases hbus : bus.busType <;> simp only [hbus] at hfull ⊢
    case uart =>
      cases hrecv : (port.recv line.state count.toNat).1 with
      | none =>
          simp only [hrecv, Option.getD_none, List.length_nil] at hfull
          lia
      | some bytes =>
          simp only [hrecv, Option.getD_some] at hfull
          rw [Option.map_some, uartReturn_some_of_lt (by lia),
            toUInt32_natCast (by lia), hfull]
    all_goals
      rw [List.length_nil] at hfull
      lia

/-- An exchange that is not carried out has delivered less than was asked
for. -/
theorem deliveredReply_length_lt {d : HubRequestResponseData}
    {line : BusLine device} {buffer : List UInt8} (hsend : d.pSendData = none)
    (hbuffer : d.pAppResponse = some buffer)
    (hpositive : 0 < d.appResponseSize.toNat)
    (hsize : d.appResponseSize.toNat < 2 ^ 31)
    (h : (exchange port bus d line).finished = false) :
    (deliveredReply port bus d line).length < d.appResponseSize.toNat := by
  rw [deliveredReply]
  cases hgot : gotResponse port bus d line with
  | false =>
      simpa using hpositive
  | true =>
      rw [if_pos rfl]
      apply dalRead_length_lt hsize
      rcases Bool.and_eq_true_iff.mp hgot with ⟨hsent, hreceived⟩
      have hclosed : (closed port bus d (sent port bus d line).final).finished ≠
          true := by
        intro hclosed
        rw [(exchange_finished_iff port bus d line).mpr
          ⟨hsent, hreceived, hclosed⟩] at h
        cases h
      simpa [closed, closingOps, hsend, hbuffer, transfer] using hclosed

/-!
## What is left in the buffer
-/

section Buffer

variable {run : RequestRun device} {buffer : List UInt8}

theorem requestLoop_complete_data (h : run.data.state = .complete) :
    (requestLoop port bus run).2.data = run.data := by
  rw [requestLoop_eq, requestPass, h]
  rfl

theorem requestLoop_recvAppResponse_buffer
    (h : run.data.state = .recvAppResponse) :
    (requestLoop port bus run).2.data.pAppResponse =
      run.data.pAppResponse.map fun buffer =>
        overwrite buffer 0
          (dalRead port bus run.data.appResponseSize run.line).2.1 := by
  rw [requestLoop_eq, requestPass, h]
  simp only [recvAppResponse]
  cases transferred (dalRead port bus run.data.appResponseSize run.line).1
      run.data.appResponseSize with
  | false =>
      rfl
  | true =>
      exact congrArg HubRequestResponseData.pAppResponse
        (requestLoop_complete_data rfl)

theorem resume_recvPartialResponse_short_buffer
    (hvalid : run.data.pValidationData = run.data.pRequest)
    (h : (received port bus run.data run.line).finished = false) :
    ((recvPartialResponse port bus run).resume port bus).2.data.pAppResponse =
      run.data.pAppResponse := by
  simp only [received, recvOps] at h
  cases hpart : transfer port bus (.read run.data.validationDataSize)
      run.line with
  | mk reply line =>
      cases reply with
      | none =>
          have hshort : transferred
              (dalRead port bus run.data.validationDataSize run.line).1
              run.data.validationDataSize = false := by
            simpa [transfer] using congrArg Prod.fst hpart
          simp only [recvPartialResponse, hshort]
          rfl
      | some bytes =>
          rw [recvPartialResponse_full port bus run hvalid hpart]
          rw [runScript_cons_of_some _ hpart, runScript_singleton] at h
          have hshort : transferred
              (dalRead port bus
                (run.data.responseSize - run.data.validationDataSize) line).1
              (run.data.responseSize - run.data.validationDataSize) = false := by
            simpa [transfer] using h
          simp only [recvResponse, hshort]
          rfl

theorem resume_recvPartialResponse_full_buffer
    (hsend : run.data.pSendData = none)
    (hbuffer : run.data.pAppResponse = some buffer)
    (hvalid : run.data.pValidationData = run.data.pRequest)
    (h : (received port bus run.data run.line).finished = true) :
    ((recvPartialResponse port bus run).resume port bus).2.data.pAppResponse =
      some (overwrite buffer 0
        (dalRead port bus run.data.appResponseSize
          (received port bus run.data run.line).final).2.1) := by
  have hstate : (if run.data.pSendData.isSome then HubRequestSm.sendData
      else if run.data.pAppResponse.isSome then .recvAppResponse
      else .complete) = .recvAppResponse := by
    simp [hsend, hbuffer]
  rw [recvPartialResponse_received port bus run hvalid h]
  simp only [RequestPass.resume]
  rw [requestLoop_recvAppResponse_buffer hstate]
  simp [hbuffer]

/-- An exchange leaves in the buffer what was there, overwritten from the front
by what the device delivered. -/
theorem hubExecuteHubRequest_appResponse {gard : HubGardInfo app}
    {d : HubRequestResponseData} {line : BusLine device} (hprep : Prepared d)
    (hsend : d.pSendData = none) (hbuffer : d.pAppResponse = some buffer)
    (hbus : gard.activeDalBus = some bus) :
    (hubExecuteHubRequest port gard d line).data.pAppResponse =
      some (overwrite buffer 0 (deliveredReply port bus d line)) := by
  have hunchanged : overwrite buffer 0 [] = buffer := by
    simp [overwrite_zero]
  have hloop : requestLoop port bus
      { data := d, line := line, commandExecution := gard.commandExecution } =
      (sendRequest port bus
        { data := d, line := line,
          commandExecution := gard.commandExecution }).resume port bus := by
    rw [requestLoop_eq, requestPass, hprep.state_eq]
  simp only [hubExecuteHubRequest, hbus, hloop]
  cases hsent : (sent port bus d line).finished with
  | false =>
      have hgot : ¬ gotResponse port bus d line = true := by
        simp [gotResponse, hsent]
      rw [deliveredReply, if_neg hgot, hunchanged, sendRequest_short port bus
        { data := d, line := line, commandExecution := gard.commandExecution }
        hsent]
      exact hbuffer
  | true =>
      rw [resume_sendRequest_full port bus
        { data := d, line := line, commandExecution := gard.commandExecution }
        hsent]
      cases hreceived :
          (received port bus d (sent port bus d line).final).finished with
      | false =>
          have hgot : ¬ gotResponse port bus d line = true := by
            simp [gotResponse, hreceived]
          rw [deliveredReply, if_neg hgot, hunchanged, ← hbuffer]
          exact resume_recvPartialResponse_short_buffer hprep.validation_eq
            hreceived
      | true =>
          have hgot : gotResponse port bus d line = true := by
            rw [gotResponse, hsent, hreceived]
            rfl
          rw [deliveredReply, if_pos hgot]
          exact resume_recvPartialResponse_full_buffer hsend hbuffer
            hprep.validation_eq hreceived

end Buffer

end Hub
end GardHub
