import GardHub.Foundation.Script
import GardHub.Hub.RequestMachine

/-!
# Exchanges

The loop of `hub_execute_hub_request`, and what it amounts to.  An exchange is
three scripts of bus operations: send the request, receive the response, and
close with either the App Layer response or the data for the GARD.  The state
machine carries out exactly these scripts, in this order, and stops at the
first operation that does not transfer what was asked for.
-/

namespace GardHub
namespace Hub

open Foundation
open Dal

variable {device app : Type}

/-!
## The loop
-/

/-- Every break that stays in the loop goes to a state of lower rank. -/
def HubRequestSm.rank : HubRequestSm -> Nat
  | .start => 10
  | .sendRequest => 9
  | .sendAppRequest => 8
  | .recvPartialResponse => 7
  | .validatePartialResponse => 6
  | .recvResponse => 5
  | .sendData => 4
  | .recvAppResponse => 3
  | .recvOptionalAck => 2
  | .serviceGardRequest => 1
  | .complete => 0

section Rank

variable {port : Port device} {bus : DalBus} {run next : RequestRun device}

theorem sendData_again_rank (h : sendData port bus run = .again next) :
    next.data.state.rank < HubRequestSm.sendData.rank := by
  simp only [sendData, recvOptionalAck] at h
  split at h
  · cases h
    simp [HubRequestSm.rank]
  · split at h <;> cases h

theorem recvAppResponse_again_rank
    (h : recvAppResponse port bus run = .again next) :
    next.data.state.rank < HubRequestSm.recvAppResponse.rank := by
  simp only [recvAppResponse] at h
  split at h
  · cases h
  · cases h
    simp [HubRequestSm.rank]

theorem recvResponse_again_rank (h : recvResponse port bus run = .again next) :
    next.data.state.rank < HubRequestSm.recvResponse.rank := by
  simp only [recvResponse] at h
  split at h
  · cases h
  · split at h
    · cases h
      simp [HubRequestSm.rank]
    · split at h <;>
        · cases h
          simp [HubRequestSm.rank]

theorem validatePartialResponse_again_rank
    (h : validatePartialResponse port bus run = .again next) :
    next.data.state.rank < HubRequestSm.validatePartialResponse.rank := by
  simp only [validatePartialResponse] at h
  split at h
  · cases h
    simp [HubRequestSm.rank]
  · exact lt_trans (recvResponse_again_rank h) (by decide)

theorem recvPartialResponse_again_rank
    (h : recvPartialResponse port bus run = .again next) :
    next.data.state.rank < HubRequestSm.recvPartialResponse.rank := by
  simp only [recvPartialResponse] at h
  split at h
  · cases h
  · exact lt_trans (validatePartialResponse_again_rank h) (by decide)

theorem sendAppRequest_again_rank
    (h : sendAppRequest port bus run = .again next) :
    next.data.state.rank < HubRequestSm.sendAppRequest.rank := by
  simp only [sendAppRequest] at h
  split at h
  · cases h
  · exact lt_trans (recvPartialResponse_again_rank h) (by decide)

theorem sendRequest_again_rank (h : sendRequest port bus run = .again next) :
    next.data.state.rank < HubRequestSm.sendRequest.rank := by
  simp only [sendRequest] at h
  split at h
  · cases h
  · split at h
    · cases h
      simp [HubRequestSm.rank]
    · exact lt_trans (sendAppRequest_again_rank h) (by decide)

theorem requestPass_again_rank (h : requestPass port bus run = .again next) :
    next.data.state.rank < run.data.state.rank := by
  unfold requestPass at h
  cases hstate : run.data.state <;> rw [hstate] at h <;> simp only at h
  case start => exact lt_trans (sendRequest_again_rank h) (by decide)
  case sendRequest => exact sendRequest_again_rank h
  case sendAppRequest => exact sendAppRequest_again_rank h
  case recvPartialResponse => exact recvPartialResponse_again_rank h
  case validatePartialResponse => exact validatePartialResponse_again_rank h
  case recvResponse => exact recvResponse_again_rank h
  case recvAppResponse => exact recvAppResponse_again_rank h
  case sendData => exact sendData_again_rank h
  case recvOptionalAck => cases h
  case complete => cases h
  case serviceGardRequest => cases h

end Rank

/-- The `do`-`while` loop of `hub_execute_hub_request`. -/
def requestLoop (port : Port device) (bus : DalBus)
    (run : RequestRun device) : Bool × RequestRun device :=
  match _hpass : requestPass port bus run with
  | .done ret next => (ret, next)
  | .leave next => (true, next)
  | .again next => requestLoop port bus next
termination_by run.data.state.rank
decreasing_by exact requestPass_again_rank _hpass

/-- What `hub_execute_hub_request` leaves behind. -/
structure ExchangeResult (device app : Type) where
  ret : Bool
  data : HubRequestResponseData
  line : BusLine device
  gard : HubGardInfo app

/-- `hub_execute_hub_request` -/
def hubExecuteHubRequest (port : Port device) (gard : HubGardInfo app)
    (data : HubRequestResponseData) (line : BusLine device) :
    ExchangeResult device app :=
  match gard.activeDalBus with
  | none => { ret := false, data := data, line := line, gard := gard }
  | some bus =>
      let result := requestLoop port bus
        { data := data, line := line, commandExecution := gard.commandExecution }
      { ret := result.1
        data := result.2.data
        line := result.2.line
        gard := { gard with commandExecution := result.2.commandExecution } }

/-- What the loop does with the outcome of a pass. -/
def RequestPass.resume (port : Port device) (bus : DalBus) :
    RequestPass device -> Bool × RequestRun device
  | .done ret next => (ret, next)
  | .leave next => (true, next)
  | .again next => requestLoop port bus next

theorem requestLoop_eq (port : Port device) (bus : DalBus)
    (run : RequestRun device) :
    requestLoop port bus run =
      (requestPass port bus run).resume port bus := by
  rw [requestLoop]
  split <;> simp_all [RequestPass.resume]

/-!
## Bus operations
-/

/-- A transfer the HUB asks the device adaptation layer for. -/
inductive BusOp where
  | write (buffer : List UInt8) (count : UInt32)
  | read (count : UInt32)
deriving DecidableEq

/-- Carry out a transfer; it succeeds when the HUB sees the size it asked for,
and the reply to a read is the bytes read. -/
def transfer (port : Port device) (bus : DalBus) :
    BusOp -> BusLine device -> Option (List UInt8) × BusLine device
  | .write buffer count, line =>
      let nwrite := dalWrite port bus buffer count line
      (if transferred nwrite.1 count then some [] else none, nwrite.2)
  | .read count, line =>
      let nread := dalRead port bus count line
      (if transferred nread.1 count then some nread.2.1 else none, nread.2.2)

/-- Send the request, and the App Layer request behind it if there is one. -/
def sendOps (d : HubRequestResponseData) : List BusOp :=
  .write d.pRequest d.requestSize ::
    match d.pAppRequest with
    | none => []
    | some request => [.write request d.appRequestSize]

/-- Receive the part of the response that is validated, then the rest. -/
def recvOps (d : HubRequestResponseData) : List BusOp :=
  [.read d.validationDataSize, .read (d.responseSize - d.validationDataSize)]

/-- The response buffer after the replies to the two reads. -/
def receivedResponse (d : HubRequestResponseData)
    (replies : List (List UInt8)) : List UInt8 :=
  overwrite (overwrite d.pResponse 0 (replies.getD 0 []))
    d.validationDataSize.toNat (replies.getD 1 [])

/-- The response makes the HUB send its data. -/
def agreesToSend (d : HubRequestResponseData) (response : List UInt8) : Bool :=
  match d.shouldSendData with
  | none => true
  | some shouldSend => (shouldSend response d.responseSize).1

/-- The HUB goes on to send its data. -/
def sendsData (d : HubRequestResponseData) (response : List UInt8) : Bool :=
  d.pSendData.isSome && agreesToSend d response

/-- The operations behind the response. -/
def closingOps (d : HubRequestResponseData) (response : List UInt8) :
    List BusOp :=
  match d.pSendData with
  | some buffer =>
      if agreesToSend d response then [.write buffer d.sendDataSize] else []
  | none =>
      if d.pAppResponse.isSome then [.read d.appResponseSize] else []

/-!
## The loop follows the scripts

`EndsWith` is what is visible of a loop that has ended: the value it returned,
the response buffer, the line, and the flag `command_execution`.  Each lemma
below takes up the loop one case of the `switch` earlier than the one before.
-/

structure EndsWith (result : Bool × RequestRun device) (ret : Bool)
    (response : List UInt8) (line : BusLine device)
    (commandExecution : Bool) : Prop where
  ret_eq : result.1 = ret
  response_eq : result.2.data.pResponse = response
  line_eq : result.2.line = line
  commandExecution_eq : result.2.commandExecution = commandExecution

section Cases

variable (port : Port device) (bus : DalBus) (run : RequestRun device)

theorem endsWith_done (ret : Bool) :
    EndsWith ((RequestPass.done ret run).resume port bus) ret
      run.data.pResponse run.line run.commandExecution :=
  ⟨rfl, rfl, rfl, rfl⟩

theorem requestLoop_complete (h : run.data.state = .complete) :
    EndsWith (requestLoop port bus run) true run.data.pResponse run.line
      false := by
  rw [requestLoop_eq, requestPass, h]
  exact ⟨rfl, rfl, rfl, rfl⟩

theorem requestLoop_recvAppResponse (h : run.data.state = .recvAppResponse) :
    EndsWith (requestLoop port bus run)
      (transfer port bus (.read run.data.appResponseSize) run.line).1.isSome
      run.data.pResponse
      (transfer port bus (.read run.data.appResponseSize) run.line).2
      (run.commandExecution &&
        (transfer port bus (.read run.data.appResponseSize)
          run.line).1.isNone) := by
  rw [requestLoop_eq, requestPass, h]
  simp only [recvAppResponse, transfer]
  cases transferred (dalRead port bus run.data.appResponseSize run.line).1
      run.data.appResponseSize with
  | false =>
      constructor <;> simp [RequestPass.resume]
  | true =>
      simp only [if_true, Option.isNone_some, Bool.and_false]
      exact requestLoop_complete port bus _ rfl

/-- With `p_send_data` given, the loop writes it if the response agrees to that,
and then ends without clearing the flag. -/
theorem requestLoop_sendData {buffer : List UInt8}
    (h : run.data.state = .sendData)
    (hbuffer : run.data.pSendData = some buffer) :
    EndsWith (requestLoop port bus run)
      (runScript (transfer port bus) (closingOps run.data run.data.pResponse)
        run.line).finished
      run.data.pResponse
      (runScript (transfer port bus) (closingOps run.data run.data.pResponse)
        run.line).final
      (run.commandExecution &&
        sendsData run.data run.data.pResponse) := by
  have hagrees : agreesToSend run.data run.data.pResponse =
      run.data.sendDataAnswer.1 := by
    unfold agreesToSend HubRequestResponseData.sendDataAnswer
    cases run.data.shouldSendData <;> rfl
  rw [requestLoop_eq, requestPass, h]
  simp only [sendData, closingOps, sendsData, hbuffer, hagrees]
  cases hanswer : run.data.sendDataAnswer.1 with
  | false =>
      simp only [Bool.not_false, if_true, Bool.and_false]
      exact requestLoop_complete port bus _ rfl
  | true =>
      simp only [runScript_singleton, transfer, if_true, Option.getD_some]
      cases transferred (dalWrite port bus buffer run.data.sendDataSize
          run.line).1 run.data.sendDataSize with
      | false =>
          constructor <;> simp [RequestPass.resume]
      | true =>
          constructor <;> simp [RequestPass.resume, recvOptionalAck]

theorem requestLoop_closing (hstate : run.data.state =
      if run.data.pSendData.isSome then .sendData
      else if run.data.pAppResponse.isSome then .recvAppResponse
      else .complete) :
    EndsWith (requestLoop port bus run)
      (runScript (transfer port bus) (closingOps run.data run.data.pResponse)
        run.line).finished
      run.data.pResponse
      (runScript (transfer port bus) (closingOps run.data run.data.pResponse)
        run.line).final
      (run.commandExecution &&
        (sendsData run.data run.data.pResponse ||
          !(runScript (transfer port bus)
            (closingOps run.data run.data.pResponse) run.line).finished)) := by
  cases hsend : run.data.pSendData with
  | some buffer =>
      have hend := requestLoop_sendData port bus run
        (by simpa [hsend] using hstate) hsend
      cases hsends : sendsData run.data run.data.pResponse with
      | true =>
          simpa [hsends] using hend
      | false =>
          have hops : closingOps run.data run.data.pResponse = [] := by
            have hagrees : agreesToSend run.data run.data.pResponse = false := by
              simpa [sendsData, hsend] using hsends
            simp [closingOps, hsend, hagrees]
          simpa [hsends, hops] using hend
  | none =>
      have hsends : sendsData run.data run.data.pResponse = false := by
        simp [sendsData, hsend]
      cases happ : run.data.pAppResponse with
      | some buffer =>
          have hend := requestLoop_recvAppResponse port bus run
            (by simpa [hsend, happ] using hstate)
          simpa [closingOps, hsend, happ, hsends] using hend
      | none =>
          have hend := requestLoop_complete port bus run
            (by simpa [hsend, happ] using hstate)
          simpa [closingOps, hsend, happ, hsends] using hend

/-- A request as the callers prepare it: in the first state, and validated
against the request itself. -/
structure Prepared (d : HubRequestResponseData) : Prop where
  state_eq : d.state = .start
  validation_eq : d.pValidationData = d.pRequest

/-- The reads that receive the response, run on a line. -/
def received (d : HubRequestResponseData) (line : BusLine device) :
    ScriptRun (List UInt8) (BusLine device) :=
  runScript (transfer port bus) (recvOps d) line

/-- The response buffer once the response is in. -/
def response (d : HubRequestResponseData) (line : BusLine device) :
    List UInt8 :=
  receivedResponse d (received port bus d line).replies

/-- The operations behind the response, run where its reads ended. -/
def closed (d : HubRequestResponseData) (line : BusLine device) :
    ScriptRun (List UInt8) (BusLine device) :=
  runScript (transfer port bus) (closingOps d (response port bus d line))
    (received port bus d line).final

theorem recvResponse_short
    (h : (transfer port bus
      (.read (run.data.responseSize - run.data.validationDataSize))
      run.line).1 = none) :
    exists data, recvResponse port bus run = .done false
      { data := data
        line := (transfer port bus
          (.read (run.data.responseSize - run.data.validationDataSize))
          run.line).2
        commandExecution := run.commandExecution } := by
  simp only [transfer] at h ⊢
  have hshort : transferred
      (dalRead port bus (run.data.responseSize - run.data.validationDataSize)
        run.line).1
      (run.data.responseSize - run.data.validationDataSize) = false := by
    simpa using h
  simp only [recvResponse, hshort]
  exact ⟨_, rfl⟩

theorem recvResponse_full {bytes : List UInt8} {line : BusLine device}
    (h : transfer port bus
      (.read (run.data.responseSize - run.data.validationDataSize)) run.line =
        (some bytes, line)) :
    recvResponse port bus run = .again
      { data := { run.data with
          pResponse := overwrite run.data.pResponse
            run.data.validationDataSize.toNat bytes
          state :=
            if run.data.pSendData.isSome then .sendData
            else if run.data.pAppResponse.isSome then .recvAppResponse
            else .complete }
        line := line
        commandExecution := run.commandExecution } := by
  simp only [transfer, Prod.mk.injEq, Option.ite_none_right_eq_some,
    Option.some.injEq] at h
  rcases h with ⟨⟨hfull, rfl⟩, rfl⟩
  simp only [recvResponse, hfull]
  cases run.data.pSendData.isSome <;> cases run.data.pAppResponse.isSome <;> rfl

theorem recvPartialResponse_short
    (h : (transfer port bus (.read run.data.validationDataSize)
      run.line).1 = none) :
    exists data, recvPartialResponse port bus run = .done false
      { data := data
        line := (transfer port bus (.read run.data.validationDataSize)
          run.line).2
        commandExecution := run.commandExecution } := by
  simp only [transfer] at h ⊢
  have hshort : transferred
      (dalRead port bus run.data.validationDataSize run.line).1
      run.data.validationDataSize = false := by
    simpa using h
  simp only [recvPartialResponse, hshort]
  exact ⟨_, rfl⟩

/-- The validation compares the request with itself, so it always passes. -/
theorem recvPartialResponse_full {bytes : List UInt8} {line : BusLine device}
    (hvalid : run.data.pValidationData = run.data.pRequest)
    (h : transfer port bus (.read run.data.validationDataSize) run.line =
      (some bytes, line)) :
    recvPartialResponse port bus run = recvResponse port bus
      { data := { run.data with
          pResponse := overwrite run.data.pResponse 0 bytes
          state := .recvResponse }
        line := line
        commandExecution := run.commandExecution } := by
  simp only [transfer, Prod.mk.injEq, Option.ite_none_right_eq_some,
    Option.some.injEq] at h
  rcases h with ⟨⟨hfull, rfl⟩, rfl⟩
  simp [recvPartialResponse, validatePartialResponse, hfull, hvalid]

theorem resume_recvPartialResponse_short
    (hvalid : run.data.pValidationData = run.data.pRequest)
    (h : (received port bus run.data run.line).finished = false) :
    exists buffer, EndsWith ((recvPartialResponse port bus run).resume port bus)
      false buffer (received port bus run.data run.line).final
      run.commandExecution := by
  simp only [received, recvOps] at h ⊢
  cases hpart : transfer port bus (.read run.data.validationDataSize)
      run.line with
  | mk reply line =>
      cases reply with
      | none =>
          rcases recvPartialResponse_short port bus run (by rw [hpart])
            with ⟨data, hdone⟩
          rw [hdone, runScript_cons_of_none _ hpart, hpart]
          exact ⟨_, rfl, rfl, rfl, rfl⟩
      | some bytes =>
          rw [recvPartialResponse_full port bus run hvalid hpart]
          rw [runScript_cons_of_some _ hpart, runScript_singleton] at h ⊢
          rcases recvResponse_short port bus
            { data := { run.data with
                pResponse := overwrite run.data.pResponse 0 bytes
                state := .recvResponse }
              line := line
              commandExecution := run.commandExecution }
            (by simpa using h) with ⟨data, hdone⟩
          rw [hdone]
          exact ⟨_, rfl, rfl, rfl, rfl⟩

theorem recvPartialResponse_received
    (hvalid : run.data.pValidationData = run.data.pRequest)
    (h : (received port bus run.data run.line).finished = true) :
    recvPartialResponse port bus run = .again
      { data := { run.data with
          pResponse := response port bus run.data run.line
          state :=
            if run.data.pSendData.isSome then .sendData
            else if run.data.pAppResponse.isSome then .recvAppResponse
            else .complete }
        line := (received port bus run.data run.line).final
        commandExecution := run.commandExecution } := by
  simp only [response, received, recvOps] at h ⊢
  cases hpart : transfer port bus (.read run.data.validationDataSize)
      run.line with
  | mk reply line =>
      cases reply with
      | none =>
          rw [runScript_cons_of_none _ hpart] at h
          cases h
      | some bytes =>
          rw [recvPartialResponse_full port bus run hvalid hpart]
          rw [runScript_cons_of_some _ hpart, runScript_singleton] at h ⊢
          cases hrest : transfer port bus
              (.read (run.data.responseSize - run.data.validationDataSize))
              line with
          | mk reply line' =>
              cases reply with
              | none =>
                  simp [hrest] at h
              | some rest =>
                  exact recvResponse_full port bus
                    { data := { run.data with
                        pResponse := overwrite run.data.pResponse 0 bytes
                        state := .recvResponse }
                      line := line
                      commandExecution := run.commandExecution } hrest

theorem resume_recvPartialResponse_full
    (hvalid : run.data.pValidationData = run.data.pRequest)
    (h : (received port bus run.data run.line).finished = true) :
    EndsWith ((recvPartialResponse port bus run).resume port bus)
      (closed port bus run.data run.line).finished
      (response port bus run.data run.line)
      (closed port bus run.data run.line).final
      (run.commandExecution &&
        (sendsData run.data (response port bus run.data run.line) ||
          !(closed port bus run.data run.line).finished)) := by
  rw [recvPartialResponse_received port bus run hvalid h]
  exact requestLoop_closing port bus _ rfl

/-- The writes that send the request, run on a line. -/
def sent (d : HubRequestResponseData) (line : BusLine device) :
    ScriptRun (List UInt8) (BusLine device) :=
  runScript (transfer port bus) (sendOps d) line

theorem sendRequest_short
    (h : (sent port bus run.data run.line).finished = false) :
    sendRequest port bus run = .done false
      { data := run.data
        line := (sent port bus run.data run.line).final
        commandExecution := run.commandExecution ||
          !(sent port bus run.data run.line).replies.isEmpty } := by
  simp only [sent, sendOps] at h ⊢
  cases hwrite : transferred
      (dalWrite port bus run.data.pRequest run.data.requestSize run.line).1
      run.data.requestSize with
  | false =>
      simp [runScript, transfer, sendRequest, hwrite]
  | true =>
      cases happ : run.data.pAppRequest with
      | none =>
          simp [happ, runScript, transfer, hwrite] at h
      | some request =>
          have hwriteApp : transferred
              (dalWrite port bus request run.data.appRequestSize
                (dalWrite port bus run.data.pRequest run.data.requestSize
                  run.line).2).1
              run.data.appRequestSize = false := by
            simpa [happ, runScript, transfer, hwrite] using h
          simp [runScript, transfer, sendRequest, sendAppRequest, hwrite, happ,
            hwriteApp]

theorem resume_sendRequest_full
    (h : (sent port bus run.data run.line).finished = true) :
    (sendRequest port bus run).resume port bus =
      (recvPartialResponse port bus
        { data := { run.data with state := .recvPartialResponse }
          line := (sent port bus run.data run.line).final
          commandExecution := true }).resume port bus := by
  simp only [sent, sendOps] at h ⊢
  cases hwrite : transferred
      (dalWrite port bus run.data.pRequest run.data.requestSize run.line).1
      run.data.requestSize with
  | false =>
      simp [runScript, transfer, hwrite] at h
  | true =>
      cases happ : run.data.pAppRequest with
      | none =>
          simp only [runScript, transfer, sendRequest, hwrite, happ]
          exact requestLoop_eq port bus _
      | some request =>
          have hwriteApp : transferred
              (dalWrite port bus request run.data.appRequestSize
                (dalWrite port bus run.data.pRequest run.data.requestSize
                  run.line).2).1
              run.data.appRequestSize = true := by
            simpa [happ, runScript, transfer, hwrite] using h
          simp [runScript, transfer, sendRequest, sendAppRequest, hwrite, happ,
            hwriteApp]

end Cases

/-!
## The exchange

The whole exchange as scripts in a row, and the four things
`hub_execute_hub_request` makes of a prepared request: the value it returns,
the line, the response, and the flag.
-/

section Exchange

variable (port : Port device) (bus : DalBus)

/-- The exchange of a request: send, receive, close. -/
def exchange (d : HubRequestResponseData) (line : BusLine device) :
    ScriptRun (List UInt8) (BusLine device) :=
  (sent port bus d line).andThen fun _ line =>
    (received port bus d line).andThen fun replies line =>
      runScript (transfer port bus)
        (closingOps d (receivedResponse d replies)) line

/-- The exchange gets as far as having the response. -/
def gotResponse (d : HubRequestResponseData) (line : BusLine device) : Bool :=
  (sent port bus d line).finished &&
    (received port bus d (sent port bus d line).final).finished

theorem exchange_finished_iff (d : HubRequestResponseData)
    (line : BusLine device) :
    (exchange port bus d line).finished = true <->
      (sent port bus d line).finished = true ∧
        (received port bus d (sent port bus d line).final).finished = true ∧
        (closed port bus d (sent port bus d line).final).finished = true := by
  simp only [exchange, ScriptRun.andThen_finished_iff]
  rfl

variable {gard : HubGardInfo app} {d : HubRequestResponseData}
  {bus} {line : BusLine device}

theorem hubExecuteHubRequest_no_bus (hbus : gard.activeDalBus = none) :
    hubExecuteHubRequest port gard d line =
      { ret := false, data := d, line := line, gard := gard } := by
  simp [hubExecuteHubRequest, hbus]

theorem hubExecuteHubRequest_of_endsWith {ret commandExecution : Bool}
    {buffer : List UInt8} {line' : BusLine device}
    (hprep : Prepared d) (hbus : gard.activeDalBus = some bus)
    (h : EndsWith
      ((sendRequest port bus
        { data := d, line := line,
          commandExecution := gard.commandExecution }).resume port bus)
      ret buffer line' commandExecution) :
    (hubExecuteHubRequest port gard d line).ret = ret ∧
      (hubExecuteHubRequest port gard d line).data.pResponse = buffer ∧
      (hubExecuteHubRequest port gard d line).line = line' ∧
      (hubExecuteHubRequest port gard d line).gard =
        { gard with commandExecution := commandExecution } := by
  have hloop : requestLoop port bus
      { data := d, line := line, commandExecution := gard.commandExecution } =
      (sendRequest port bus
        { data := d, line := line,
          commandExecution := gard.commandExecution }).resume port bus := by
    rw [requestLoop_eq, requestPass, hprep.state_eq]
  simp only [hubExecuteHubRequest, hbus, hloop]
  exact ⟨h.ret_eq, h.response_eq, h.line_eq, by rw [h.commandExecution_eq]⟩

/-- The request does not get through: the flag is set if the first write did. -/
theorem hubExecuteHubRequest_sent_short
    (hprep : Prepared d) (hbus : gard.activeDalBus = some bus)
    (h : (sent port bus d line).finished = false) :
    (hubExecuteHubRequest port gard d line).ret = false ∧
      (hubExecuteHubRequest port gard d line).line =
        (sent port bus d line).final ∧
      (hubExecuteHubRequest port gard d line).gard =
        { gard with commandExecution := gard.commandExecution ||
            !(sent port bus d line).replies.isEmpty } := by
  have hend := endsWith_done port bus
    { data := d
      line := (sent port bus d line).final
      commandExecution := gard.commandExecution ||
        !(sent port bus d line).replies.isEmpty } false
  rw [← sendRequest_short port bus
    { data := d, line := line, commandExecution := gard.commandExecution } h]
    at hend
  rcases hubExecuteHubRequest_of_endsWith port hprep hbus hend
    with ⟨hret, -, hline, hgard⟩
  exact ⟨hret, hline, hgard⟩

/-- The request gets through and the response does not: the flag stays set. -/
theorem hubExecuteHubRequest_received_short
    (hprep : Prepared d) (hbus : gard.activeDalBus = some bus)
    (hsent : (sent port bus d line).finished = true)
    (h : (received port bus d (sent port bus d line).final).finished =
      false) :
    (hubExecuteHubRequest port gard d line).ret = false ∧
      (hubExecuteHubRequest port gard d line).line =
        (received port bus d (sent port bus d line).final).final ∧
      (hubExecuteHubRequest port gard d line).gard =
        { gard with commandExecution := true } := by
  rcases resume_recvPartialResponse_short port bus
    { data := { d with state := .recvPartialResponse }
      line := (sent port bus d line).final
      commandExecution := true } hprep.validation_eq h with ⟨buffer, hend⟩
  rw [← resume_sendRequest_full port bus
    { data := d, line := line, commandExecution := gard.commandExecution }
    hsent] at hend
  rcases hubExecuteHubRequest_of_endsWith port hprep hbus hend
    with ⟨hret, -, hline, hgard⟩
  exact ⟨hret, hline, hgard⟩

/-- Once the response is in, the exchange succeeds if its last script does, and
the flag is cleared unless the HUB went on to send data or the last script fell
short. -/
theorem hubExecuteHubRequest_responded
    (hprep : Prepared d) (hbus : gard.activeDalBus = some bus)
    (h : gotResponse port bus d line = true) :
    (hubExecuteHubRequest port gard d line).ret =
        (closed port bus d (sent port bus d line).final).finished ∧
      (hubExecuteHubRequest port gard d line).data.pResponse =
        response port bus d (sent port bus d line).final ∧
      (hubExecuteHubRequest port gard d line).line =
        (closed port bus d (sent port bus d line).final).final ∧
      (hubExecuteHubRequest port gard d line).gard =
        { gard with commandExecution :=
            sendsData d (response port bus d (sent port bus d line).final) ||
              !(closed port bus d (sent port bus d line).final).finished } := by
  rcases Bool.and_eq_true_iff.mp h with ⟨hsent, hreceived⟩
  have hend := resume_recvPartialResponse_full port bus
    { data := { d with state := .recvPartialResponse }
      line := (sent port bus d line).final
      commandExecution := true } hprep.validation_eq hreceived
  rw [← resume_sendRequest_full port bus
    { data := d, line := line, commandExecution := gard.commandExecution }
    hsent] at hend
  exact hubExecuteHubRequest_of_endsWith port hprep hbus hend

/-- The state machine performs the exchange: it returns whether the exchange
finished, and leaves the line where the exchange left it. -/
theorem hubExecuteHubRequest_exchange
    (hprep : Prepared d) (hbus : gard.activeDalBus = some bus) :
    (hubExecuteHubRequest port gard d line).ret =
        (exchange port bus d line).finished ∧
      (hubExecuteHubRequest port gard d line).line =
        (exchange port bus d line).final := by
  unfold exchange
  cases hsent : (sent port bus d line).finished with
  | false =>
      have hspec := hubExecuteHubRequest_sent_short port hprep hbus hsent
      rw [ScriptRun.andThen_of_unfinished hsent]
      exact ⟨hspec.1.trans hsent.symm, hspec.2.1⟩
  | true =>
      rw [ScriptRun.andThen_of_finished hsent]
      cases hreceived :
          (received port bus d (sent port bus d line).final).finished with
      | false =>
          have hspec :=
            hubExecuteHubRequest_received_short port hprep hbus hsent hreceived
          rw [ScriptRun.andThen_of_unfinished hreceived]
          exact ⟨hspec.1.trans hreceived.symm, hspec.2.1⟩
      | true =>
          have hspec := hubExecuteHubRequest_responded port hprep hbus
            (by rw [gotResponse, hsent, hreceived]; rfl)
          rw [ScriptRun.andThen_of_finished hreceived]
          exact ⟨hspec.1, hspec.2.2.1⟩

/-- The flag after an exchange that began with it cleared. -/
theorem hubExecuteHubRequest_commandExecution
    (hprep : Prepared d) (hbus : gard.activeDalBus = some bus)
    (hidle : gard.commandExecution = false) :
    (hubExecuteHubRequest port gard d line).gard.commandExecution = false <->
      (sent port bus d line).replies = [] ∨
        ((exchange port bus d line).finished = true ∧
          sendsData d (response port bus d (sent port bus d line).final) =
            false) := by
  cases hsent : (sent port bus d line).finished with
  | false =>
      have hspec := hubExecuteHubRequest_sent_short port hprep hbus hsent
      have hexchange : (exchange port bus d line).finished = false := by
        simp [exchange, ScriptRun.andThen, hsent]
      rw [hspec.2.2]
      simp [hidle, hexchange]
  | true =>
      have hreplies : (sent port bus d line).replies ≠ [] := by
        intro hnil
        have hlength := (runScript_finished_iff _ _).mp hsent
        rw [show (runScript _ _ _).replies = [] from hnil] at hlength
        simp [sendOps] at hlength
      cases hreceived :
          (received port bus d (sent port bus d line).final).finished with
      | false =>
          have hspec :=
            hubExecuteHubRequest_received_short port hprep hbus hsent hreceived
          have hexchange : (exchange port bus d line).finished = false := by
            simp [exchange, ScriptRun.andThen, hsent, hreceived]
          rw [hspec.2.2]
          simp [hexchange, hreplies]
      | true =>
          have hspec := hubExecuteHubRequest_responded port hprep hbus
            (by rw [gotResponse, hsent, hreceived]; rfl)
          rw [hspec.2.2.2]
          simp [exchange_finished_iff, hsent, hreceived, hreplies]
          tauto

theorem hubExecuteHubRequest_response
    (hprep : Prepared d) (hbus : gard.activeDalBus = some bus)
    (hret : (hubExecuteHubRequest port gard d line).ret = true) :
    (hubExecuteHubRequest port gard d line).data.pResponse =
      response port bus d (sent port bus d line).final := by
  rw [(hubExecuteHubRequest_exchange port hprep hbus).1,
    exchange_finished_iff] at hret
  exact (hubExecuteHubRequest_responded port hprep hbus
    (by rw [gotResponse, hret.1, hret.2.1]; rfl)).2.1

end Exchange

end Hub
end GardHub
