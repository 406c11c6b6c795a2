import GardHub.Foundation.ByteReader
import GardHub.Hub.BusSequence

/-!
# Register and pipeline commands

Four commands have a request of fixed fields and a response of fixed size that
ends in an acknowledgement or a marker.  They share one exchange: a write and
two reads.
-/

namespace GardHub
namespace Hub

open Foundation
open Dal
open Interface

variable {device app : Type}

/-!
## A request and its response
-/

/-- The request was written whole, and the response read whole, its first byte
by itself. -/
def Answered (request response : List UInt8) (before after : List BusEvent) :
    Prop :=
  exists front back, exists rest : UInt32,
    front.length = 1 ∧ back.length = rest.toNat ∧ response = front ++ back ∧
      after = before ++
        [.write request request.length, .read 1 front 1,
          .read rest back rest.toNat]

/-- The transfers of a command: the request, the first byte of the response and
the rest of it, up to the first one that is not complete.  The command fails
behind such a one, and on a response that does not end in `trailer`. -/
def MakesTransfers (fields : List (Nat × Nat)) (responseSize : Nat)
    (trailer : List UInt8) (before after : List BusEvent) (ret : HubRetCode) :
    Prop :=
  exists (request : List UInt8) (rest : UInt32) (complete : Bool),
    unpackFields (fields.map Prod.fst) request = some (fields.map Prod.snd) ∧
      rest.toNat + 1 = responseSize ∧
      InSequence [.write request (UInt32.ofNat request.length), .read 1,
        .read rest] before after complete ∧
      (complete = false -> ret ≠ .success) ∧
      (complete = true -> exists response,
        response.length = responseSize ∧
          Answered request response before after ∧
          (ret = .success <-> trailer <:+ response))

/-- A command with a request of packed fields, given by width and value, and a
response of fixed size: whatever is written has the fields of the request, and
the command succeeds exactly when it was answered by a response that ends in
`trailer`.  On a bus it makes its transfers; without one it fails at once. -/
structure CarriesOut (bus : Option DalBus) (fields : List (Nat × Nat))
    (responseSize : Nat) (trailer : List UInt8) (before after : List BusEvent)
    (ret : HubRetCode) : Prop where
  writes_fields : forall bytes count,
    .write bytes count ∈ after.drop before.length ->
      unpackFields (fields.map Prod.fst) bytes = some (fields.map Prod.snd)
  success_iff : ret = .success <->
    exists request response,
      unpackFields (fields.map Prod.fst) request =
          some (fields.map Prod.snd) ∧
        response.length = responseSize ∧
        Answered request response before after ∧ trailer <:+ response
  transfers : bus.isSome = true ->
    MakesTransfers fields responseSize trailer before after ret
  noBus : bus = none -> after = before ∧ ret ≠ .success

/-- The fields of `_pause_pipeline_request` and `_resume_pipeline_request`
behind the identifier. -/
def pipelineFields (commandId : HostRequestCommandId) (cameraId : UInt8) :
    List (Nat × Nat) :=
  [(1, commandId.code.toNat), (1, cameraId.toNat), (2, 0),
    (4, endOfDataMarker.toNat)]

/-- The fields of `_write_reg_value_to_gard_at_offset_request` behind the
identifier. -/
def writeRegFields (regAddr value : UInt32) : List (Nat × Nat) :=
  [(1, HostRequestCommandId.writeRegValueToGardAtOffset.code.toNat),
    (4, regAddr.toNat), (4, value.toNat), (4, endOfDataMarker.toNat)]

/-- The fields of `_read_reg_value_from_gard_at_offset_request` behind the
identifier. -/
def readRegFields (regAddr : UInt32) : List (Nat × Nat) :=
  [(1, HostRequestCommandId.readRegValueFromGardAtOffset.code.toNat),
    (4, regAddr.toNat), (4, endOfDataMarker.toNat)]

/-!
## Finished exchanges
-/

section Finished

variable {port : Port device} {bus : DalBus}

/-- The bytes a complete transfer gives back: those asked for, of a read. -/
def BusOp.replySize : BusOp -> Nat
  | .write _ _ => 0
  | .read count => count.toNat

theorem transfer_reply {o : BusOp} {line line' : BusLine device}
    {reply : List UInt8} (h : transfer port bus o line = (some reply, line'))
    (hcount : o.count.toNat < 2 ^ 31) :
    reply.length = o.replySize ∧
      line'.events = line.events ++ [o.event ⟨o.count.toNat, reply⟩] := by
  cases o with
  | write buffer count =>
      have hevents := dalWrite_events port bus line buffer count
      have hret := transferred_iff
        (dalWrite_ret_bounds port bus line buffer count) hcount
      simp only [transfer, Prod.mk.injEq] at h
      rcases h with ⟨hreply, rfl⟩
      cases hdone : transferred (dalWrite port bus buffer count line).1 count with
      | false =>
          simp [hdone] at hreply
      | true =>
          simp only [hdone, if_true, Option.some.injEq] at hreply
          rw [hevents, hret.mp hdone, ← hreply]
          exact ⟨rfl, rfl⟩
  | read count =>
      have hevents := dalRead_events port bus count line
      have hret := transferred_iff (dalRead_ret_bounds port bus line count) hcount
      simp only [transfer, Prod.mk.injEq] at h
      rcases h with ⟨hreply, rfl⟩
      cases hdone : transferred (dalRead port bus count line).1 count with
      | false =>
          simp [hdone] at hreply
      | true =>
          simp only [hdone, if_true, Option.some.injEq] at hreply
          rw [hevents, hret.mp hdone, ← hreply]
          exact ⟨dalRead_length hcount (beq_iff_eq.mp hdone), rfl⟩

end Finished

/-!
## Commands of fixed size
-/

section Command

variable {port : Port device} {gard : HubGardInfo app} {line : BusLine device}
  {commandId : HostRequestCommandId} {fields : List UInt8}
  {requestSize responseSize : UInt32}

/-- The sizes of a command are those of an `int32_t`; the request has all its
bytes, and the response has more than its identifier. -/
structure FixedSize (fields : List UInt8) (requestSize responseSize : UInt32) :
    Prop where
  request_lt : requestSize.toNat < 2 ^ 31
  response_lt : responseSize.toNat < 2 ^ 31
  request_eq : requestSize.toNat = fields.length + 1
  response_le : 1 ≤ responseSize

theorem FixedSize.wellSized (h : FixedSize fields requestSize responseSize)
    (commandId : HostRequestCommandId) :
    WellSized
      (commandRequestData commandId fields requestSize responseSize) where
  request_lt := h.request_lt
  appRequest_lt := Nat.two_pow_pos 31
  sendData_lt := Nat.two_pow_pos 31
  response_lt := h.response_lt
  appResponse_lt := Nat.two_pow_pos 31
  validation_le := h.response_le

theorem FixedSize.rest_toNat (h : FixedSize fields requestSize responseSize) :
    (responseSize - 1).toNat = responseSize.toNat - 1 :=
  UInt32.toNat_sub_of_le _ _ h.response_le

theorem FixedSize.take_request
    (h : FixedSize fields requestSize responseSize) :
    (commandId.code :: fields).take requestSize.toNat =
      commandId.code :: fields :=
  List.take_of_length_le (by rw [h.request_eq, List.length_cons])

/-- Once the response is in, it is in the buffer, and the bus has carried the
request and the two reads of the response. -/
theorem command_received {bus : DalBus}
    (h : FixedSize fields requestSize responseSize)
    {d : HubRequestResponseData}
    (hd : d = commandRequestData commandId fields requestSize responseSize)
    (hsent : (sent port bus d line).finished = true)
    (hreceived :
      (received port bus d (sent port bus d line).final).finished = true) :
    (response port bus d (sent port bus d line).final).length =
        responseSize.toNat ∧
      Answered d.pRequest (response port bus d (sent port bus d line).final)
        line.events
        (received port bus d (sent port bus d line).final).final.events := by
  subst hd
  rcases runScript_cons_of_finished hsent with ⟨_, written, hwrite, -, hrun⟩
  have hwritten : (sent port bus (commandRequestData commandId fields
      requestSize responseSize) line).final = written :=
    congrArg ScriptRun.final hrun
  rw [hwritten] at hreceived ⊢
  rcases runScript_cons_of_finished hreceived
    with ⟨front, first, hfront, hfirst, hrun⟩
  rcases runScript_cons_of_finished hfirst with ⟨back, last, hback, -, hrun'⟩
  have hreceivedRun : received port bus (commandRequestData commandId fields
      requestSize responseSize) written =
      { replies := [front, back], finished := true, final := last } := by
    refine hrun.trans ?_
    rw [hrun']
    rfl
  rcases transfer_reply hwrite h.request_lt with ⟨-, hwriteEvent⟩
  rcases transfer_reply hfront (Nat.one_lt_two_pow (by decide))
    with ⟨hfrontLength, hfrontEvent⟩
  rcases transfer_reply hback (h.wellSized commandId).rest_lt
    with ⟨hbackLength, hbackEvent⟩
  have hbackLength : back.length = responseSize.toNat - 1 :=
    hbackLength.trans h.rest_toNat
  have hpositive : 1 ≤ responseSize.toNat :=
    UInt32.le_iff_toNat_le.mp h.response_le
  have hbuffer : response port bus (commandRequestData commandId fields
      requestSize responseSize) written = front ++ back := by
    have hroom : (commandRequestData commandId fields requestSize
        responseSize).pResponse.length ≤ front.length + back.length := by
      rw [hbackLength, hfrontLength]
      simp [commandRequestData, BusOp.replySize]
    have hfull := overwrite_overwrite_full hroom
    rw [response, hreceivedRun, ← hfull, hfrontLength]
    rfl
  rw [hbuffer, hreceivedRun]
  refine ⟨?_, front, back, responseSize - 1, hfrontLength,
    hbackLength.trans h.rest_toNat.symm, rfl, ?_⟩
  · rw [List.length_append, hbackLength, hfrontLength]
    exact Nat.add_sub_cancel' hpositive
  · have hrequestLength : (commandId.code :: fields).length =
        requestSize.toNat := h.request_eq.symm
    rw [hbackEvent, hfrontEvent, hwriteEvent, List.append_assoc,
      List.append_assoc]
    simp only [BusOp.event, BusOp.count, commandRequestData, hrequestLength]
    rw [h.take_request]
    rfl

/-- A command that succeeds has its response in the buffer. -/
theorem command_answered (h : FixedSize fields requestSize responseSize)
    {d : HubRequestResponseData}
    (hd : d = commandRequestData commandId fields requestSize responseSize)
    (hret : (hubExecuteHubRequest port gard d line).ret = true) :
    (hubExecuteHubRequest port gard d line).data.pResponse.length =
        responseSize.toNat ∧
      Answered d.pRequest
        (hubExecuteHubRequest port gard d line).data.pResponse
        line.events (hubExecuteHubRequest port gard d line).line.events := by
  have hprep : Prepared d := by
    rw [hd]
    exact ⟨rfl, rfl⟩
  cases hbus : gard.activeDalBus with
  | none =>
      rw [hubExecuteHubRequest_no_bus port hbus] at hret
      cases hret
  | some bus =>
      have hexchange : (hubExecuteHubRequest port gard d line).ret =
          (exchange port bus d line).finished ∧ _ :=
        hubExecuteHubRequest_exchange port hprep hbus
      rw [hexchange.1, exchange_finished_iff] at hret
      rcases hret with ⟨hsent, hreceived, -⟩
      have hresponded : _ ∧ _ ∧
          (hubExecuteHubRequest port gard d line).line = _ ∧ _ :=
        hubExecuteHubRequest_responded port hprep hbus
          (by rw [gotResponse, hsent, hreceived]; rfl)
      rw [hresponded.2.1, hresponded.2.2.1]
      have hclosing : closingOps d (response port bus d
          (sent port bus d line).final) = [] := by
        rw [hd]
        rfl
      rw [closed, hclosing, runScript_nil]
      exact command_received h hd hsent hreceived

theorem Answered.response_unique
    {request response request' response' : List UInt8}
    {before after : List BusEvent} (h : Answered request response before after)
    (h' : Answered request' response' before after) :
    response = response' := by
  rcases h with ⟨front, back, rest, -, -, rfl, hafter⟩
  rcases h' with ⟨front', back', rest', -, -, rfl, hafter'⟩
  rw [hafter] at hafter'
  have hevents := List.append_cancel_left hafter'
  simp only [List.cons.injEq, BusEvent.read.injEq] at hevents
  rw [hevents.2.1.2.1, hevents.2.2.1.2.1]

theorem command_ret_of_answered (h : FixedSize fields requestSize responseSize)
    {d : HubRequestResponseData}
    (hd : d = commandRequestData commandId fields requestSize responseSize)
    {request response : List UInt8}
    (hanswered : Answered request response line.events
      (hubExecuteHubRequest port gard d line).line.events) :
    (hubExecuteHubRequest port gard d line).ret = true := by
  subst hd
  rcases hanswered with ⟨front, back, rest, -, -, -, hevents⟩
  cases hbus : gard.activeDalBus with
  | none =>
      rw [hubExecuteHubRequest_no_bus port hbus] at hevents
      simp at hevents
  | some bus =>
      rcases hubExecuteHubRequest_follows port ⟨rfl, rfl⟩
        (h.wellSized commandId) hbus line with ⟨calls, hfollows, hcalls⟩
      by_contra hret
      rcases hfollows.unfinished_iff.mp (Bool.eq_false_iff.mpr hret)
        with ⟨call, hlast, hincomplete⟩
      -- The last event is a complete read, so the last call was complete.
      have hcall : call.1.event call.2 = .read rest back rest.toNat := by
        have hmap := List.append_cancel_left (hcalls.symm.trans hevents)
        have hlastEvent := congrArg List.getLast? hmap
        simpa [hlast] using hlastEvent
      cases hop : call.1 with
      | write buffer count =>
          rw [hop] at hcall
          cases hcall
      | read count =>
          rw [hop] at hcall hincomplete
          simp only [BusOp.event, BusEvent.read.injEq] at hcall
          rcases hcall with ⟨rfl, -, hcount⟩
          exact hincomplete hcount

theorem command_ops (buffer : List UInt8) :
    exchangeOps
        (commandRequestData commandId fields requestSize responseSize) buffer =
      [.write (commandId.code :: fields) requestSize, .read 1,
        .read (responseSize - 1)] :=
  rfl

theorem command_writes (h : FixedSize fields requestSize responseSize)
    {d : HubRequestResponseData}
    (hd : d = commandRequestData commandId fields requestSize responseSize)
    {bytes : List UInt8} {count : Int}
    (hwrite : .write bytes count ∈
      (hubExecuteHubRequest port gard d line).line.events.drop
        line.events.length) :
    bytes = commandId.code :: fields := by
  subst hd
  cases hbus : gard.activeDalBus with
  | none =>
      rw [hubExecuteHubRequest_no_bus port hbus] at hwrite
      simp at hwrite
  | some bus =>
      rcases hubExecuteHubRequest_follows port ⟨rfl, rfl⟩
        (h.wellSized commandId) hbus line with ⟨calls, hfollows, hcalls⟩
      rw [hcalls, List.drop_left] at hwrite
      rcases List.mem_map.mp hwrite with ⟨call, hcall, hevent⟩
      have hop : call.1 ∈ _ := hfollows.operations_prefix.subset
        (List.mem_map_of_mem hcall)
      rw [command_ops, List.mem_cons, List.mem_pair] at hop
      rcases hop with hop | hop | hop
      · rw [hop] at hevent
        simp only [BusOp.event, BusEvent.write.injEq] at hevent
        rw [← hevent.1, h.take_request]
      all_goals
        rw [hop] at hevent
        cases hevent

theorem command_success_iff (h : FixedSize fields requestSize responseSize)
    {d : HubRequestResponseData}
    (hd : d = commandRequestData commandId fields requestSize responseSize)
    (confirms : List UInt8 -> Prop) :
    ((hubExecuteHubRequest port gard d line).ret = true ∧
        confirms (hubExecuteHubRequest port gard d line).data.pResponse) <->
      exists response, response.length = responseSize.toNat ∧
        Answered d.pRequest response line.events
          (hubExecuteHubRequest port gard d line).line.events ∧
        confirms response := by
  constructor
  · rintro ⟨hret, hconfirms⟩
    rcases command_answered h hd hret with ⟨hlength, hanswered⟩
    exact ⟨_, hlength, hanswered, hconfirms⟩
  · rintro ⟨response, -, hanswered, hconfirms⟩
    have hret := command_ret_of_answered h hd hanswered
    have hsame := hanswered.response_unique (command_answered h hd hret).2
    exact ⟨hret, hsame ▸ hconfirms⟩

theorem Answered.request_eq {request response bytes : List UInt8}
    {before after : List BusEvent} (h : Answered request response before after)
    (hwrites : forall bytes' count,
      .write bytes' count ∈ after.drop before.length -> bytes' = bytes) :
    request = bytes := by
  rcases h with ⟨front, back, rest, -, -, -, rfl⟩
  exact hwrites request request.length (by simp)

theorem executeCommand_makesTransfers
    (h : FixedSize fields requestSize responseSize)
    {layout : List (Nat × Nat)} {trailer : List UInt8}
    {confirmed : List UInt8 -> Bool} {failure : HubRetCode}
    (hunpack : unpackFields (layout.map Prod.fst) (commandId.code :: fields) =
      some (layout.map Prod.snd))
    (hconfirmed : forall response : List UInt8,
      response.length = responseSize.toNat ->
        (confirmed response = true <-> trailer <:+ response))
    (hfailure : failure ≠ .success)
    (hbus : exists bus, gard.activeDalBus = some bus) :
    MakesTransfers layout responseSize.toNat trailer line.events
      (hubExecuteHubRequest port gard
        (commandRequestData commandId fields requestSize responseSize)
        line).line.events
      (executeCommand port gard
        (commandRequestData commandId fields requestSize responseSize)
        confirmed failure line).ret := by
  rcases hbus with ⟨bus, hbus⟩
  have hsize : UInt32.ofNat (commandId.code :: fields).length = requestSize := by
    rw [List.length_cons, ← h.request_eq, UInt32.ofNat_toNat]
  have hpositive : 1 ≤ responseSize.toNat :=
    UInt32.le_iff_toNat_le.mp h.response_le
  refine ⟨commandId.code :: fields, responseSize - 1,
    (hubExecuteHubRequest port gard
      (commandRequestData commandId fields requestSize responseSize) line).ret,
    hunpack, ?_, ?_, ?_, ?_⟩
  · rw [h.rest_toNat]
    exact Nat.sub_add_cancel hpositive
  · rw [hsize]
    exact hubExecuteHubRequest_sequence port ⟨rfl, rfl⟩
      (h.wellSized commandId) hbus
  · intro hincomplete hsuccess
    rw [((executeCommand_success_iff hfailure).mp hsuccess).1] at hincomplete
    cases hincomplete
  · intro hcomplete
    rcases command_answered h rfl hcomplete with ⟨hlength, hanswered⟩
    refine ⟨_, hlength, hanswered, ?_⟩
    rw [executeCommand_success_iff hfailure, and_iff_right hcomplete]
    exact hconfirmed _ hlength

theorem executeCommand_carriesOut
    (h : FixedSize fields requestSize responseSize)
    {layout : List (Nat × Nat)} {trailer : List UInt8}
    {confirmed : List UInt8 -> Bool} {failure : HubRetCode}
    (hlayout : commandId.code :: fields = packFields layout)
    (hfit : forall field, field ∈ layout -> field.2 < 256 ^ field.1)
    (hconfirmed : forall response : List UInt8,
      response.length = responseSize.toNat ->
        (confirmed response = true <-> trailer <:+ response))
    (hfailure : failure ≠ .success) :
    CarriesOut gard.activeDalBus layout responseSize.toNat trailer line.events
      (executeCommand port gard
        (commandRequestData commandId fields requestSize responseSize)
        confirmed failure line).line.events
      (executeCommand port gard
        (commandRequestData commandId fields requestSize responseSize)
        confirmed failure line).ret := by
  have hunpack : unpackFields (layout.map Prod.fst) (commandId.code :: fields) =
      some (layout.map Prod.snd) := by
    rw [hlayout]
    exact unpackFields_packFields hfit
  rw [executeCommand_line]
  refine ⟨fun bytes count hwrite => ?_, ?_, fun hbus => ?_, fun hnone => ?_⟩
  · rw [command_writes h rfl hwrite]
    exact hunpack
  · rw [executeCommand_success_iff hfailure,
      command_success_iff h rfl fun response => confirmed response = true]
    constructor
    · rintro ⟨response, hlength, hanswered, hconfirms⟩
      exact ⟨_, response, hunpack, hlength, hanswered,
        (hconfirmed response hlength).mp hconfirms⟩
    · rintro ⟨request, response, -, hlength, hanswered, htrailer⟩
      have hrequest : request = commandId.code :: fields :=
        hanswered.request_eq fun bytes count hwrite => command_writes h rfl hwrite
      rw [hrequest] at hanswered
      exact ⟨response, hlength, hanswered,
        (hconfirmed response hlength).mpr htrailer⟩
  · exact executeCommand_makesTransfers h hunpack hconfirmed hfailure
      (Option.isSome_iff_exists.mp hbus)
  · rw [Ne, executeCommand_success_iff hfailure,
      hubExecuteHubRequest_no_bus port hnone]
    exact ⟨rfl, fun hret => Bool.false_ne_true hret.1⟩

end Command

/-!
## Confirmations
-/

/-- A response of two bytes is acknowledged when it ends in `ACK_BYTE`. -/
theorem ackReceived_iff {response : List UInt8} (h : response.length = 2) :
    ackReceived response = true <-> [ackByte] <:+ response := by
  rcases List.length_eq_two.mp h with ⟨first, second, rfl⟩
  simp only [ackReceived, decide_eq_true_eq, List.getD_cons_succ,
    List.getD_cons_zero]
  constructor
  · rintro rfl
    exact ⟨[first], rfl⟩
  · intro hsuffix
    rcases List.suffix_iff_eq_drop.mp hsuffix with hdrop
    simpa using hdrop

/-- A field at the end of a buffer has a value when the buffer ends in its
bytes. -/
theorem fieldValue_eq_iff_suffix {buffer : List UInt8} {offset : Nat}
    (value : UInt32) (h : buffer.length = offset + 4) :
    fieldValue buffer offset 4 = value.toNat <-> u32Bytes value <:+ buffer := by
  have hlength : (buffer.drop offset).length = (u32Bytes value).length := by
    rw [List.length_drop, u32Bytes_length]
    lia
  have hvalue : leValue (u32Bytes value) = value.toNat :=
    leValue_leBytes_of_lt value.toNat_lt
  have htake : (buffer.drop offset).take 4 = buffer.drop offset :=
    List.take_of_length_le (by rw [hlength, u32Bytes_length])
  rw [fieldValue, htake]
  constructor
  · intro hfield
    rw [← leValue_inj hlength (hfield.trans hvalue.symm)]
    exact List.drop_suffix offset buffer
  · intro hsuffix
    have hdrop := List.suffix_iff_eq_drop.mp hsuffix
    rw [u32Bytes_length, h, Nat.add_sub_cancel] at hdrop
    rw [← hdrop, hvalue]

/-!
## The four commands
-/

section Commands

variable (port : Port device) (gard : HubGardInfo app) (line : BusLine device)

theorem pipelineFields_fit (commandId : HostRequestCommandId)
    (cameraId : UInt8) :
    forall field, field ∈ pipelineFields commandId cameraId ->
      field.2 < 256 ^ field.1 :=
  List.forall_mem_cons.mpr ⟨UInt8.toNat_lt _,
    List.forall_mem_cons.mpr ⟨UInt8.toNat_lt _, by simp⟩⟩

theorem pipelineFields_pack (commandId : HostRequestCommandId)
    (cameraId : UInt8) :
    commandId.code :: pipelineRequest cameraId 0 endOfDataMarker =
      packFields (pipelineFields commandId cameraId) := by
  simp [-HostRequestCommandId.code, packFields, pipelineFields,
    pipelineRequest, u16Bytes, u32Bytes, leBytes_one]

theorem pipeline_fixedSize (cameraId : UInt8) :
    FixedSize (pipelineRequest cameraId 0 endOfDataMarker) 8 2 :=
  ⟨by decide, by decide, by simp [pipelineRequest], by decide⟩

theorem hubSendPausePipelineCmd_carriesOut (cameraId : UInt8) :
    CarriesOut gard.activeDalBus (pipelineFields .pausePipeline cameraId) 2 [ackByte]
      line.events
      (hubSendPausePipelineCmd port gard cameraId line).line.events
      (hubSendPausePipelineCmd port gard cameraId line).ret :=
  executeCommand_carriesOut (pipeline_fixedSize cameraId)
    (pipelineFields_pack .pausePipeline cameraId)
    (pipelineFields_fit .pausePipeline cameraId)
    (fun _ hlength => ackReceived_iff hlength) HubRetCode.noConfusion

theorem hubSendResumePipelineCmd_carriesOut (cameraId : UInt8) :
    CarriesOut gard.activeDalBus (pipelineFields .resumePipeline cameraId) 2 [ackByte]
      line.events
      (hubSendResumePipelineCmd port gard cameraId line).line.events
      (hubSendResumePipelineCmd port gard cameraId line).ret :=
  executeCommand_carriesOut (pipeline_fixedSize cameraId)
    (pipelineFields_pack .resumePipeline cameraId)
    (pipelineFields_fit .resumePipeline cameraId)
    (fun _ hlength => ackReceived_iff hlength) HubRetCode.noConfusion

theorem writeRegFields_fit (regAddr value : UInt32) :
    forall field, field ∈ writeRegFields regAddr value ->
      field.2 < 256 ^ field.1 := by
  have haddr := regAddr.toNat_lt
  have hvalue := value.toNat_lt
  simp [writeRegFields]
  lia

theorem writeRegFields_pack (regAddr value : UInt32) :
    HostRequestCommandId.writeRegValueToGardAtOffset.code ::
        writeRegRequest regAddr value endOfDataMarker =
      packFields (writeRegFields regAddr value) := by
  simp [-HostRequestCommandId.code, packFields, writeRegFields,
    writeRegRequest, u32Bytes, leBytes_one]

theorem writeReg_fixedSize (regAddr value : UInt32) :
    FixedSize (writeRegRequest regAddr value endOfDataMarker) 13 2 :=
  ⟨by decide, by decide, by simp [writeRegRequest], by decide⟩

theorem hubWriteGardReg_carriesOut (regAddr value : UInt32) :
    CarriesOut gard.activeDalBus (writeRegFields regAddr value) 2 [ackByte]
      line.events
      (hubWriteGardReg port gard regAddr value line).line.events
      (hubWriteGardReg port gard regAddr value line).ret :=
  executeCommand_carriesOut (writeReg_fixedSize regAddr value)
    (writeRegFields_pack regAddr value) (writeRegFields_fit regAddr value)
    (fun _ hlength => ackReceived_iff hlength) HubRetCode.noConfusion

theorem readRegFields_fit (regAddr : UInt32) :
    forall field, field ∈ readRegFields regAddr ->
      field.2 < 256 ^ field.1 := by
  have haddr := regAddr.toNat_lt
  simp [readRegFields]
  lia

theorem readRegFields_pack (regAddr : UInt32) :
    HostRequestCommandId.readRegValueFromGardAtOffset.code ::
        readRegRequest regAddr endOfDataMarker =
      packFields (readRegFields regAddr) := by
  simp [-HostRequestCommandId.code, packFields, readRegFields, readRegRequest,
    u32Bytes, leBytes_one]

theorem readReg_fixedSize (regAddr : UInt32) :
    FixedSize (readRegRequest regAddr endOfDataMarker) 9 12 :=
  ⟨by decide, by decide, by simp [readRegRequest], by decide⟩

theorem hubReadGardReg_carriesOut (regAddr pValue : UInt32) :
    CarriesOut gard.activeDalBus (readRegFields regAddr) 12 (u32Bytes endOfDataMarker)
      line.events (hubReadGardReg port gard regAddr pValue line).1.line.events
      (hubReadGardReg port gard regAddr pValue line).1.ret :=
  executeCommand_carriesOut (readReg_fixedSize regAddr)
    (readRegFields_pack regAddr) (readRegFields_fit regAddr)
    (fun _ hlength =>
      beq_iff_eq.trans (fieldValue_eq_iff_suffix endOfDataMarker hlength))
    HubRetCode.noConfusion

theorem hubReadGardReg_value {regAddr pValue : UInt32}
    (h : (hubReadGardReg port gard regAddr pValue line).1.ret = .success)
    {request response : List UInt8}
    (hanswered : Answered request response line.events
      (hubReadGardReg port gard regAddr pValue line).1.line.events) :
    (hubReadGardReg port gard regAddr pValue line).2.toNat =
      fieldValue response 4 4 := by
  have hret := ((executeCommand_success_iff HubRetCode.noConfusion).mp h).1
  have hbuffer := command_answered (readReg_fixedSize regAddr) rfl hret
  have hvalue : (hubReadGardReg port gard regAddr pValue line).2 =
      UInt32.ofNat (fieldValue
        (hubReadGardReg port gard regAddr pValue line).1.pResponse 4 4) :=
    if_pos h
  have hsame : (hubReadGardReg port gard regAddr pValue line).1.pResponse =
      response :=
    Answered.response_unique hbuffer.2 hanswered
  rw [hvalue, hsame, UInt32.toNat_ofNat_of_lt' (fieldValue_lt response 4 4)]

/-- Write, read, pause and resume write their fields, then read their response,
and stop at the first transfer that is not complete.  They succeed exactly when
they are answered, and the value read is the one in the response. -/
theorem registerCommands_carryOut (cameraId : UInt8)
    (regAddr value pValue : UInt32) :
    CarriesOut gard.activeDalBus (pipelineFields .pausePipeline cameraId) 2
        [ackByte] line.events
        (hubSendPausePipelineCmd port gard cameraId line).line.events
        (hubSendPausePipelineCmd port gard cameraId line).ret ∧
      CarriesOut gard.activeDalBus (pipelineFields .resumePipeline cameraId) 2
        [ackByte] line.events
        (hubSendResumePipelineCmd port gard cameraId line).line.events
        (hubSendResumePipelineCmd port gard cameraId line).ret ∧
      CarriesOut gard.activeDalBus (writeRegFields regAddr value) 2
        [ackByte] line.events
        (hubWriteGardReg port gard regAddr value line).line.events
        (hubWriteGardReg port gard regAddr value line).ret ∧
      CarriesOut gard.activeDalBus (readRegFields regAddr) 12
        (u32Bytes endOfDataMarker) line.events
        (hubReadGardReg port gard regAddr pValue line).1.line.events
        (hubReadGardReg port gard regAddr pValue line).1.ret ∧
      ((hubReadGardReg port gard regAddr pValue line).1.ret = .success ->
        forall request response,
          Answered request response line.events
            (hubReadGardReg port gard regAddr pValue line).1.line.events ->
          (hubReadGardReg port gard regAddr pValue line).2.toNat =
            fieldValue response 4 4) ∧
      ((hubReadGardReg port gard regAddr pValue line).1.ret ≠ .success ->
        (hubReadGardReg port gard regAddr pValue line).2 = pValue) :=
  ⟨hubSendPausePipelineCmd_carriesOut port gard line cameraId,
    hubSendResumePipelineCmd_carriesOut port gard line cameraId,
    hubWriteGardReg_carriesOut port gard line regAddr value,
    hubReadGardReg_carriesOut port gard line regAddr pValue,
    fun h _ _ hanswered => hubReadGardReg_value port gard line h hanswered,
    fun h => if_neg h⟩

/-- A response to a read, with the value 0x105. -/
def readRegResponse : List UInt8 :=
  [0x03, 0, 0, 0, 5, 1, 0, 0, 0xDB, 0xE0, 0xDB, 0xE0]

/-- A write that is acknowledged, and a read whose value is delivered. -/
theorem registerCommands_carryOut_delivered :
    (hubWriteGardReg streamPort (readyGard none : HubGardInfo Unit) 0x1000 7
        (streamLine [0x04, 0xAC])).ret = .success ∧
      (hubReadGardReg streamPort (readyGard none : HubGardInfo Unit) 0x1000 9
        (streamLine readRegResponse)).2 = 0x105 := by
  have hwrite := (registerCommands_carryOut streamPort
    (readyGard none : HubGardInfo Unit) (streamLine [0x04, 0xAC]) 0 0x1000 7
    0).2.2.1
  have hread := (registerCommands_carryOut streamPort
    (readyGard none : HubGardInfo Unit) (streamLine readRegResponse) 0 0x1000 7
    9).2.2.2
  have hacknowledged : Answered (0x04 :: writeRegRequest 0x1000 7 endOfDataMarker)
      [0x04, 0xAC] [] (hubWriteGardReg streamPort
        (readyGard none : HubGardInfo Unit) 0x1000 7
        (streamLine [0x04, 0xAC])).line.events :=
    ⟨[0x04], [0xAC], 1, rfl, rfl, rfl, by decide +kernel⟩
  have hdelivered : Answered (0x03 :: readRegRequest 0x1000 endOfDataMarker)
      readRegResponse [] (hubReadGardReg streamPort
        (readyGard none : HubGardInfo Unit) 0x1000 9
        (streamLine readRegResponse)).1.line.events :=
    ⟨[0x03], readRegResponse.tail, 11, rfl, rfl, rfl, by decide +kernel⟩
  constructor
  · exact hwrite.success_iff.mpr
      ⟨_, _, by decide +kernel, rfl, hacknowledged, by decide⟩
  · have hsuccess := hread.1.success_iff.mpr
      ⟨_, _, by decide +kernel, rfl, hdelivered, by decide⟩
    have hvalue := hread.2.1 hsuccess _ _ hdelivered
    exact UInt32.toNat_inj.mp (hvalue.trans (by decide +kernel))

end Commands

end Hub
end GardHub
