import GardHub.Foundation.ByteReader
import GardHub.Foundation.Simulation
import GardHub.Hub.AppResponse
import GardHub.Hub.Calls
import GardHub.Hub.RegisterCommands
import GardHub.Hub.SendData

/-!
# Calls of a remote GARD

A GARD at the other end of the line takes the bytes of the HUB in one by one,
finds the messages in them, and answers.  What it does with a message is its own
affair; the interface says where a message ends and how long the answer is.  The
calls of the HUB are then calls of the GARD: each one returns what the GARD has
answered to it, and nothing of it is left on the line.
-/

namespace GardHub
namespace Hub

open Foundation
open Dal
open Interface

variable {device app memory : Type}

/-!
## Messages of the HUB
-/

/-- A message of the HUB: the fields of a command, from its identifier on, the
request to an App Module, or the data that a command has announced. -/
inductive GardMessage where
  | command (fields : List Nat)
  | appLayerRequest (payload : List UInt8)
  | data (bytes : List UInt8)
deriving DecidableEq

/-- The widths of the fields of the commands, from the identifier on. -/
def requestLayouts : List (HostRequestCommandId × List Nat) :=
  [(.gardDiscovery, [1]),
    (.sendDataToGardForOffset, [1, 4, 4, 2, 2]),
    (.recvDataFromGardAtOffset, [1, 4, 4, 2, 2]),
    (.readRegValueFromGardAtOffset, [1, 4, 4]),
    (.writeRegValueToGardAtOffset, [1, 4, 4, 4]),
    (.pausePipeline, [1, 1, 2, 4]),
    (.resumePipeline, [1, 1, 2, 4])]

/-- The widths of the fields of the command with an identifier. -/
def requestWidths (commandId : UInt8) : Option (List Nat) :=
  (requestLayouts.find? fun layout => layout.1.code = commandId).map Prod.snd

/-- The message that bytes are from a command identifier on. -/
def requestMessageOf : List UInt8 -> Option GardMessage
  | [] => none
  | commandId :: fields =>
      if commandId = HostRequestCommandId.hubAppLayerRequest.code then
        if 3 ≤ fields.length ∧ fields.length = 3 + leValue (fields.take 3) then
          some (.appLayerRequest (fields.drop 3))
        else none
      else
        (requestWidths commandId).bind fun widths =>
          (unpackFields widths (commandId :: fields)).map .command

/-- The message that bytes are when a number of bytes of data is awaited. -/
def gardMessageOf (awaited : Nat) (bytes : List UInt8) : Option GardMessage :=
  if awaited = 0 then requestMessageOf bytes
  else if bytes.length = awaited then some (.data bytes)
  else none

theorem requestMessageOf_front {bytes back : List UInt8} {message : GardMessage}
    (h : requestMessageOf (bytes ++ back) = some message) (hback : back ≠ []) :
    requestMessageOf bytes = none := by
  have hpos : 0 < back.length := List.length_pos_iff.mpr hback
  cases bytes with
  | nil =>
      rfl
  | cons commandId fields =>
      rw [List.cons_append] at h
      unfold requestMessageOf at h ⊢
      by_cases happ : commandId = HostRequestCommandId.hubAppLayerRequest.code
      · simp only [if_pos happ] at h ⊢
        apply if_neg
        rintro ⟨hthree, hlength⟩
        have hwhole : ¬ (3 ≤ (fields ++ back).length ∧
            (fields ++ back).length =
              3 + leValue ((fields ++ back).take 3)) := by
          rw [List.take_append_of_le_length hthree, List.length_append]
          lia
        rw [if_neg hwhole] at h
        cases h
      · simp only [if_neg happ] at h ⊢
        cases hwidths : requestWidths commandId with
        | none =>
            rfl
        | some widths =>
            rw [hwidths, Option.bind_some] at h
            rcases Option.map_eq_some_iff.mp h with ⟨values, hvalues, -⟩
            have hlength := unpackFields_length hvalues
            rw [List.length_cons, List.length_append] at hlength
            rw [Option.bind_some, Option.map_eq_none_iff,
              Option.eq_none_iff_forall_ne_some]
            intro values' hfront
            have hlength' := unpackFields_length hfront
            rw [List.length_cons] at hlength'
            lia

/-- No message is the front of another one. -/
theorem gardMessageOf_front {awaited : Nat} {bytes part : List UInt8}
    {message : GardMessage} (h : gardMessageOf awaited bytes = some message)
    (hpart : part <+: bytes) (hlt : part.length < bytes.length) :
    gardMessageOf awaited part = none := by
  rcases hpart with ⟨back, rfl⟩
  rw [List.length_append] at hlt
  unfold gardMessageOf at h ⊢
  by_cases hawaited : awaited = 0
  · rw [if_pos hawaited] at h ⊢
    apply requestMessageOf_front h
    rintro rfl
    simp at hlt
  · rw [if_neg hawaited] at h ⊢
    apply if_neg
    intro hlength
    rw [List.length_append, if_neg (by lia)] at h
    cases h

/-!
## The GARD
-/

/-- The size of the response to a command with the given fields. -/
def responseSizeOf : List Nat -> Nat
  | [] => 0
  | commandId :: fields =>
      if commandId = HostRequestCommandId.gardDiscovery.code.toNat then 16
      else if commandId =
          HostRequestCommandId.readRegValueFromGardAtOffset.code.toNat then 12
      else if commandId =
          HostRequestCommandId.recvDataFromGardAtOffset.code.toNat then
        16 + fields.getD 1 0
      else 2

/-- The firmware of a GARD, with any memory and any answers of the sizes that
the interface gives them.  The size of the response of an App Module is a matter
of the request to it; data are taken without an answer. -/
structure GardFirmware (memory : Type) where
  answer : memory -> GardMessage -> List UInt8 × memory
  appResponseSize : List UInt8 -> Nat
  command_length : forall m fields,
    (answer m (.command fields)).1.length = responseSizeOf fields
  appLayer_length : forall m payload,
    (answer m (.appLayerRequest payload)).1.length =
      4 + appResponseSize payload
  data_silent : forall m bytes, (answer m (.data bytes)).1 = []

/-- A GARD: its memory, the number of bytes of data it awaits, and the bytes it
has sent that the HUB has not read. -/
structure RemoteGard (memory : Type) where
  memory : memory
  awaited : Nat
  incoming : List UInt8
deriving DecidableEq

/-- The data that the GARD awaits behind its answer to a message. -/
def awaitedBehind (message : GardMessage) (reply : List UInt8) : Nat :=
  match message with
  | .command (commandId :: _ :: dataSize :: _) =>
      if commandId =
            HostRequestCommandId.sendDataToGardForOffset.code.toNat ∧
          reply.getD 1 0 = sendDataByte then dataSize
      else 0
  | _ => 0

namespace GardFirmware

variable (fw : GardFirmware memory)

/-- Answer a message, once it is complete. -/
def take (g : RemoteGard memory) (bytes : List UInt8) :
    Option (RemoteGard memory) :=
  (gardMessageOf g.awaited bytes).map fun message =>
    let answered := fw.answer g.memory message
    { memory := answered.2
      awaited := awaitedBehind message answered.1
      incoming := g.incoming ++ answered.1 }

/-- The line to a GARD. -/
def port : Port (Receiver (RemoteGard memory)) where
  recv := fun r count =>
    (some (r.state.incoming.take count),
      { r with state :=
          { r.state with incoming := r.state.incoming.drop count } })
  send := fun r bytes =>
    (some bytes.length, bytes.foldl (feedByte fw.take) r)
  recv_le := by
    intro r count bytes h
    cases h
    simp
  send_le := by
    intro r bytes count h
    cases h
    exact le_refl _

end GardFirmware

/-- A GARD that waits for data, on a line with nothing on it. -/
def waitingGard (m : memory) (awaited : Nat) : Receiver (RemoteGard memory) :=
  { state := { memory := m, awaited := awaited, incoming := [] }, pending := [] }

/-- A GARD that waits for a command. -/
abbrev quietGard (m : memory) : Receiver (RemoteGard memory) :=
  waitingGard m 0

/-!
## What the calls return
-/

/-- The value of a call, with what it stores for its caller. -/
inductive CallReturn where
  | status (ret : Bool)
  | code (ret : HubRetCode)
  | value (ret : HubRetCode) (value : UInt32)
  | response (ret : Bool) (appResponse : Option (List UInt8))
deriving DecidableEq

/-- The fields of the two commands that transfer data. -/
def dataTransferFields (commandId : HostRequestCommandId)
    (addr count : UInt32) : List (Nat × Nat) :=
  [(1, commandId.code.toNat), (4, addr.toNat), (4, count.toNat), (2, 0), (2, 0)]

/-- The calls as calls of the GARD. -/
def GardFirmware.call (fw : GardFirmware memory) (m : memory) :
    HubCall -> CallReturn × memory
  | .sendPausePipelineCmd cameraId =>
      let answered := fw.answer m
        (.command ((pipelineFields .pausePipeline cameraId).map Prod.snd))
      (.code (if ackReceived answered.1 then .success
        else .failureSendPausePipeline), answered.2)
  | .sendResumePipelineCmd cameraId =>
      let answered := fw.answer m
        (.command ((pipelineFields .resumePipeline cameraId).map Prod.snd))
      (.code (if ackReceived answered.1 then .success
        else .failureSendResumePipeline), answered.2)
  | .writeGardReg regAddr value =>
      let answered := fw.answer m
        (.command ((writeRegFields regAddr value).map Prod.snd))
      (.code (if ackReceived answered.1 then .success else .failureWriteReg),
        answered.2)
  | .readGardReg regAddr pValue =>
      let answered := fw.answer m
        (.command ((readRegFields regAddr).map Prod.snd))
      (if fieldValue answered.1 8 4 = endOfDataMarker.toNat then
          .value .success (UInt32.ofNat (fieldValue answered.1 4 4))
        else .value .failureReadReg pValue, answered.2)
  | .sendDataToGard pBuffer addr count =>
      let answered := fw.answer m
        (.command ((dataTransferFields .sendDataToGardForOffset addr
          count).map Prod.snd))
      (.code (if ackReceived answered.1 then .success else .failureSendData),
        if answered.1.getD 1 0 = sendDataByte ∧ count ≠ 0 then
          (fw.answer answered.2
            (.data ((pBuffer.getD []).take count.toNat))).2
        else answered.2)
  | .recvDataFromGard _ addr count =>
      let answered := fw.answer m
        (.command ((dataTransferFields .recvDataFromGardAtOffset addr
          count).map Prod.snd))
      (.code (if fieldValue answered.1 8 4 = endOfDataMarker.toNat then .success
        else .failureRecvData), answered.2)
  | .appLayerRequest request _ appResponse _ _ =>
      let answered := fw.answer m (.appLayerRequest (request.getD []))
      (.response true (appResponse.map fun buffer =>
        overwrite buffer 0 (answered.1.drop 4)), answered.2)
  | .checkAndExecuteGardCommand => (.status false, m)

/-- What the caller sees to: there are data to send, none are received, and an
App Module is asked for a response of the size that it gives. -/
def HubCall.Agreed (fw : GardFirmware memory) : HubCall -> Prop
  | .sendDataToGard pBuffer _ count =>
      count.toNat < 2 ^ 31 ∧
        exists buffer, pBuffer = some buffer ∧ count.toNat ≤ buffer.length
  | .recvDataFromGard _ _ count => count = 0
  | .appLayerRequest request requestSize appResponse appResponseSize _ =>
      (request.getD []).length = requestSize.toNat ∧
        requestSize.toNat < 2 ^ 24 ∧ appResponseSize.toNat < 2 ^ 31 ∧
        fw.appResponseSize (request.getD []) =
          (appResponse.map fun _ => appResponseSize.toNat).getD 0
  | _ => True

/-!
## The exchange with the GARD
-/

section Exchange

variable (fw : GardFirmware memory) {bus : DalBus}
  (line : BusLine (Receiver (RemoteGard memory)))

theorem transfer_gard_write (hbus : bus.busType = .uart)
    {buffer : List UInt8} {count : UInt32} (hcount : count.toNat < 2 ^ 31)
    (hlength : count.toNat ≤ buffer.length) :
    (transfer fw.port bus (.write buffer count) line).1 = some [] ∧
      (transfer fw.port bus (.write buffer count) line).2.state =
        (buffer.take count.toNat).foldl (feedByte fw.take) line.state := by
  by_cases hzero : count = 0
  · subst hzero
    exact ⟨rfl, rfl⟩
  · have htaken : (buffer.take count.toNat).length = count.toNat :=
      List.length_take_of_le hlength
    simp only [transfer, dalWrite, if_neg hzero, hbus, GardFirmware.port,
      htaken, transferred, uartReturn_some_of_lt hcount,
      toUInt32_natCast count.toNat_lt, beq_self_eq_true, if_true]
    exact ⟨trivial, trivial⟩

theorem transfer_gard_read (hbus : bus.busType = .uart) {count : UInt32}
    (hcount : count.toNat < 2 ^ 31)
    (hlength : count.toNat ≤ line.state.state.incoming.length) :
    (transfer fw.port bus (.read count) line).1 =
        some (line.state.state.incoming.take count.toNat) ∧
      (transfer fw.port bus (.read count) line).2.state =
        { line.state with state :=
          { line.state.state with
              incoming := line.state.state.incoming.drop count.toNat } } := by
  by_cases hzero : count = 0
  · subst hzero
    exact ⟨rfl, rfl⟩
  · have htaken : (line.state.state.incoming.take count.toNat).length =
        count.toNat := List.length_take_of_le hlength
    simp only [transfer, dalRead, if_neg hzero, hbus, GardFirmware.port,
      Option.getD_some, Option.map_some, htaken, transferred,
      uartReturn_some_of_lt hcount, toUInt32_natCast count.toNat_lt,
      beq_self_eq_true, if_true]
    exact ⟨trivial, trivial⟩

/-- The bytes of a request. -/
def requestBytes (d : HubRequestResponseData) : List UInt8 :=
  d.pRequest.take d.requestSize.toNat ++
    (d.pAppRequest.getD []).take d.appRequestSize.toNat

/-- A descriptor whose request is a message to the GARD. -/
structure Carries (d : HubRequestResponseData) (message : GardMessage) :
    Prop where
  sizes : WellSized d
  request_le : d.requestSize.toNat ≤ d.pRequest.length
  appRequest_le : d.pAppRequest.isSome = true ->
    d.appRequestSize.toNat ≤ (d.pAppRequest.getD []).length
  validation_eq : d.validationDataSize = 1
  message_eq : gardMessageOf 0 (requestBytes d) = some message

variable {fw line} {d : HubRequestResponseData} {message : GardMessage}
  {m : memory}

/-- A request that goes out is answered. -/
theorem Carries.sent (h : Carries d message) (hbus : bus.busType = .uart)
    (hline : line.state = quietGard m) :
    (Hub.sent fw.port bus d line).finished = true ∧
      (Hub.sent fw.port bus d line).final.state =
        { state :=
            { memory := (fw.answer m message).2
              awaited := awaitedBehind message (fw.answer m message).1
              incoming := (fw.answer m message).1 }
          pending := [] } := by
  have hne : requestBytes d ≠ [] := by
    intro hnil
    have hmessage := h.message_eq
    rw [hnil] at hmessage
    cases hmessage
  have htaken : (requestBytes d).foldl (feedByte fw.take) line.state =
      { state :=
          { memory := (fw.answer m message).2
            awaited := awaitedBehind message (fw.answer m message).1
            incoming := (fw.answer m message).1 }
        pending := [] } := by
    rw [hline]
    apply foldl_feedByte_message hne
    · simp [GardFirmware.take, h.message_eq]
    · intro part hpart hlt
      rw [GardFirmware.take, gardMessageOf_front h.message_eq hpart hlt]
      rfl
  have hfirst : transfer fw.port bus (.write d.pRequest d.requestSize) line =
      (some [], (transfer fw.port bus (.write d.pRequest d.requestSize)
        line).2) :=
    Prod.ext (transfer_gard_write fw line hbus h.sizes.request_lt
      h.request_le).1 rfl
  have hmid := (transfer_gard_write fw line hbus h.sizes.request_lt
    h.request_le).2
  cases happ : d.pAppRequest with
  | none =>
      rw [Hub.sent, sendOps, happ, runScript_cons_of_some _ hfirst]
      refine ⟨rfl, ?_⟩
      rw [← htaken, requestBytes, happ]
      simpa using hmid
  | some request =>
      have hle := h.appRequest_le (by rw [happ]; rfl)
      rw [happ, Option.getD_some] at hle
      rcases transfer_gard_write fw
        (transfer fw.port bus (.write d.pRequest d.requestSize) line).2 hbus h.sizes.appRequest_lt hle with ⟨hsecond, hlast⟩
      rw [Hub.sent, sendOps, happ, runScript_cons_of_some _ hfirst,
        runScript_singleton, hsecond]
      refine ⟨rfl, ?_⟩
      rw [← htaken, requestBytes, happ, List.foldl_append, ← hmid]
      exact hlast

/-- The response is read from the front of the answer. -/
theorem Carries.received (h : Carries d message) (hbus : bus.busType = .uart)
    (hlength : d.responseSize.toNat ≤ line.state.state.incoming.length) :
    (Hub.received fw.port bus d line).finished = true ∧
      (Hub.received fw.port bus d line).replies =
        [line.state.state.incoming.take 1,
          (line.state.state.incoming.drop 1).take (d.responseSize.toNat - 1)] ∧
      (Hub.received fw.port bus d line).final.state =
        { line.state with state :=
          { line.state.state with
              incoming :=
                line.state.state.incoming.drop d.responseSize.toNat } } := by
  have hpos : 1 ≤ d.responseSize := by
    rw [← h.validation_eq]
    exact h.sizes.validation_le
  have hle : 1 ≤ d.responseSize.toNat := UInt32.le_iff_toNat_le.mp hpos
  have hrest : (d.responseSize - 1).toNat = d.responseSize.toNat - 1 :=
    UInt32.toNat_sub_of_le _ _ hpos
  have hlt := h.sizes.response_lt
  rcases transfer_gard_read fw line hbus
    (show (1 : UInt32).toNat < 2 ^ 31 by decide) (by
      change 1 ≤ _
      lia) with ⟨hfront, hmid⟩
  have hfirst : transfer fw.port bus (.read 1) line =
      (some (line.state.state.incoming.take 1),
        (transfer fw.port bus (.read 1) line).2) := Prod.ext hfront rfl
  rcases transfer_gard_read fw (transfer fw.port bus (.read 1) line).2 hbus
    (show (d.responseSize - 1).toNat < 2 ^ 31 by lia) (by
      rw [hmid, hrest]
      simp only [List.length_drop]
      change _ ≤ _ - 1
      lia) with ⟨hback, hlast⟩
  rw [Hub.received, recvOps, h.validation_eq, runScript_cons_of_some _ hfirst,
    runScript_singleton, hback, hmid]
  refine ⟨rfl, ?_, ?_⟩
  · rw [hrest]
    rfl
  · rw [hlast, hmid, hrest]
    simp only [List.drop_drop]
    have hsum : (1 : UInt32).toNat + (d.responseSize.toNat - 1) =
        d.responseSize.toNat := Nat.add_sub_cancel' hle
    rw [hsum]

variable {gard : HubGardInfo app}

/-- The exchange up to the response, on the line of a quiet GARD whose answer is
no shorter than the response. -/
theorem Carries.responded (h : Carries d message) (hbus : bus.busType = .uart)
    (hline : line.state = quietGard m)
    (hlength : d.responseSize.toNat ≤ (fw.answer m message).1.length) :
    gotResponse fw.port bus d line = true ∧
      response fw.port bus d (Hub.sent fw.port bus d line).final =
        overwrite (overwrite d.pResponse 0 ((fw.answer m message).1.take 1)) 1
          (((fw.answer m message).1.drop 1).take
            (d.responseSize.toNat - 1)) ∧
      (Hub.received fw.port bus d
          (Hub.sent fw.port bus d line).final).final.state =
        { state :=
            { memory := (fw.answer m message).2
              awaited := awaitedBehind message (fw.answer m message).1
              incoming :=
                (fw.answer m message).1.drop d.responseSize.toNat }
          pending := [] } := by
  rcases h.sent hbus hline with ⟨hsent, hstate⟩
  have hincoming : (Hub.sent fw.port bus d line).final.state.state.incoming =
      (fw.answer m message).1 := by
    rw [hstate]
  rcases h.received hbus (hincoming ▸ hlength)
    with ⟨hreceived, hreplies, hfinal⟩
  refine ⟨by rw [gotResponse, hsent, hreceived]; rfl, ?_, ?_⟩
  · rw [response, receivedResponse, hreplies, h.validation_eq, hincoming]
    rfl
  · rw [hfinal, hstate]

/-- A response buffer that is no larger than the response holds the answer, and
nothing is left on the line. -/
theorem Carries.answered (h : Carries d message) (hbus : bus.busType = .uart)
    (hline : line.state = quietGard m)
    (hlength : (fw.answer m message).1.length = d.responseSize.toNat)
    (hroom : d.pResponse.length ≤ d.responseSize.toNat) :
    gotResponse fw.port bus d line = true ∧
      response fw.port bus d (Hub.sent fw.port bus d line).final =
        (fw.answer m message).1 ∧
      (Hub.received fw.port bus d
          (Hub.sent fw.port bus d line).final).final.state =
        waitingGard (fw.answer m message).2
          (awaitedBehind message (fw.answer m message).1) := by
  rcases h.responded hbus hline (le_of_eq hlength.symm)
    with ⟨hgot, hresponse, hstate⟩
  have hpos : 1 ≤ d.responseSize := by
    rw [← h.validation_eq]
    exact h.sizes.validation_le
  have hle : 1 ≤ d.responseSize.toNat := UInt32.le_iff_toNat_le.mp hpos
  refine ⟨hgot, ?_, ?_⟩
  · cases hreply : (fw.answer m message).1 with
    | nil =>
        rw [hreply, List.length_nil] at hlength
        lia
    | cons byte rest =>
        rw [hreply, List.length_cons] at hlength
        have hrest : rest.take (d.responseSize.toNat - 1) = rest :=
          List.take_of_length_le (by lia)
        have hfull := @overwrite_overwrite_full d.pResponse [byte] rest (by
          rw [List.length_singleton]
          lia)
        rw [hresponse, hreply, List.drop_one, List.tail_cons, hrest]
        exact hfull
  · rw [hstate, ← hlength, List.drop_length]
    rfl

/-- What an exchange leaves behind: the line with the GARD at rest, and the
record with the bus on which it was. -/
structure LeavesGard (result : ExchangeResult (Receiver (RemoteGard memory)) app)
    (gard : HubGardInfo app) (m : memory) : Prop where
  ret_eq : result.ret = true
  line_eq : result.line.state = quietGard m
  bus_eq : result.gard.activeDalBus = gard.activeDalBus

/-- A command without data and without an App Layer response. -/
theorem Carries.command (h : Carries d message) (hprep : Prepared d)
    (hactive : gard.activeDalBus = some bus) (hbus : bus.busType = .uart)
    (hline : line.state = quietGard m)
    (hlength : (fw.answer m message).1.length = d.responseSize.toNat)
    (hroom : d.pResponse.length ≤ d.responseSize.toNat)
    (hsend : d.pSendData = none) (happ : d.pAppResponse = none)
    (hawaited : awaitedBehind message (fw.answer m message).1 = 0) :
    LeavesGard (hubExecuteHubRequest fw.port gard d line) gard
        (fw.answer m message).2 ∧
      (hubExecuteHubRequest fw.port gard d line).data.pResponse =
        (fw.answer m message).1 := by
  rcases h.answered hbus hline hlength hroom with ⟨hgot, hresponse, hstate⟩
  rcases hubExecuteHubRequest_responded fw.port hprep hactive hgot
    with ⟨hret, hbuffer, hfinal, hgard⟩
  have hclosed : closed fw.port bus d (Hub.sent fw.port bus d line).final =
      { replies := [], finished := true
        final := (Hub.received fw.port bus d
          (Hub.sent fw.port bus d line).final).final } := by
    simp [closed, closingOps, hsend, happ]
  rw [hclosed] at hret hfinal
  rw [hawaited] at hstate
  exact ⟨⟨hret, by rw [hfinal, hstate], by rw [hgard]⟩,
    hbuffer.trans hresponse⟩

end Exchange

/-!
## The calls
-/

section Calls

variable {fw : GardFirmware memory} {bus : DalBus} {gard : HubGardInfo app}
  {line : BusLine (Receiver (RemoteGard memory))} {m : memory}

/-- The request to an App Module is a message with the payload in it. -/
theorem appLayerRequest_message {payload : List UInt8} {size : UInt32}
    (hlength : payload.length = size.toNat) (hsize : size.toNat < 2 ^ 24) :
    gardMessageOf 0 (HostRequestCommandId.hubAppLayerRequest.code ::
        (u24Bytes size ++ payload)) = some (.appLayerRequest payload) := by
  have hfield : leValue (u24Bytes size) = size.toNat :=
    leValue_leBytes_of_lt (lt_of_lt_of_eq hsize (by norm_num))
  have hfront : (u24Bytes size ++ payload).take 3 = u24Bytes size :=
    List.take_left' (u24Bytes_length size)
  have hback : (u24Bytes size ++ payload).drop 3 = payload :=
    List.drop_left' (u24Bytes_length size)
  have hwhole : (u24Bytes size ++ payload).length = 3 + size.toNat := by
    rw [List.length_append, u24Bytes_length, hlength]
  rw [gardMessageOf, if_pos rfl, requestMessageOf]
  simp only [if_true, hfront, hfield, hback, hwhole, and_true,
    if_pos (Nat.le_add_right 3 size.toNat)]

theorem carries_appLayerRequest {request : Option (List UInt8)}
    {requestSize : UInt32} {appResponse : Option (List UInt8)}
    {appResponseSize : UInt32} {response : List UInt8}
    (hlength : (request.getD []).length = requestSize.toNat)
    (hsize : requestSize.toNat < 2 ^ 24)
    (happ : appResponseSize.toNat < 2 ^ 31) :
    Carries (appLayerRequestData request requestSize appResponse
      appResponseSize response) (.appLayerRequest (request.getD [])) where
  sizes :=
    { request_lt := show (4 : UInt32).toNat < 2 ^ 31 by decide
      appRequest_lt := lt_trans hsize (by decide)
      sendData_lt := Nat.two_pow_pos 31
      response_lt := show (4 : UInt32).toNat < 2 ^ 31 by decide
      appResponse_lt := happ
      validation_le := show (1 : UInt32) ≤ 4 by decide }
  request_le := by
    simp [appLayerRequestData, commandRequestData]
  appRequest_le := by
    intro _
    exact le_of_eq hlength.symm
  validation_eq := rfl
  message_eq := by
    have hheader : (HostRequestCommandId.hubAppLayerRequest.code ::
        u24Bytes requestSize).take 4 =
          HostRequestCommandId.hubAppLayerRequest.code ::
            u24Bytes requestSize :=
      List.take_of_length_le (by simp)
    have hpayload : (request.getD []).take requestSize.toNat =
        request.getD [] := by
      rw [← hlength, List.take_length]
    have hmessage := appLayerRequest_message hlength hsize
    rw [← hmessage]
    simp only [requestBytes, appLayerRequestData, commandRequestData,
      show (4 : UInt32).toNat = 4 from rfl, hheader, hpayload,
      List.cons_append]

section AppResponse

variable {request : Option (List UInt8)} {requestSize : UInt32}
  {appResponse : Option (List UInt8)} {appResponseSize : UInt32}
  {header rest : List UInt8}

/-- What a GARD has on the line when its response is read up to the part of the
App Module. -/
def answeringGard (m : memory) (rest : List UInt8) :
    Receiver (RemoteGard memory) :=
  { state := { memory := m, awaited := 0, incoming := rest }, pending := [] }

/-- That part is read as a whole into the buffer that there is for it. -/
theorem appResponse_closes (hbus : bus.busType = .uart)
    (hsize : appResponseSize.toNat < 2 ^ 31)
    (hline : line.state = answeringGard m rest)
    (hrest : rest.length =
      (appResponse.map fun _ => appResponseSize.toNat).getD 0)
    (received : List UInt8) :
    (runScript (transfer fw.port bus)
        (closingOps (appLayerRequestData request requestSize appResponse
          appResponseSize header) received) line).finished = true ∧
      (runScript (transfer fw.port bus)
        (closingOps (appLayerRequestData request requestSize appResponse
          appResponseSize header) received) line).final.state =
        quietGard m := by
  cases appResponse with
  | none =>
      have hnone : rest = [] := List.length_eq_zero_iff.mp hrest
      rw [hnone] at hline
      exact ⟨rfl, hline⟩
  | some buffer =>
      have hrest : rest.length = appResponseSize.toNat := hrest
      rcases transfer_gard_read fw line hbus hsize
        (by rw [hline]; exact le_of_eq hrest.symm) with ⟨hread, hafter⟩
      change (runScript (transfer fw.port bus) [BusOp.read appResponseSize]
          line).finished = true ∧
        (runScript (transfer fw.port bus) [BusOp.read appResponseSize]
          line).final.state = _
      rw [runScript_singleton, hread, hafter, hline, answeringGard, ← hrest,
        List.drop_length]
      exact ⟨rfl, rfl⟩

theorem dalRead_answering (hbus : bus.busType = .uart)
    (hsize : appResponseSize.toNat < 2 ^ 31)
    (hline : line.state = answeringGard m rest)
    (hrest : rest.length = appResponseSize.toNat) :
    (dalRead fw.port bus appResponseSize line).2.1 = rest := by
  rcases transfer_gard_read fw line hbus hsize
    (by rw [hline]; exact le_of_eq hrest.symm) with ⟨hread, -⟩
  rw [hline, answeringGard, ← hrest, List.take_length, transfer] at hread
  simp only [Option.ite_none_right_eq_some, Option.some.injEq] at hread
  exact hread.2

/-- The response of the App Module ends up in the buffer of the caller. -/
theorem hubAppLayerRequest_called {answered : List UInt8 × memory}
    (hanswered : answered = fw.answer m (.appLayerRequest (request.getD [])))
    (hagreed : HubCall.Agreed fw (.appLayerRequest request requestSize
      appResponse appResponseSize header))
    (hactive : gard.activeDalBus = some bus) (hbus : bus.busType = .uart)
    (hline : line.state = quietGard m) :
    LeavesGard (hubAppLayerRequest fw.port gard request requestSize appResponse
        appResponseSize header line) gard answered.2 ∧
      (appResponse.bind fun _ =>
        (hubAppLayerRequest fw.port gard request requestSize appResponse
          appResponseSize header line).data.pAppResponse) =
        appResponse.map fun buffer =>
          overwrite buffer 0 (answered.1.drop 4) := by
  rcases hagreed with ⟨hlength, hsize, happ, hreply⟩
  have hanswer : answered.1.length =
      4 + fw.appResponseSize (request.getD []) := by
    rw [hanswered]
    exact fw.appLayer_length m _
  have hrest : (answered.1.drop 4).length =
      (appResponse.map fun _ => appResponseSize.toNat).getD 0 := by
    rw [List.length_drop, hanswer, hreply]
    exact Nat.add_sub_cancel_left 4 _
  rcases (carries_appLayerRequest hlength hsize happ).responded hbus hline (by
      rw [← hanswered, hanswer]
      exact Nat.le_add_right 4 _) with ⟨hgot, -, hstate⟩
  rw [← hanswered] at hstate
  rcases appResponse_closes hbus happ hstate hrest
    (response fw.port bus (appLayerRequestData request requestSize appResponse
      appResponseSize header) (sent fw.port bus (appLayerRequestData request
        requestSize appResponse appResponseSize header) line).final)
    with ⟨hclosed, hquiet⟩
  rcases hubExecuteHubRequest_responded fw.port
    (show Prepared (appLayerRequestData request requestSize appResponse
      appResponseSize header) from ⟨rfl, rfl⟩) hactive hgot
    with ⟨hret, -, hfinal, hgard⟩
  refine ⟨⟨hret.trans hclosed, (congrArg BusLine.state hfinal).trans hquiet,
    by rw [hubAppLayerRequest, hgard]⟩, ?_⟩
  cases appResponse with
  | none =>
      rfl
  | some buffer =>
      rw [Option.bind_some, hubAppLayerRequest,
        hubExecuteHubRequest_appResponse ⟨rfl, rfl⟩ rfl rfl hactive,
        deliveredReply, if_pos hgot]
      exact congrArg (fun bytes => some (overwrite buffer 0 bytes))
        (dalRead_answering hbus happ hstate hrest)

end AppResponse

end Calls

/-!
## Runs of calls
-/

end Hub
end GardHub
