import GardHub.KtLib.Lifecycle

/-!
# Acknowledgements and what is on the stack

A call of the library reads the acknowledgement where its response structure is,
whether or not the device has delivered one.  What the exchange does on the line
does not depend on the stack; the acknowledgement does, unless the exchange is
carried out.
-/

namespace GardHub
namespace KtLib

open Foundation
open Dal
open Interface
open Hub

variable {device app : Type}

/-- An acknowledgement happens to be where one is expected. -/
def CallStack.ackLeft (stack : CallStack) : Bool :=
  stack.appResponse.getD 1 0 = ackByte

section Stack

variable (port : Port device) (s : OperationState device app)
  (stack stack' : CallStack) (requestId : HubAppLayerRequestId)
  (payload : List UInt8)

theorem carriedOut_stack :
    carriedOut port s stack requestId payload =
      carriedOut port s stack' requestId payload := by
  unfold carriedOut
  cases s.gard.activeDalBus with
  | none =>
      rfl
  | some bus =>
      rfl

theorem replyTo_stack :
    replyTo port s stack requestId payload =
      replyTo port s stack' requestId payload := by
  unfold replyTo
  cases s.gard.activeDalBus with
  | none =>
      rfl
  | some bus =>
      rfl

/-- Whether the device acknowledges a request, if its exchange is carried
out. -/
def acknowledgement : Option Bool :=
  if carriedOut port s zeroStack requestId payload then
    some ((replyTo port s zeroStack requestId payload).getD 1 0 = ackByte)
  else none

/-- What a call takes for the acknowledgement: the device's, or what the stack
happens to hold. -/
theorem requestExchange_acknowledged (hack : requestId.hasAck = true) :
    decide (((requestExchange port s stack requestId
        payload).data.pAppResponse.getD []).getD 1 0 = ackByte) =
      (acknowledgement port s requestId payload).getD stack.ackLeft := by
  have hone := requestId.one_lt_responseSize
  unfold acknowledgement
  rw [carriedOut_stack port s zeroStack stack,
    replyTo_stack port s zeroStack stack]
  cases hcarried : carriedOut port s stack requestId payload with
  | true =>
      rw [response_of_carriedOut port s stack requestId payload hone hcarried]
      rfl
  | false =>
      have hlast := response_of_not_carriedOut port s stack requestId payload
        (HubAppLayerRequestId.responseSize_of_hasAck hack).symm hcarried
      rw [hlast]
      rfl

/-- Two states with the same bus and the same line. -/
structure SameLine (s s' : OperationState device app) : Prop where
  bus : s'.gard.activeDalBus = s.gard.activeDalBus
  line : s'.line = s.line

variable {s}

theorem SameLine.acknowledgement {s' : OperationState device app}
    (h : SameLine s s') :
    acknowledgement port s' requestId payload =
      KtLib.acknowledgement port s requestId payload := by
  have hcarried : carriedOut port s' zeroStack requestId payload =
      carriedOut port s zeroStack requestId payload := by
    rw [carriedOut, carriedOut, h.bus, h.line]
  have hreply : replyTo port s' zeroStack requestId payload =
      replyTo port s zeroStack requestId payload := by
    rw [replyTo, replyTo, h.bus, h.line]
  rw [KtLib.acknowledgement, KtLib.acknowledgement, hcarried, hreply]

variable (s)

/-- An exchange leaves the line where it does with any other stack. -/
theorem requestExchange_line :
    (requestExchange port s stack requestId payload).line =
        (requestExchange port s stack' requestId payload).line ∧
      (requestExchange port s stack requestId payload).gard.activeDalBus =
        s.gard.activeDalBus := by
  cases hbus : s.gard.activeDalBus with
  | none =>
      simp [requestExchange, hubAppLayerRequest,
        hubExecuteHubRequest_no_bus port hbus, hbus]
  | some bus =>
      have hline : (requestExchange port s stack requestId payload).line =
          (exchange port bus (requestData stack requestId payload)
            s.line).final :=
        (hubExecuteHubRequest_exchange port ⟨rfl, rfl⟩ hbus).2
      have hline' : (requestExchange port s stack' requestId payload).line =
          (exchange port bus (requestData stack' requestId payload)
            s.line).final :=
        (hubExecuteHubRequest_exchange port ⟨rfl, rfl⟩ hbus).2
      refine ⟨?_, ?_⟩
      · rw [hline, hline']
        rfl
      · simp only [requestExchange, hubAppLayerRequest, hubExecuteHubRequest,
          hbus]

/-!
## Calls that return
-/

/-- A call with an acknowledgement returns if its condition on the features
holds and the acknowledgement is there. -/
theorem acknowledgedCall_stopped {ready : KtFeatures -> Bool}
    {update : KtFeatures -> KtFeatures} (hack : requestId.hasAck = true)
    (hrunning : s.stopped = false) :
    (acknowledgedCall port s stack requestId payload ready update).stopped =
      !(ready s.features &&
        (acknowledgement port s requestId payload).getD stack.ackLeft) := by
  have hfound := requestExchange_acknowledged port s stack requestId payload
    hack
  unfold acknowledgedCall
  cases hready : ready s.features with
  | false =>
      rfl
  | true =>
      rw [← hfound]
      simp only [Bool.not_true, Bool.false_eq_true, if_false]
      by_cases hbyte : ((requestExchange port s stack requestId
          payload).data.pAppResponse.getD []).getD 1 0 = ackByte
      · rw [if_neg (not_not_intro hbyte), decide_eq_true hbyte]
        exact hrunning
      · rw [if_pos hbyte, decide_eq_false hbyte]
        rfl

theorem acknowledgedCall_sameLine {ready : KtFeatures -> Bool}
    {update : KtFeatures -> KtFeatures} :
    SameLine
      (acknowledgedCall port s stack requestId payload ready update)
      (acknowledgedCall port s stack' requestId payload ready update) := by
  have hline := requestExchange_line port s stack stack' requestId payload
  have hbus' := (requestExchange_line port s stack' stack requestId payload).2
  have hafter : forall stack : CallStack, ready s.features = true ->
      (acknowledgedCall port s stack requestId payload ready
          update).gard.activeDalBus =
          (requestExchange port s stack requestId
            payload).gard.activeDalBus ∧
        (acknowledgedCall port s stack requestId payload ready update).line =
          (requestExchange port s stack requestId payload).line := by
    intro stack hready
    simp only [acknowledgedCall, hready, Bool.not_true, Bool.false_eq_true,
      if_false]
    split <;> exact ⟨rfl, rfl⟩
  cases hready : ready s.features with
  | false =>
      simp only [acknowledgedCall, hready, Bool.not_false, if_true]
      exact ⟨rfl, rfl⟩
  | true =>
      rcases hafter stack hready with ⟨hbusAfter, hlineAfter⟩
      rcases hafter stack' hready with ⟨hbusAfter', hlineAfter'⟩
      constructor
      · rw [hbusAfter, hbusAfter', hline.2, hbus']
      · rw [hlineAfter, hlineAfter', hline.1]

end Stack

/-!
## Release
-/

section Release

variable (port : Port device) (s : OperationState device app)
  (finiStacks : FiniStacks)

/-- The acknowledgement that `Kt_Fini` waits for if the QR monitor is active. -/
def finiQrAck : Option Bool :=
  if s.features.qrMonitorActive then
    acknowledgement port s .stopQrMonitoring []
  else some true

/-- The one that it waits for behind that if the face identification is
active. -/
def finiFaceAck : Option Bool :=
  if s.features.faceIdMonitoringActive then
    acknowledgement port
      (callIf s.features.qrMonitorActive
        (fun s => ktStopQrMonitor port s zeroStack) s)
      .stopFaceIdentification []
  else some true

theorem callIf_of_stopped {flag : Bool}
    {call : OperationState device app -> OperationState device app}
    {s : OperationState device app} (h : s.stopped = true) :
    callIf flag call s = s := by
  simp [callIf, h]

theorem callIf_ktStopPipeline_stopped (s : OperationState device app) :
    (callIf true ktStopPipeline s).stopped = s.stopped := by
  unfold callIf ktStopPipeline
  split
  · split <;> rfl
  · rfl

variable {s}

/-- What is switched off if it is active fails its assertion without the
acknowledgement. -/
theorem callIf_acknowledgedCall_stopped (requestId : HubAppLayerRequestId)
    (hack : requestId.hasAck = true) (stack : CallStack)
    (ready : KtFeatures -> Bool) (update : KtFeatures -> KtFeatures)
    (hrunning : s.stopped = false) :
    (callIf (ready s.features)
        (fun s => acknowledgedCall port s stack requestId [] ready update)
        s).stopped =
      !(if ready s.features then acknowledgement port s requestId []
        else some true).getD stack.ackLeft := by
  cases hready : ready s.features with
  | false =>
      simpa [callIf] using hrunning
  | true =>
      simp only [callIf, hrunning, Bool.not_false, Bool.and_self, if_true]
      rw [acknowledgedCall_stopped port s stack requestId [] hack hrunning,
        hready, Bool.true_and]

theorem callIf_ktStopQrMonitor_sameLine (flag : Bool)
    (stack stack' : CallStack) :
    SameLine (callIf flag (fun s => ktStopQrMonitor port s stack) s)
      (callIf flag (fun s => ktStopQrMonitor port s stack') s) := by
  unfold callIf
  split
  · exact acknowledgedCall_sameLine port s stack stack' _ _
  · exact ⟨rfl, rfl⟩

theorem callIf_ktStopQrMonitor_faceId (flag : Bool) (stack : CallStack) :
    (callIf flag (fun s => ktStopQrMonitor port s stack)
        s).features.faceIdMonitoringActive =
      s.features.faceIdMonitoringActive := by
  have hcall : (ktStopQrMonitor port s stack).features.faceIdMonitoringActive =
      s.features.faceIdMonitoringActive := by
    unfold ktStopQrMonitor acknowledgedCall
    split
    · rfl
    · simp only
      split <;> rfl
  unfold callIf
  split
  · exact hcall
  · rfl

/-- `Kt_Fini` gets to its end if both acknowledgements are there. -/
theorem ktFiniOps_stopped (hrunning : s.stopped = false) :
    (ktFiniOps port finiStacks s).stopped =
      !((finiQrAck port s).getD finiStacks.qr.ackLeft &&
        (finiFaceAck port s).getD finiStacks.face.ackLeft) := by
  have hqr : (callIf s.features.qrMonitorActive
      (fun s => ktStopQrMonitor port s finiStacks.qr) s).stopped =
        !(finiQrAck port s).getD finiStacks.qr.ackLeft :=
    callIf_acknowledgedCall_stopped port .stopQrMonitoring rfl finiStacks.qr
      (fun features => features.qrMonitorActive) _ hrunning
  have hline := callIf_ktStopQrMonitor_sameLine port (s := s)
    s.features.qrMonitorActive zeroStack finiStacks.qr
  have hfaceId := callIf_ktStopQrMonitor_faceId port (s := s)
    s.features.qrMonitorActive finiStacks.qr
  rw [ktFiniOps, callIf_ktStopPipeline_stopped]
  cases hacked : (finiQrAck port s).getD finiStacks.qr.ackLeft with
  | false =>
      rw [hacked] at hqr
      rw [callIf_of_stopped hqr]
      exact hqr
  | true =>
      rw [hacked] at hqr
      have hface := callIf_acknowledgedCall_stopped port .stopFaceIdentification
        rfl finiStacks.face (fun features => features.faceIdMonitoringActive)
        (fun features => { features with faceIdMonitoringActive := false }) hqr
      rw [hfaceId, hline.acknowledgement] at hface
      rw [Bool.true_and, finiFaceAck, ← hface, ← hfaceId]
      rfl

end Release

end KtLib
end GardHub
