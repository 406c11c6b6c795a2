import GardHub.Foundation.Runs
import GardHub.Hub.AppResponse

/-!
# Operations of the library

The calls that switch features on and off and that generate and delete face
identifiers.  Each of them but the two about the pipeline has the GARD do the
work: it puts a response structure on the stack, calls `hub_app_layer_request`,
and goes by what the structure holds afterwards.
-/

namespace GardHub
namespace KtLib

open Foundation
open Dal
open Interface
open Hub

variable {device app : Type}

/-!
## Requests to the App Module
-/

/-- The `hub_app_layer_request_ids` that the library uses. -/
inductive HubAppLayerRequestId where
  | generateFaceId
  | deleteFaceId
  | startFaceIdentification
  | stopFaceIdentification
  | startQrMonitoring
  | stopQrMonitoring
deriving DecidableEq

namespace HubAppLayerRequestId

/-- The byte an identifier travels as. -/
def code : HubAppLayerRequestId -> UInt8
  | .generateFaceId => 0x02
  | .deleteFaceId => 0x03
  | .startFaceIdentification => 0x04
  | .stopFaceIdentification => 0x05
  | .startQrMonitoring => 0x08
  | .stopQrMonitoring => 0x09

/-- The reply has an `ack_or_nak` behind the identifier. -/
def hasAck : HubAppLayerRequestId -> Bool
  | .generateFaceId => false
  | _ => true

/-- The size of the reply.  A generated identifier comes with a format and a
box. -/
def responseSize : HubAppLayerRequestId -> UInt32
  | .generateFaceId => 20
  | _ => 2

theorem responseSize_lt (requestId : HubAppLayerRequestId) :
    requestId.responseSize.toNat < 2 ^ 31 := by
  cases requestId <;> decide

theorem one_lt_responseSize (requestId : HubAppLayerRequestId) :
    1 < requestId.responseSize.toNat := by
  cases requestId <;> decide

theorem responseSize_of_hasAck {requestId : HubAppLayerRequestId}
    (h : requestId.hasAck = true) : requestId.responseSize.toNat = 2 := by
  cases requestId with
  | generateFaceId =>
      cases h
  | _ =>
      rfl

end HubAppLayerRequestId

/-- The size of `_gard_app_layer_responses`. -/
def gardAppLayerResponsesSize : Nat := 20

/-- What the stack happens to hold where a call puts its response structure, and
where the HUB puts its own. -/
structure CallStack where
  appResponse : List UInt8
  hubResponse : List UInt8
  appResponse_length : appResponse.length = gardAppLayerResponsesSize

/-!
## The state
-/

/-- The feature flags of `Kt_Context`. -/
structure KtFeatures where
  pipelineRunning : Bool
  faceIdMonitoringActive : Bool
  qrMonitorActive : Bool
deriving DecidableEq

/-- A success that the App was told of, with the return value of
`hub_app_layer_request` and the response structure behind it. -/
structure SuccessReport where
  requestId : HubAppLayerRequestId
  hubReturned : Bool
  response : List UInt8

/-- The library between two calls.  A failed assertion does not return, so
nothing is called behind it. -/
structure OperationState (device app : Type) where
  features : KtFeatures
  gard : HubGardInfo app
  line : BusLine device
  reports : List SuccessReport
  stopped : Bool

/-- `Kt_Init` clears the flags; the features it starts by itself it starts with
the calls below. -/
def ktInitialised (gard : HubGardInfo app) (line : BusLine device) :
    OperationState device app :=
  { features := ⟨false, false, false⟩
    gard := gard
    line := line
    reports := []
    stopped := false }

/-- A failed assertion. -/
def OperationState.assertFailed (s : OperationState device app) :
    OperationState device app :=
  { s with stopped := true }

/-!
## The calls
-/

section Calls

variable (port : Port device) (s : OperationState device app)
  (stack : CallStack)

/-- The exchange of a call.  What `hub_app_layer_request` returns is not looked
at. -/
def requestExchange (requestId : HubAppLayerRequestId) (payload : List UInt8) :
    ExchangeResult device app :=
  hubAppLayerRequest port s.gard (some (requestId.code :: payload))
    (UInt32.ofNat (payload.length + 1)) (some stack.appResponse)
    requestId.responseSize stack.hubResponse s.line

/-- The state once success has been reported. -/
def reported (requestId : HubAppLayerRequestId) (features : KtFeatures)
    (result : ExchangeResult device app) : OperationState device app :=
  { s with
    features := features
    gard := result.gard
    line := result.line
    reports := s.reports ++
      [⟨requestId, result.ret, result.data.pAppResponse.getD []⟩] }

/-- A call that asserts a condition on the features, has an exchange, asserts
that the reply is acknowledged, and reports success. -/
def acknowledgedCall (requestId : HubAppLayerRequestId) (payload : List UInt8)
    (ready : KtFeatures -> Bool) (update : KtFeatures -> KtFeatures) :
    OperationState device app :=
  if !ready s.features then s.assertFailed
  else
    let result := requestExchange port s stack requestId payload
    if (result.data.pAppResponse.getD []).getD 1 0 ≠ ackByte then
      { s with gard := result.gard, line := result.line }.assertFailed
    else reported s requestId (update s.features) result

/-- `Kt_StartPipeline` -/
def ktStartPipeline : OperationState device app :=
  if s.features.pipelineRunning then s
  else { s with features := { s.features with pipelineRunning := true } }

/-- `Kt_StopPipeline`.  The flags of the features that run on the pipeline are
left alone. -/
def ktStopPipeline : OperationState device app :=
  if !s.features.pipelineRunning then s
  else { s with features := { s.features with pipelineRunning := false } }

/-- `Kt_StartFaceIdentification` -/
def ktStartFaceIdentification : OperationState device app :=
  acknowledgedCall port s stack .startFaceIdentification []
    (fun features => features.pipelineRunning)
    fun features => { features with faceIdMonitoringActive := true }

/-- `Kt_StopFaceIdentification` -/
def ktStopFaceIdentification : OperationState device app :=
  acknowledgedCall port s stack .stopFaceIdentification []
    (fun features => features.faceIdMonitoringActive)
    fun features => { features with faceIdMonitoringActive := false }

/-- `Kt_StartQrMonitor` -/
def ktStartQrMonitor : OperationState device app :=
  acknowledgedCall port s stack .startQrMonitoring []
    (fun features => features.pipelineRunning)
    fun features => { features with qrMonitorActive := true }

/-- `Kt_StopQrMonitor` -/
def ktStopQrMonitor : OperationState device app :=
  acknowledgedCall port s stack .stopQrMonitoring []
    (fun features => features.qrMonitorActive)
    fun features => { features with qrMonitorActive := false }

/-- `Kt_DeleteFaceId_async`.  The identifier goes into a field of two bytes,
behind a pad byte. -/
def ktDeleteFaceIdAsync (faceId : UInt32) : OperationState device app :=
  acknowledgedCall port s stack .deleteFaceId
    (0 :: u16Bytes (UInt16.ofNat faceId.toNat)) (fun _ => true)
    fun features => features

/-- `Kt_GenerateFaceId_async`, with or without a handler.  The reply is passed on
as it is. -/
def ktGenerateFaceIdAsync (handler : Bool) : OperationState device app :=
  if !handler then s.assertFailed
  else if !s.features.faceIdMonitoringActive then s.assertFailed
  else
    reported s .generateFaceId s.features
      (requestExchange port s stack .generateFaceId [])

end Calls

/-- The calls, with their arguments. -/
inductive KtCall where
  | startPipeline
  | stopPipeline
  | startFaceIdentification
  | stopFaceIdentification
  | startQrMonitor
  | stopQrMonitor
  | generateFaceIdAsync (handler : Bool)
  | deleteFaceIdAsync (faceId : UInt32)

/-- A call of the library that finds something on the stack. -/
def ktCall (port : Port device) (s : OperationState device app)
    (call : KtCall × CallStack) : Option (OperationState device app) :=
  if s.stopped then none
  else
    some <| match call.1 with
    | .startPipeline => ktStartPipeline s
    | .stopPipeline => ktStopPipeline s
    | .startFaceIdentification => ktStartFaceIdentification port s call.2
    | .stopFaceIdentification => ktStopFaceIdentification port s call.2
    | .startQrMonitor => ktStartQrMonitor port s call.2
    | .stopQrMonitor => ktStopQrMonitor port s call.2
    | .generateFaceIdAsync handler =>
        ktGenerateFaceIdAsync port s call.2 handler
    | .deleteFaceIdAsync faceId => ktDeleteFaceIdAsync port s call.2 faceId

/-!
## Success that was earned
-/

/-- The HUB carried the exchange out, and the reply has the identifier of the
request and, if it has one, the acknowledgement. -/
def SuccessReport.Justified (report : SuccessReport) : Prop :=
  report.hubReturned = true ∧
    report.response.getD 0 0 = report.requestId.code ∧
    (report.requestId.hasAck = true -> report.response.getD 1 0 = ackByte)

/-- A feature is active only while the pipeline is running. -/
def KtFeatures.Consistent (features : KtFeatures) : Prop :=
  (features.faceIdMonitoringActive = true ∨ features.qrMonitorActive = true) ->
    features.pipelineRunning = true

/-- Every success was earned, and the flags fit together. -/
def OperationState.Sound (s : OperationState device app) : Prop :=
  (forall report, report ∈ s.reports -> report.Justified) ∧
    s.features.Consistent

/-!
## What an exchange leaves on the stack
-/

section Exchange

variable (port : Port device) (s : OperationState device app)
  (stack : CallStack) (requestId : HubAppLayerRequestId)
  (payload : List UInt8)

/-- The descriptor of the exchange of a call. -/
def requestData : HubRequestResponseData :=
  appLayerRequestData (some (requestId.code :: payload))
    (UInt32.ofNat (payload.length + 1)) (some stack.appResponse)
    requestId.responseSize stack.hubResponse

/-- The device carries the exchange of a call out in full. -/
def carriedOut : Bool :=
  match s.gard.activeDalBus with
  | none => false
  | some bus =>
      (exchange port bus (requestData stack requestId payload) s.line).finished

/-- What the device delivers as the reply to a call. -/
def replyTo : List UInt8 :=
  match s.gard.activeDalBus with
  | none => []
  | some bus =>
      deliveredReply port bus (requestData stack requestId payload) s.line

theorem requestExchange_ret :
    (requestExchange port s stack requestId payload).ret =
      carriedOut port s stack requestId payload := by
  unfold carriedOut
  cases hbus : s.gard.activeDalBus with
  | none =>
      exact congrArg ExchangeResult.ret (hubExecuteHubRequest_no_bus port hbus)
  | some bus =>
      exact (hubExecuteHubRequest_exchange port ⟨rfl, rfl⟩ hbus).1

theorem requestExchange_response :
    (requestExchange port s stack requestId payload).data.pAppResponse.getD [] =
      overwrite stack.appResponse 0
        (replyTo port s stack requestId payload) := by
  unfold replyTo
  cases hbus : s.gard.activeDalBus with
  | none =>
      rw [requestExchange, hubAppLayerRequest,
        hubExecuteHubRequest_no_bus port hbus]
      simp [appLayerRequestData, overwrite_zero]
  | some bus =>
      have hbuffer : (requestExchange port s stack requestId
          payload).data.pAppResponse = some (overwrite stack.appResponse 0
            (deliveredReply port bus (requestData stack requestId payload)
              s.line)) :=
        hubExecuteHubRequest_appResponse ⟨rfl, rfl⟩ rfl rfl hbus
      rw [hbuffer, Option.getD_some]

theorem response_of_carriedOut {i : Nat}
    (hi : i < requestId.responseSize.toNat)
    (h : carriedOut port s stack requestId payload = true) :
    ((requestExchange port s stack requestId
        payload).data.pAppResponse.getD []).getD i 0 =
      (replyTo port s stack requestId payload).getD i 0 := by
  have hlength : (replyTo port s stack requestId payload).length =
      requestId.responseSize.toNat := by
    unfold carriedOut at h
    unfold replyTo
    cases hbus : s.gard.activeDalBus with
    | none =>
        rw [hbus] at h
        cases h
    | some bus =>
        rw [hbus] at h
        exact deliveredReply_length rfl rfl requestId.responseSize_lt h
  rw [requestExchange_response, getD_overwrite,
    if_pos (by rw [hlength]; exact hi)]

/-- An exchange that is not carried out leaves the last byte of the reply as it
was. -/
theorem response_of_not_carriedOut {i : Nat}
    (hi : i + 1 = requestId.responseSize.toNat)
    (h : carriedOut port s stack requestId payload = false) :
    ((requestExchange port s stack requestId
        payload).data.pAppResponse.getD []).getD i 0 =
      stack.appResponse.getD i 0 := by
  have hlength : (replyTo port s stack requestId payload).length <
      requestId.responseSize.toNat := by
    unfold carriedOut at h
    unfold replyTo
    cases hbus : s.gard.activeDalBus with
    | none =>
        rw [← hi]
        exact Nat.succ_pos i
    | some bus =>
        have hpositive : 0 < requestId.responseSize.toNat := by
          rw [← hi]
          exact Nat.succ_pos i
        rw [hbus] at h
        exact deliveredReply_length_lt rfl rfl hpositive
          requestId.responseSize_lt h
  rw [requestExchange_response, getD_overwrite, if_neg (by lia)]

end Exchange

/-!
## Calls that are safe
-/

section Safe

variable (port : Port device) (s : OperationState device app)
  (stack : CallStack)

/-- The device carries the exchange out and does not acknowledge the request
under another identifier, or it does not and no acknowledgement happens to be on
the stack where one is expected. -/
def RequestSafe (requestId : HubAppLayerRequestId) (payload : List UInt8) :
    Prop :=
  if carriedOut port s stack requestId payload then
    (requestId.hasAck = true ->
      (replyTo port s stack requestId payload).getD 1 0 = ackByte) ->
    (replyTo port s stack requestId payload).getD 0 0 = requestId.code
  else requestId.hasAck = true ∧ stack.appResponse.getD 1 0 ≠ ackByte

/-- No call stops the pipeline under an active feature, and the exchanges that
calls come to are safe. -/
def CallSafe (call : KtCall × CallStack) : Prop :=
  match call.1 with
  | .startPipeline => True
  | .stopPipeline =>
      s.features.faceIdMonitoringActive = false ∧
        s.features.qrMonitorActive = false
  | .startFaceIdentification =>
      s.features.pipelineRunning = true ->
        RequestSafe port s call.2 .startFaceIdentification []
  | .stopFaceIdentification =>
      s.features.faceIdMonitoringActive = true ->
        RequestSafe port s call.2 .stopFaceIdentification []
  | .startQrMonitor =>
      s.features.pipelineRunning = true ->
        RequestSafe port s call.2 .startQrMonitoring []
  | .stopQrMonitor =>
      s.features.qrMonitorActive = true ->
        RequestSafe port s call.2 .stopQrMonitoring []
  | .generateFaceIdAsync handler =>
      handler = true -> s.features.faceIdMonitoringActive = true ->
        RequestSafe port s call.2 .generateFaceId []
  | .deleteFaceIdAsync faceId =>
      RequestSafe port s call.2 .deleteFaceId
        (0 :: u16Bytes (UInt16.ofNat faceId.toNat))

variable {port s stack}

theorem reported_sound_iff {requestId : HubAppLayerRequestId}
    {features : KtFeatures} {result : ExchangeResult device app}
    (hs : s.Sound) (hfeatures : features.Consistent) :
    (reported s requestId features result).Sound <->
      SuccessReport.Justified
        ⟨requestId, result.ret, result.data.pAppResponse.getD []⟩ := by
  simp only [OperationState.Sound, reported, List.mem_append,
    List.mem_singleton, or_imp, forall_and, forall_eq, hfeatures, and_true]
  exact and_iff_right hs.1

/-- What a call makes of its exchange is earned exactly when the exchange is
safe, provided that the assertion on the acknowledgement holds. -/
theorem justified_iff_requestSafe {requestId : HubAppLayerRequestId}
    {payload : List UInt8}
    (hack : requestId.hasAck = true ->
      ((requestExchange port s stack requestId
        payload).data.pAppResponse.getD []).getD 1 0 = ackByte) :
    SuccessReport.Justified
        ⟨requestId, (requestExchange port s stack requestId payload).ret,
          (requestExchange port s stack requestId
            payload).data.pAppResponse.getD []⟩ <->
      RequestSafe port s stack requestId payload := by
  unfold SuccessReport.Justified RequestSafe
  rw [requestExchange_ret]
  cases hcarried : carriedOut port s stack requestId payload with
  | true =>
      have hone := requestId.one_lt_responseSize
      have hid := response_of_carriedOut port s stack requestId payload
        (Nat.lt_of_succ_lt hone) hcarried
      have hnext := response_of_carriedOut port s stack requestId payload hone
        hcarried
      rw [hnext] at hack
      simp only [hid, hnext, true_and, if_true]
      constructor
      · intro h _
        exact h.1
      · intro h
        exact ⟨h hack, hack⟩
  | false =>
      simp only [Bool.false_eq_true, false_and, if_false, false_iff, not_and,
        not_not]
      intro hhas
      have hlast := response_of_not_carriedOut port s stack requestId payload
        (i := 1) (HubAppLayerRequestId.responseSize_of_hasAck hhas).symm hcarried
      rw [← hlast]
      exact hack hhas

theorem requestSafe_of_ne_ack {requestId : HubAppLayerRequestId}
    {payload : List UInt8} (hhas : requestId.hasAck = true)
    (h : ((requestExchange port s stack requestId
      payload).data.pAppResponse.getD []).getD 1 0 ≠ ackByte) :
    RequestSafe port s stack requestId payload := by
  unfold RequestSafe
  cases hcarried : carriedOut port s stack requestId payload with
  | true =>
      rw [response_of_carriedOut port s stack requestId payload
        requestId.one_lt_responseSize hcarried] at h
      rw [if_pos rfl]
      intro hack
      exact absurd (hack hhas) h
  | false =>
      rw [response_of_not_carriedOut port s stack requestId payload
        (HubAppLayerRequestId.responseSize_of_hasAck hhas).symm hcarried] at h
      rw [if_neg Bool.false_ne_true]
      exact ⟨hhas, h⟩

/-- A call with an acknowledgement keeps the state sound exactly when its
exchange, if it comes to that, is safe. -/
theorem acknowledgedCall_sound_iff {requestId : HubAppLayerRequestId}
    {payload : List UInt8} {ready : KtFeatures -> Bool}
    {update : KtFeatures -> KtFeatures} (hs : s.Sound)
    (hhas : requestId.hasAck = true)
    (hupdate : forall features : KtFeatures, features.Consistent ->
      ready features = true -> (update features).Consistent) :
    (acknowledgedCall port s stack requestId payload ready update).Sound <->
      (ready s.features = true -> RequestSafe port s stack requestId payload) := by
  unfold acknowledgedCall
  cases hready : ready s.features with
  | false =>
      have hkept : s.assertFailed.Sound := hs
      simpa using hkept
  | true =>
      simp only [Bool.not_true, Bool.false_eq_true, if_false, true_implies]
      by_cases hack : ((requestExchange port s stack requestId
          payload).data.pAppResponse.getD []).getD 1 0 = ackByte
      · rw [if_neg (not_not_intro hack),
          reported_sound_iff hs (hupdate _ hs.2 hready)]
        exact justified_iff_requestSafe fun _ => hack
      · rw [if_pos hack]
        exact iff_of_true hs (requestSafe_of_ne_ack hhas hack)

theorem ktGenerateFaceIdAsync_sound_iff {handler : Bool} (hs : s.Sound) :
    (ktGenerateFaceIdAsync port s stack handler).Sound <->
      (handler = true -> s.features.faceIdMonitoringActive = true ->
        RequestSafe port s stack .generateFaceId []) := by
  have hkept : s.assertFailed.Sound := hs
  unfold ktGenerateFaceIdAsync
  cases handler with
  | false =>
      simpa using hkept
  | true =>
      cases hactive : s.features.faceIdMonitoringActive with
      | false =>
          simpa using hkept
      | true =>
          simp only [Bool.not_true, Bool.false_eq_true, if_false, true_implies]
          rw [reported_sound_iff hs hs.2]
          exact justified_iff_requestSafe fun hhas => by cases hhas

theorem ktStartPipeline_sound (hs : s.Sound) : (ktStartPipeline s).Sound := by
  unfold ktStartPipeline
  split
  · exact hs
  · exact ⟨hs.1, fun _ => rfl⟩

/-- Stopping the pipeline keeps the flags consistent exactly when no feature is
active. -/
theorem ktStopPipeline_sound_iff (hs : s.Sound) :
    (ktStopPipeline s).Sound <->
      s.features.faceIdMonitoringActive = false ∧
        s.features.qrMonitorActive = false := by
  have hconsistent := hs.2
  unfold ktStopPipeline
  unfold KtFeatures.Consistent at hconsistent
  cases hrunning : s.features.pipelineRunning with
  | false =>
      rw [hrunning] at hconsistent
      simp only [Bool.not_false, if_true, hs, true_iff]
      simpa using hconsistent
  | true =>
      simp only [Bool.not_true, Bool.false_eq_true, if_false,
        OperationState.Sound, KtFeatures.Consistent, imp_false, not_or,
        Bool.not_eq_true]
      exact and_iff_right hs.1

theorem ktCall_sound_iff (s : OperationState device app)
    (call : KtCall × CallStack) (s' : OperationState device app)
    (hs : s.Sound) (hcall : ktCall port s call = some s') :
    s'.Sound <-> CallSafe port s call := by
  rw [ktCall] at hcall
  cases hstopped : s.stopped with
  | true =>
      simp [hstopped] at hcall
  | false =>
      simp only [hstopped, Bool.false_eq_true, if_false,
        Option.some.injEq] at hcall
      unfold CallSafe
      cases hkind : call.1 with
      | startPipeline =>
          rw [hkind] at hcall
          subst hcall
          exact iff_of_true (ktStartPipeline_sound hs) trivial
      | stopPipeline =>
          rw [hkind] at hcall
          subst hcall
          exact ktStopPipeline_sound_iff hs
      | startFaceIdentification =>
          rw [hkind] at hcall
          subst hcall
          exact acknowledgedCall_sound_iff hs rfl fun _ _ hready _ => hready
      | stopFaceIdentification =>
          rw [hkind] at hcall
          subst hcall
          refine acknowledgedCall_sound_iff hs rfl fun features hfeatures _ => ?_
          rintro (hface | hqr)
          · cases hface
          · exact hfeatures (Or.inr hqr)
      | startQrMonitor =>
          rw [hkind] at hcall
          subst hcall
          exact acknowledgedCall_sound_iff hs rfl fun _ _ hready _ => hready
      | stopQrMonitor =>
          rw [hkind] at hcall
          subst hcall
          refine acknowledgedCall_sound_iff hs rfl fun features hfeatures _ => ?_
          rintro (hface | hqr)
          · exact hfeatures (Or.inl hface)
          · cases hqr
      | generateFaceIdAsync handler =>
          rw [hkind] at hcall
          subst hcall
          exact ktGenerateFaceIdAsync_sound_iff hs
      | deleteFaceIdAsync faceId =>
          rw [hkind] at hcall
          subst hcall
          have hdelete : (ktDeleteFaceIdAsync port s call.2 faceId).Sound <->
              (true = true -> RequestSafe port s call.2 .deleteFaceId
                (0 :: u16Bytes (UInt16.ofNat faceId.toNat))) :=
            acknowledgedCall_sound_iff hs rfl fun _ hfeatures _ => hfeatures
          exact hdelete.trans ⟨fun h => h rfl, fun h _ => h⟩

end Safe

/-- In every run of calls after `Kt_Init` success is reported only where it was
earned, and features are active only on a running pipeline, exactly when every
call is safe. -/
theorem ktCalls_sound_iff (port : Port device) (gard : HubGardInfo app)
    (line : BusLine device) (calls : List (KtCall × CallStack)) :
    (forall s, s ∈ reachedStates (ktCall port) (ktInitialised gard line) calls ->
        s.Sound) <->
      RunMeets (ktCall port) (CallSafe port) (ktInitialised gard line) calls := by
  have hstart : (ktInitialised gard line).Sound := by
    refine ⟨fun report hreport => ?_, fun h => ?_⟩
    · cases hreport
    · rcases h with h | h <;> cases h
  exact reachedStates_all_iff
    (fun s call s' hs hcall => ktCall_sound_iff s call s' hs hcall) hstart calls

/-- A stack that holds the given bytes in front. -/
def stackWith (front : List UInt8) : CallStack where
  appResponse := (front ++ List.replicate gardAppLayerResponsesSize 0).take
    gardAppLayerResponsesSize
  hubResponse := [0, 0, 0, 0]
  appResponse_length := by
    simp

/-- A response whose read fails, and an acknowledgement that an earlier call has
left on the stack: the library reports that it has started the identification of
faces.  A device that answers, and a pipeline that is stopped then: the
identification stays active. -/
theorem ktCalls_unsound :
    (exists s, runActions (ktCall streamPort)
        (ktInitialised (readyGard none : HubGardInfo Unit) (streamLine []))
        [(.startPipeline, stackWith []),
          (.startFaceIdentification, stackWith [0x04, 0xAC])] = some s ∧
      s.features.faceIdMonitoringActive = true ∧ ¬ s.Sound) ∧
    (exists s, runActions (ktCall streamPort)
        (ktInitialised (readyGard none : HubGardInfo Unit)
          (streamLine [8, 2, 0, 0, 0x04, 0xAC]))
        [(.startPipeline, stackWith []),
          (.startFaceIdentification, stackWith []),
          (.stopPipeline, stackWith [])] = some s ∧
      s.features = ⟨false, true, false⟩ ∧ ¬ s.Sound) := by
  constructor
  · have hrun : (runActions (ktCall streamPort)
        (ktInitialised (readyGard none : HubGardInfo Unit) (streamLine []))
        [(.startPipeline, stackWith []),
          (.startFaceIdentification, stackWith [0x04, 0xAC])]).map
            (fun s => (s.features.faceIdMonitoringActive,
              s.reports.map SuccessReport.hubReturned)) =
          some (true, [false]) := by
      decide +kernel
    rcases Option.map_eq_some_iff.mp hrun with ⟨s, hs, hend⟩
    rcases Prod.mk.inj hend with ⟨hactive, hreports⟩
    refine ⟨s, hs, hactive, fun hsound => ?_⟩
    have hfailed : false ∈ s.reports.map SuccessReport.hubReturned := by
      rw [hreports]
      exact List.mem_singleton.mpr rfl
    rcases List.mem_map.mp hfailed with ⟨report, hreport, hreturned⟩
    have hjustified := (hsound.1 report hreport).1
    rw [hreturned] at hjustified
    cases hjustified
  · have hrun : (runActions (ktCall streamPort)
        (ktInitialised (readyGard none : HubGardInfo Unit)
          (streamLine [8, 2, 0, 0, 0x04, 0xAC]))
        [(.startPipeline, stackWith []),
          (.startFaceIdentification, stackWith []),
          (.stopPipeline, stackWith [])]).map OperationState.features =
          some ⟨false, true, false⟩ := by
      decide +kernel
    rcases Option.map_eq_some_iff.mp hrun with ⟨s, hs, hfeatures⟩
    refine ⟨s, hs, hfeatures, fun hsound => ?_⟩
    have hrunning := hsound.2
    rw [hfeatures] at hrunning
    cases hrunning (Or.inl rfl)

end KtLib
end GardHub
