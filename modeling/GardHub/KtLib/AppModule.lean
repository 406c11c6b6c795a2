import GardHub.Hub.RemoteGard
import GardHub.KtLib.Lifecycle

/-!
# The library and its App Module

The features of the library are switched on a GARD, where an App Module keeps
them.  The library goes by flags of its own.  Over a line to a GARD with such a
module the flags are the features of the module, and whatever is on the stack,
the library does what the module has acknowledged.
-/

namespace GardHub
namespace KtLib

open Foundation
open Dal
open Interface
open Hub

variable {app memory : Type}

/-!
## The module
-/

/-- The features that an App Module runs. -/
structure ModuleFeatures where
  faceIdentification : Bool
  qrMonitoring : Bool
deriving DecidableEq

/-- The features behind a request that is acknowledged. -/
def ModuleFeatures.switched (features : ModuleFeatures) :
    HubAppLayerRequestId -> ModuleFeatures
  | .startFaceIdentification => { features with faceIdentification := true }
  | .stopFaceIdentification => { features with faceIdentification := false }
  | .startQrMonitoring => { features with qrMonitoring := true }
  | .stopQrMonitoring => { features with qrMonitoring := false }
  | .generateFaceId => features
  | .deleteFaceId => features

/-- The reply of an App Module to a request, behind the header of the GARD, and
the memory of the GARD afterwards. -/
def moduleReply (fw : GardFirmware memory) (m : memory)
    (requestId : HubAppLayerRequestId) (payload : List UInt8) :
    List UInt8 × memory :=
  let answered := fw.answer m (.appLayerRequest (requestId.code :: payload))
  (answered.1.drop 4, answered.2)

/-- A firmware with an App Module, which replies in the size of the interface
and switches what it acknowledges. -/
structure AppModule (fw : GardFirmware memory) where
  features : memory -> ModuleFeatures
  response_size : forall (requestId : HubAppLayerRequestId) payload,
    fw.appResponseSize (requestId.code :: payload) =
      requestId.responseSize.toNat
  switches : forall m requestId payload,
    features (moduleReply fw m requestId payload).2 =
      if requestId.hasAck = true ∧
          (moduleReply fw m requestId payload).1.getD 1 0 = ackByte then
        (features m).switched requestId
      else features m

theorem AppModule.reply_length {fw : GardFirmware memory}
    (module : AppModule fw) (m : memory) (requestId : HubAppLayerRequestId)
    (payload : List UInt8) :
    (moduleReply fw m requestId payload).1.length =
      requestId.responseSize.toNat := by
  rw [moduleReply, List.length_drop, fw.appLayer_length, module.response_size,
    Nat.add_sub_cancel_left]

/-!
## Calls of the module
-/

/-- What the calls come to on the side of the GARD: whether the pipeline runs,
the memory of the GARD, the replies of which the App was told, and whether an
assertion has failed. -/
structure ModuleSession (memory : Type) where
  pipelineRunning : Bool
  memory : memory
  told : List (HubAppLayerRequestId × List UInt8)
  stopped : Bool
deriving DecidableEq

/-- A request that is made if a condition holds, and that a reply without an
acknowledgement ends. -/
def ModuleSession.request (fw : GardFirmware memory) (t : ModuleSession memory)
    (requestId : HubAppLayerRequestId) (payload : List UInt8) (ready : Bool) :
    ModuleSession memory :=
  if !ready then { t with stopped := true }
  else
    let reply := moduleReply fw t.memory requestId payload
    if requestId.hasAck = true ∧ reply.1.getD 1 0 ≠ ackByte then
      { t with memory := reply.2, stopped := true }
    else
      { t with memory := reply.2, told := t.told ++ [(requestId, reply.1)] }

/-- A call, which goes by what the module runs. -/
def AppModule.call {fw : GardFirmware memory} (module : AppModule fw)
    (t : ModuleSession memory) : KtCall -> ModuleSession memory
  | .startPipeline => { t with pipelineRunning := true }
  | .stopPipeline => { t with pipelineRunning := false }
  | .startFaceIdentification =>
      t.request fw .startFaceIdentification [] t.pipelineRunning
  | .stopFaceIdentification =>
      t.request fw .stopFaceIdentification []
        (module.features t.memory).faceIdentification
  | .startQrMonitor => t.request fw .startQrMonitoring [] t.pipelineRunning
  | .stopQrMonitor =>
      t.request fw .stopQrMonitoring [] (module.features t.memory).qrMonitoring
  | .generateFaceIdAsync handler =>
      t.request fw .generateFaceId []
        (handler && (module.features t.memory).faceIdentification)
  | .deleteFaceIdAsync faceId =>
      t.request fw .deleteFaceId (0 :: u16Bytes (UInt16.ofNat faceId.toNat)) true

/-- A call on the side of the GARD, which has no stack. -/
def AppModule.step {fw : GardFirmware memory} (module : AppModule fw)
    (t : ModuleSession memory) (call : KtCall × CallStack) :
    Option (ModuleSession memory) :=
  if t.stopped then none else some (module.call t call.1)

/-!
## The library follows the module
-/

/-- What the App was told of, up to the bytes behind the reply. -/
def SuccessReport.told (report : SuccessReport) :
    HubAppLayerRequestId × Bool × List UInt8 :=
  (report.requestId, report.hubReturned,
    report.response.take report.requestId.responseSize.toNat)

/-- The library is where the module is: the line is quiet, its flags are the
features of the module, and its reports are the replies of the module. -/
structure Follows {fw : GardFirmware memory} (module : AppModule fw)
    (s : OperationState (Receiver (RemoteGard memory)) app)
    (t : ModuleSession memory) : Prop where
  line_eq : s.line.state = quietGard t.memory
  bus : exists bus, s.gard.activeDalBus = some bus ∧ bus.busType = .uart
  features_eq : s.features =
    ⟨t.pipelineRunning, (module.features t.memory).faceIdentification,
      (module.features t.memory).qrMonitoring⟩
  stopped_eq : s.stopped = t.stopped
  told_eq : s.reports.map SuccessReport.told =
    t.told.map fun reply => (reply.1, true, reply.2)

section Requests

variable {fw : GardFirmware memory} {module : AppModule fw}
  {s : OperationState (Receiver (RemoteGard memory)) app}
  {t : ModuleSession memory}

/-- An exchange of the library is a request to the module, whose reply it finds
in front of its response structure. -/
theorem Follows.exchange (h : Follows module s t) (stack : CallStack)
    (requestId : HubAppLayerRequestId) {payload : List UInt8}
    (hpayload : payload.length ≤ 3) :
    (requestExchange fw.port s stack requestId payload).ret = true ∧
      (requestExchange fw.port s stack requestId payload).line.state =
        quietGard (moduleReply fw t.memory requestId payload).2 ∧
      (requestExchange fw.port s stack requestId payload).gard.activeDalBus =
        s.gard.activeDalBus ∧
      (requestExchange fw.port s stack requestId
          payload).data.pAppResponse.getD [] =
        overwrite stack.appResponse 0
          (moduleReply fw t.memory requestId payload).1 := by
  rcases h.bus with ⟨bus, hactive, hbus⟩
  have hsize : (UInt32.ofNat (payload.length + 1)).toNat = payload.length + 1 :=
    UInt32.toNat_ofNat_of_lt' (show payload.length + 1 < 2 ^ 32 by lia)
  have hagreed : HubCall.Agreed fw (.appLayerRequest
      (some (requestId.code :: payload)) (UInt32.ofNat (payload.length + 1))
      (some stack.appResponse) requestId.responseSize stack.hubResponse) := by
    refine ⟨hsize.symm, ?_, requestId.responseSize_lt, ?_⟩
    · rw [hsize]
      lia
    · exact module.response_size requestId payload
  rcases hubAppLayerRequest_called rfl hagreed hactive hbus h.line_eq
    with ⟨⟨hret, hline, hgard⟩, hbuffer⟩
  refine ⟨hret, hline, hgard, ?_⟩
  exact congrArg (fun response => response.getD []) hbuffer

/-- What the reports take of a reply in a response structure. -/
theorem take_overwrite_reply (module : AppModule fw) (stack : CallStack)
    (m : memory) (requestId : HubAppLayerRequestId) (payload : List UInt8) :
    (overwrite stack.appResponse 0
        (moduleReply fw m requestId payload).1).take
        requestId.responseSize.toNat =
      (moduleReply fw m requestId payload).1 := by
  rw [overwrite_zero]
  exact List.take_left' (module.reply_length m requestId payload)

/-- A success that is reported behind an exchange was the module's. -/
theorem Follows.reported (h : Follows module s t) (stack : CallStack)
    {requestId : HubAppLayerRequestId} {payload : List UInt8}
    (hpayload : payload.length ≤ 3) {features : KtFeatures}
    (hfeatures : features =
      ⟨t.pipelineRunning,
        (module.features (moduleReply fw t.memory requestId
          payload).2).faceIdentification,
        (module.features (moduleReply fw t.memory requestId
          payload).2).qrMonitoring⟩) :
    Follows module
      (KtLib.reported s requestId features
        (requestExchange fw.port s stack requestId payload))
      { t with
        memory := (moduleReply fw t.memory requestId payload).2
        told := t.told ++
          [(requestId, (moduleReply fw t.memory requestId payload).1)] } := by
  rcases h.exchange stack requestId hpayload
    with ⟨hret, hline, hgard, hbuffer⟩
  constructor
  · exact hline
  · rw [KtLib.reported, hgard]
    exact h.bus
  · exact hfeatures
  · exact h.stopped_eq
  · have htold : SuccessReport.told
        ⟨requestId, (requestExchange fw.port s stack requestId payload).ret,
          (requestExchange fw.port s stack requestId
            payload).data.pAppResponse.getD []⟩ =
        (requestId, true, (moduleReply fw t.memory requestId payload).1) := by
      rw [SuccessReport.told, hret, hbuffer, take_overwrite_reply module]
    rw [KtLib.reported, List.map_append, List.map_append, h.told_eq,
      List.map_singleton, List.map_singleton, htold]

theorem Follows.assertFailed (h : Follows module s t) :
    Follows module s.assertFailed { t with stopped := true } :=
  ⟨h.line_eq, h.bus, h.features_eq, rfl, h.told_eq⟩

/-- A call with an acknowledgement is a request to the module, if its condition
on the flags is the module's and it updates the flags as the module switches its
features. -/
theorem Follows.acknowledged (h : Follows module s t) (stack : CallStack)
    {requestId : HubAppLayerRequestId} (hack : requestId.hasAck = true)
    {payload : List UInt8} (hpayload : payload.length ≤ 3)
    {ready : KtFeatures -> Bool} {update : KtFeatures -> KtFeatures}
    {moduleReady : Bool} (hready : ready s.features = moduleReady)
    (hupdate : forall features : ModuleFeatures,
      update ⟨t.pipelineRunning, features.faceIdentification,
          features.qrMonitoring⟩ =
        ⟨t.pipelineRunning, (features.switched requestId).faceIdentification,
          (features.switched requestId).qrMonitoring⟩) :
    Follows module
      (acknowledgedCall fw.port s stack requestId payload ready update)
      (t.request fw requestId payload moduleReady) := by
  subst hready
  unfold acknowledgedCall ModuleSession.request
  cases hcond : ready s.features with
  | false =>
      exact h.assertFailed
  | true =>
      rcases h.exchange stack requestId hpayload
        with ⟨-, hline, hgard, hbuffer⟩
      have hone : 1 < (moduleReply fw t.memory requestId payload).1.length := by
        rw [module.reply_length]
        exact requestId.one_lt_responseSize
      have hbyte : ((requestExchange fw.port s stack requestId
          payload).data.pAppResponse.getD []).getD 1 0 =
            (moduleReply fw t.memory requestId payload).1.getD 1 0 := by
        rw [hbuffer, getD_overwrite, if_pos hone]
      have hswitch := module.switches t.memory requestId payload
      simp only [Bool.not_true, Bool.false_eq_true, if_false, hbyte, hack,
        true_and] at hswitch ⊢
      by_cases hacked :
          (moduleReply fw t.memory requestId payload).1.getD 1 0 = ackByte
      · rw [if_pos hacked] at hswitch
        rw [if_neg (not_not_intro hacked), if_neg (not_not_intro hacked)]
        apply h.reported stack hpayload
        rw [h.features_eq, hupdate, hswitch]
      · rw [if_neg hacked] at hswitch
        rw [if_pos hacked, if_pos hacked]
        constructor
        · exact hline
        · exact hgard ▸ h.bus
        · rw [hswitch]
          exact h.features_eq
        · rfl
        · exact h.told_eq

theorem Follows.generateFaceId (h : Follows module s t) (stack : CallStack)
    (handler : Bool) :
    Follows module (ktGenerateFaceIdAsync fw.port s stack handler)
      (t.request fw .generateFaceId []
        (handler && (module.features t.memory).faceIdentification)) := by
  have hactive : s.features.faceIdMonitoringActive =
      (module.features t.memory).faceIdentification := by
    rw [h.features_eq]
  unfold ktGenerateFaceIdAsync ModuleSession.request
  rw [hactive]
  cases handler with
  | false =>
      exact h.assertFailed
  | true =>
      cases (module.features t.memory).faceIdentification with
      | false =>
          exact h.assertFailed
      | true =>
          have hswitch : module.features
              (moduleReply fw t.memory .generateFaceId []).2 =
                module.features t.memory := by
            rw [module.switches, if_neg (fun hhas => Bool.false_ne_true hhas.1)]
          apply h.reported stack (by simp)
          rw [h.features_eq, hswitch]

theorem Follows.pipeline (h : Follows module s t) (running : Bool) :
    Follows module
      { s with features := { s.features with pipelineRunning := running } }
      { t with pipelineRunning := running } :=
  ⟨h.line_eq, h.bus, by rw [h.features_eq], h.stopped_eq, h.told_eq⟩

theorem ktStartPipeline_eq
    (s : OperationState (Receiver (RemoteGard memory)) app) :
    ktStartPipeline s =
      { s with features := { s.features with pipelineRunning := true } } := by
  rcases s with ⟨⟨running, face, qr⟩, gard, line, reports, stopped⟩
  cases running <;> rfl

theorem ktStopPipeline_eq
    (s : OperationState (Receiver (RemoteGard memory)) app) :
    ktStopPipeline s =
      { s with features := { s.features with pipelineRunning := false } } := by
  rcases s with ⟨⟨running, face, qr⟩, gard, line, reports, stopped⟩
  cases running <;> rfl

theorem Follows.startFaceIdentification (h : Follows module s t)
    (stack : CallStack) :
    Follows module (ktStartFaceIdentification fw.port s stack)
      (module.call t .startFaceIdentification) :=
  h.acknowledged stack rfl (by simp)
    (congrArg KtFeatures.pipelineRunning h.features_eq) fun _ => rfl

theorem Follows.stopFaceIdentification (h : Follows module s t)
    (stack : CallStack) :
    Follows module (ktStopFaceIdentification fw.port s stack)
      (module.call t .stopFaceIdentification) :=
  h.acknowledged stack rfl (by simp)
    (congrArg KtFeatures.faceIdMonitoringActive h.features_eq) fun _ => rfl

theorem Follows.startQrMonitor (h : Follows module s t) (stack : CallStack) :
    Follows module (ktStartQrMonitor fw.port s stack)
      (module.call t .startQrMonitor) :=
  h.acknowledged stack rfl (by simp)
    (congrArg KtFeatures.pipelineRunning h.features_eq) fun _ => rfl

theorem Follows.stopQrMonitor (h : Follows module s t) (stack : CallStack) :
    Follows module (ktStopQrMonitor fw.port s stack)
      (module.call t .stopQrMonitor) :=
  h.acknowledged stack rfl (by simp)
    (congrArg KtFeatures.qrMonitorActive h.features_eq) fun _ => rfl

theorem Follows.startPipeline (h : Follows module s t) :
    Follows module (ktStartPipeline s) (module.call t .startPipeline) := by
  rw [ktStartPipeline_eq]
  exact h.pipeline true

theorem Follows.stopPipeline (h : Follows module s t) :
    Follows module (ktStopPipeline s) (module.call t .stopPipeline) := by
  rw [ktStopPipeline_eq]
  exact h.pipeline false

/-- Every call of the library is a call on the side of the GARD, and one that is
not made there is not made here. -/
theorem Follows.step (h : Follows module s t) (call : KtCall × CallStack) :
    Option.Rel (Follows module) (ktCall fw.port s call)
      (module.step t call) := by
  unfold ktCall AppModule.step
  rw [h.stopped_eq]
  cases t.stopped with
  | true =>
      exact .none
  | false =>
      apply Option.Rel.some
      cases call.1 with
      | startPipeline =>
          exact h.startPipeline
      | stopPipeline =>
          exact h.stopPipeline
      | startFaceIdentification =>
          exact h.startFaceIdentification call.2
      | stopFaceIdentification =>
          exact h.stopFaceIdentification call.2
      | startQrMonitor =>
          exact h.startQrMonitor call.2
      | stopQrMonitor =>
          exact h.stopQrMonitor call.2
      | generateFaceIdAsync handler =>
          exact h.generateFaceId call.2 handler
      | deleteFaceIdAsync faceId =>
          exact h.acknowledged call.2 rfl (by simp [u16Bytes]) rfl fun _ => rfl

end Requests

/-!
## From `Kt_Init` to `Kt_Fini`
-/

/-- A call that is made if a flag asks for it, unless an assertion has failed. -/
def ModuleSession.callIf (flag : Bool)
    (call : ModuleSession memory -> ModuleSession memory)
    (t : ModuleSession memory) : ModuleSession memory :=
  if flag && !t.stopped then call t else t

/-- What `Kt_Init` starts by itself. -/
def AppModule.autoStart {fw : GardFirmware memory} (module : AppModule fw)
    (cfg : KtConfig) (t : ModuleSession memory) : ModuleSession memory :=
  let t := t.callIf cfg.autoStartPipeline (module.call · .startPipeline)
  let t := t.callIf cfg.autoStartFaceIdDetect
    (module.call · .startFaceIdentification)
  t.callIf cfg.autoStartQrMonitor (module.call · .startQrMonitor)

/-- What `Kt_Fini` stops. -/
def AppModule.fini {fw : GardFirmware memory} (module : AppModule fw)
    (t : ModuleSession memory) : ModuleSession memory :=
  let t := t.callIf (module.features t.memory).qrMonitoring
    (module.call · .stopQrMonitor)
  let t := t.callIf (module.features t.memory).faceIdentification
    (module.call · .stopFaceIdentification)
  t.callIf true (module.call · .stopPipeline)

section Sessions

variable {fw : GardFirmware memory} {module : AppModule fw}
  {s : OperationState (Receiver (RemoteGard memory)) app}
  {t : ModuleSession memory}

theorem Follows.callIf (h : Follows module s t) (flag : Bool)
    {call : OperationState (Receiver (RemoteGard memory)) app ->
      OperationState (Receiver (RemoteGard memory)) app}
    {call' : ModuleSession memory -> ModuleSession memory}
    (hcall : forall s t, Follows module s t ->
      Follows module (call s) (call' t)) :
    Follows module (KtLib.callIf flag call s) (t.callIf flag call') := by
  unfold KtLib.callIf ModuleSession.callIf
  rw [h.stopped_eq]
  split
  · exact hcall s t h
  · exact h

theorem Follows.autoStart (h : Follows module s t)
    (input : KtInitInput (Receiver (RemoteGard memory)) app) :
    Follows module (ktAutoStart fw.port input s)
      (module.autoStart input.cfg t) :=
  ((h.callIf input.cfg.autoStartPipeline fun _ _ h => h.startPipeline).callIf
    input.cfg.autoStartFaceIdDetect
    fun _ _ h => h.startFaceIdentification input.faceStack).callIf
    input.cfg.autoStartQrMonitor fun _ _ h => h.startQrMonitor input.qrStack

theorem Follows.fini (h : Follows module s t) (finiStacks : FiniStacks) :
    Follows module (ktFiniOps fw.port finiStacks s) (module.fini t) := by
  have hqr := h.callIf s.features.qrMonitorActive
    fun _ _ h => h.stopQrMonitor finiStacks.qr
  have hface := hqr.callIf (KtLib.callIf s.features.qrMonitorActive
      (fun s => ktStopQrMonitor fw.port s finiStacks.qr)
      s).features.faceIdMonitoringActive
    fun _ _ h => h.stopFaceIdentification finiStacks.face
  have hpipeline := hface.callIf true fun _ _ h => h.stopPipeline
  rw [hqr.features_eq, h.features_eq] at hpipeline
  rw [ktFiniOps, AppModule.fini, hqr.features_eq, h.features_eq]
  exact hpipeline

end Sessions

/-!
## A module
-/

end KtLib
end GardHub
