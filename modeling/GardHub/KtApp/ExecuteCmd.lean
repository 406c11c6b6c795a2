import GardHub.KtApp.FreedContext
import GardHub.KtApp.Mailbox
import GardHub.KtApp.Wire
import GardHub.KtLib.Acknowledgements

/-!
# What a command is answered with

`kt_app_execute_cmd` of the hardware build, with what happens to be on its stack
when it is called.  Where the source reads a variable before it sets it, and
where a call of the library takes an acknowledgement that has not been
delivered, the answer is made of that.
-/

namespace GardHub
namespace KtApp

open Foundation
open Dal
open Interface
open Hub
open KtLib

variable {device app : Type}

/-!
## The function
-/

/-- `KT_OK`, which the application takes for `KT_APP_SUCCESS`. -/
def ktOk : Int := 0

/-- What `kt_app_execute_cmd` works on: the library behind `kt_handle`, the face
database with its file, the shared memory, and the flag for the end. -/
structure ExecState (device app : Type) where
  lib : KtLibrary device app
  faceDb : FaceDb
  faceDbFile : List UInt8
  shmem : KtAppShmem
  shouldExit : Bool

/-- What is on the stack at first: in the place of `ret_code`, and where the calls
of the library put their structures. -/
structure ExecStack where
  retCode : UInt32
  call : CallStack
  fini : FiniStacks

/-- A call of the library, which does not return if an assertion fails. -/
def callKtLib (port : Port device) (call : KtCall × CallStack)
    (lib : KtLibrary device app) : Option (KtLibrary device app) :=
  (ktLibStep port lib (.call call)).bind fun lib =>
    if (lib.ktCtxt.map fun ctxt => ctxt.ops.stopped).getD false then none
    else some lib

/-- The response structure of the call that was last reported as a success. -/
def lastResponse (lib : KtLibrary device app) : List UInt8 :=
  (lib.ktCtxt.bind fun ctxt =>
    ctxt.ops.reports.getLast?.map SuccessReport.response).getD []

/-- `generate_face_id_response.face_id` -/
def generatedFaceId (response : List UInt8) : UInt32 :=
  UInt32.ofNat (fieldValue response 2 2)

namespace ExecState

/-- `kt_app_generate_face_id_done_cb`, as far as it concerns the shared memory
and the database. -/
def generateFaceIdDone (s : ExecState device app) (faceId : UInt32)
    (opStatus : Int) : ExecState device app :=
  { s with
    shmem := { s.shmem with
      response :=
        { cmd := .generateFaceIdAsync
          retCode := ktAppSuccess
          payload := .generateFaceIdAsync faceId opStatus } }
    faceDb :=
      if opStatus = ktAppSuccess then
        (ktAppFaceDbAddFaceProfile s.faceDb faceId defaultFaceName).2
      else s.faceDb }

/-- The update of a profile, which is flushed to disk if it was one. -/
def updateFaceProfile (s : ExecState device app) :
    Int × ExecState device app :=
  let updated := ktAppFaceDbUpdateFaceProfile s.faceDb s.shmem.request.faceId
    (FaceName.ofBytes s.shmem.request.faceName)
  if updated.1 then
    (ktAppSuccess,
      { s with
        faceDb := updated.2
        faceDbFile := ktAppFaceDbFlushToDisk updated.2 })
  else (ktAppErrorGeneric, { s with faceDb := updated.2 })

/-- The profiles go into the response. -/
def listFaceProfiles (s : ExecState device app) : ExecState device app :=
  { s with
    shmem := { s.shmem with
      response := { s.shmem.response with
        payload := .listFaceProfiles s.faceDb.profiles } } }

end ExecState

section Execute

variable (port : Port device) (stack : ExecStack) (s : ExecState device app)

/-- The `switch` of `kt_app_execute_cmd`, with the value of `ret_code` behind it,
unless an assertion fails in front.  The default branch does not set it. -/
def executeSwitch (cmd : KtAppCmd) : Option (Int × ExecState device app) :=
  match cmd with
  | .startPipeline =>
      (callKtLib port (.startPipeline, stack.call) s.lib).map fun lib =>
        (ktOk, { s with lib := lib })
  | .startFaceIdentification =>
      (callKtLib port (.startFaceIdentification, stack.call) s.lib).map
        fun lib => (ktOk, { s with lib := lib })
  | .generateFaceIdAsync =>
      (callKtLib port (.generateFaceIdAsync true, stack.call) s.lib).map
        fun lib =>
          (ktOk, { s with lib := lib }.generateFaceIdDone
            (generatedFaceId (lastResponse lib)) ktOk)
  | .updateFaceProfile => some s.updateFaceProfile
  | .listFaceProfiles => some (ktAppSuccess, s.listFaceProfiles)
  | .startQrMonitor =>
      (callKtLib port (.startQrMonitor, stack.call) s.lib).map fun lib =>
        (ktOk, { s with lib := lib })
  | .exit =>
      (DispatcherRun.exitLib port stack.fini s.lib).map fun lib =>
        (ktOk, { s with lib := lib, shouldExit := true })
  | _ => some (toInt32 stack.retCode.toNat, s)

/-- `kt_app_execute_cmd` of the hardware build. -/
def ktAppExecuteCmd : Option (ExecState device app) :=
  if !s.shmem.cmdPending then some s
  else
    (executeSwitch port stack s s.shmem.request.cmd).map fun result =>
      { result.2 with
        shmem := { result.2.shmem with
          response := { result.2.shmem.response with
            cmd := s.shmem.request.cmd
            retCode := result.1 }
          cmdPending := false } }

/-- The response that is published for a request, if the thread gets there. -/
def publishedResponse (request : KtAppRequest) : Option KtAppResponse :=
  (ktAppExecuteCmd port stack
    { s with shmem := ktAppSendRequest s.shmem request }).map fun s =>
      s.shmem.response

end Execute

/-- The commands that the `switch` has a case for. -/
def KtAppCmd.implemented : KtAppCmd -> Bool
  | .startPipeline | .startFaceIdentification | .generateFaceIdAsync
  | .updateFaceProfile | .listFaceProfiles | .startQrMonitor | .exit => true
  | _ => false

/-- The front of a response: all that a client gets for most commands. -/
def KtAppResponse.header (response : KtAppResponse) : KtAppCmd × Int :=
  (response.cmd, response.retCode)

/-- What a part of the response is, and whether there is one, does not depend on
the stack. -/
def Determined {part : Type} (port : Port device) (s : ExecState device app)
    (request : KtAppRequest) (view : KtAppResponse -> part) : Prop :=
  forall stack stack', (publishedResponse port stack s request).map view =
    (publishedResponse port stack' s request).map view

/-- A command that is not implemented is answered, and not with success. -/
def RefusesUnimplemented (port : Port device) (s : ExecState device app)
    (request : KtAppRequest) : Prop :=
  request.cmd.implemented = false -> forall stack, exists response,
    publishedResponse port stack s request = some response ∧
      response.retCode ≠ ktAppSuccess

/-!
## What the device has to deliver
-/

/-- The library, as long as no assertion has failed. -/
def runningOps (lib : KtLibrary device app) :
    Option (OperationState device app) :=
  lib.ktCtxt.bind fun ctxt => if ctxt.ops.stopped then none else some ctxt.ops

/-- The acknowledgements that a command waits for: what the device says, or
nothing if an exchange is not carried out. -/
def awaitedAcks (port : Port device) (ops : OperationState device app) :
    KtAppCmd -> List (Option Bool)
  | .startFaceIdentification =>
      if ops.features.pipelineRunning then
        [acknowledgement port ops .startFaceIdentification []]
      else []
  | .startQrMonitor =>
      if ops.features.pipelineRunning then
        [acknowledgement port ops .startQrMonitoring []]
      else []
  | .exit => [finiQrAck port ops, finiFaceAck port ops]
  | _ => []

/-- None of the acknowledgements that a command waits for is missing, or one of
them is refused anyway. -/
def AcksSettled (port : Port device) (lib : KtLibrary device app)
    (cmd : KtAppCmd) : Prop :=
  forall ops, runningOps lib = some ops ->
    some false ∈ awaitedAcks port ops cmd ∨ none ∉ awaitedAcks port ops cmd

/-- The reply to the generation of a face identifier goes as far as that. -/
def FaceIdDelivered (port : Port device) (lib : KtLibrary device app)
    (cmd : KtAppCmd) : Prop :=
  cmd = .generateFaceIdAsync -> forall ops, runningOps lib = some ops ->
    ops.features.faceIdMonitoringActive = true ->
    4 ≤ (replyTo port ops zeroStack .generateFaceId []).length

/-!
## Calls of the library
-/

section Calls

variable {port : Port device} {lib : KtLibrary device app}
  {ops : OperationState device app}

theorem stopped_of_runningOps_none (h : runningOps lib = none)
    {ctxt : KtContents device app} (hctxt : lib.ktCtxt = some ctxt) :
    ctxt.ops.stopped = true := by
  by_contra hrunning
  rw [runningOps, hctxt, Option.bind_some, if_neg hrunning] at h
  cases h

/-- Without a library that runs, nothing is done with it. -/
theorem ktLibStep_of_none (h : runningOps lib = none)
    (op : KtLibOp device) : ktLibStep port lib op = none := by
  unfold ktLibStep
  cases hctxt : lib.ktCtxt with
  | none => rfl
  | some ctxt =>
      simp [stopped_of_runningOps_none h hctxt]

theorem callKtLib_of_none (h : runningOps lib = none)
    (call : KtCall × CallStack) : callKtLib port call lib = none := by
  rw [callKtLib, ktLibStep_of_none h]
  rfl

theorem runningOps_running (h : runningOps lib = some ops) :
    exists ctxt, lib.ktCtxt = some ctxt ∧ ctxt.ops = ops ∧
      ops.stopped = false := by
  rcases Option.bind_eq_some_iff.mp h with ⟨ctxt, hctxt, hops⟩
  cases hstopped : ctxt.ops.stopped with
  | true =>
      simp [hstopped] at hops
  | false =>
      simp only [hstopped, Bool.false_eq_true, if_false,
        Option.some.injEq] at hops
      exact ⟨ctxt, hctxt, hops, hops ▸ hstopped⟩

theorem callKtLib_of_some (h : runningOps lib = some ops)
    {call : KtCall × CallStack} {next : OperationState device app}
    (hcall : ktCall port ops call = some next) :
    exists lib' : KtLibrary device app,
      (lib'.ktCtxt.map fun ctxt => ctxt.ops) = some next ∧
        callKtLib port call lib = if next.stopped then none else some lib' := by
  rcases runningOps_running h with ⟨ctxt, hctxt, hops, hstopped⟩
  rw [← hops] at hcall hstopped
  have hstep : ktLibStep port lib (.call call) =
      some { lib with
        ktCtxt := some { ctxt with ops := next }
        released := lib.released ++ [] } := by
    simp [ktLibStep, hctxt, hstopped, KtContents.operate, hcall]
  refine ⟨_, ?_, by rw [callKtLib, hstep]; rfl⟩
  rfl

theorem callKtLib_acknowledged (h : runningOps lib = some ops)
    {call : KtCall} {stack : CallStack} {requestId : HubAppLayerRequestId}
    {update : KtFeatures -> KtFeatures} (hack : requestId.hasAck = true)
    (hcall : ktCall port ops (call, stack) =
      some (acknowledgedCall port ops stack requestId []
        (fun features => features.pipelineRunning) update)) :
    (callKtLib port (call, stack) lib).isSome =
      (ops.features.pipelineRunning &&
        (acknowledgement port ops requestId []).getD stack.ackLeft) := by
  rcases runningOps_running h with ⟨-, -, -, hstopped⟩
  rcases callKtLib_of_some h hcall with ⟨lib', -, hlib⟩
  rw [hlib, acknowledgedCall_stopped port ops stack requestId [] hack hstopped]
  cases ops.features.pipelineRunning &&
    (acknowledgement port ops requestId []).getD stack.ackLeft <;> rfl

theorem exitLib_isSome (h : runningOps lib = some ops)
    (finiStacks : FiniStacks) :
    (DispatcherRun.exitLib port finiStacks lib).isSome =
      ((finiQrAck port ops).getD finiStacks.qr.ackLeft &&
        (finiFaceAck port ops).getD finiStacks.face.ackLeft) := by
  rcases runningOps_running h with ⟨ctxt, hctxt, rfl, hstopped⟩
  have hfini := ktFiniOps_stopped port finiStacks hstopped
  simp only [DispatcherRun.exitLib, ktLibStep, hctxt, Option.bind_some,
    hstopped, Bool.false_eq_true, if_false, KtContents.operate,
    Option.map_some, ktFini, hfini]
  cases (finiQrAck port ctxt.ops).getD finiStacks.qr.ackLeft &&
    (finiFaceAck port ctxt.ops).getD finiStacks.face.ackLeft <;> rfl

theorem exitLib_of_none (h : runningOps lib = none)
    (finiStacks : FiniStacks) :
    DispatcherRun.exitLib port finiStacks lib = none := by
  rw [DispatcherRun.exitLib, ktLibStep_of_none h]
  rfl

end Calls

/-!
## What the stack decides
-/

/-- A call stack with one byte everywhere. -/
def filledStack (byte : UInt8) : CallStack :=
  { appResponse := List.replicate gardAppLayerResponsesSize byte
    hubResponse := []
    appResponse_length := List.length_replicate }

/-- A stack on which acknowledgements happen to be, or not. -/
def leftStack (left : Bool) : CallStack :=
  filledStack (if left then ackByte else 0)

theorem ackLeft_leftStack (left : Bool) :
    (leftStack left).ackLeft = left := by
  cases left <;> rfl

/-- The stack of a command, from what its parts have for acknowledgements. -/
def execStack (call qr face : Bool) : ExecStack :=
  { retCode := 0
    call := leftStack call
    fini := ⟨leftStack qr, leftStack face⟩ }

theorem map_const_eq_iff {α β : Type} {a a' : Option α} {b : β} :
    (a.map fun _ => b) = (a'.map fun _ => b) <-> a.isSome = a'.isSome := by
  cases a <;> cases a' <;> simp

theorem getD_const_iff (ack : Option Bool) :
    (forall left left', ack.getD left = ack.getD left') <->
      some false ∈ [ack] ∨ none ∉ [ack] := by
  revert ack
  decide

theorem getD_and_getD_const_iff (ack ack' : Option Bool) :
    (forall qr face qr' face', (ack.getD qr && ack'.getD face) =
        (ack.getD qr' && ack'.getD face')) <->
      some false ∈ [ack, ack'] ∨ none ∉ [ack, ack'] := by
  revert ack ack'
  decide

theorem acksSettled_of_none {port : Port device} {lib : KtLibrary device app}
    (h : runningOps lib = none) (cmd : KtAppCmd) :
    AcksSettled port lib cmd := by
  intro ops hops
  rw [h] at hops
  cases hops

theorem acksSettled_iff {port : Port device} {lib : KtLibrary device app}
    {ops : OperationState device app} (h : runningOps lib = some ops)
    (cmd : KtAppCmd) :
    AcksSettled port lib cmd <->
      some false ∈ awaitedAcks port ops cmd ∨
        none ∉ awaitedAcks port ops cmd := by
  constructor
  · intro hsettled
    exact hsettled ops h
  · intro hsettled ops' hops'
    rw [h] at hops'
    cases hops'
    exact hsettled

section Returns

variable {port : Port device} {s : ExecState device app}

/-- Whether a call behind a command returns does not depend on the stack if what
it waits for is settled. -/
theorem callKtLib_settled_iff {call : KtCall} {cmd : KtAppCmd}
    (requestId : HubAppLayerRequestId) (update : KtFeatures -> KtFeatures)
    (hack : requestId.hasAck = true)
    (hcall : forall (ops : OperationState device app) stack,
      ops.stopped = false ->
        ktCall port ops (call, stack) =
          some (acknowledgedCall port ops stack requestId []
            (fun features => features.pipelineRunning) update))
    (hawaited : forall ops : OperationState device app,
      awaitedAcks port ops cmd =
        if ops.features.pipelineRunning then
          [acknowledgement port ops requestId []]
        else []) (lib : KtLibrary device app) :
    (forall stack stack' : ExecStack,
        (callKtLib port (call, stack.call) lib).isSome =
          (callKtLib port (call, stack'.call) lib).isSome) <->
      AcksSettled port lib cmd := by
  cases hrun : runningOps lib with
  | none =>
      refine iff_of_true ?_ (acksSettled_of_none hrun cmd)
      intro stack stack'
      rw [callKtLib_of_none hrun, callKtLib_of_none hrun]
  | some ops =>
      rcases runningOps_running hrun with ⟨-, -, -, hstopped⟩
      have hreturns := fun stack : CallStack =>
        callKtLib_acknowledged hrun hack (hcall ops stack hstopped)
      rw [acksSettled_iff hrun, hawaited]
      cases hpipeline : ops.features.pipelineRunning with
      | false =>
          refine iff_of_true ?_ (Or.inr ?_)
          · intro stack stack'
            rw [hreturns, hreturns, hpipeline, Bool.false_and, Bool.false_and]
          · simp
      | true =>
          rw [if_pos rfl, ← getD_const_iff]
          constructor
          · intro hsame left left'
            have hleft := hsame (execStack left false false)
              (execStack left' false false)
            rw [hreturns, hreturns, hpipeline, Bool.true_and,
              Bool.true_and] at hleft
            simpa only [execStack, ackLeft_leftStack] using hleft
          · intro hsame stack stack'
            rw [hreturns, hreturns, hpipeline, Bool.true_and, Bool.true_and]
            exact hsame stack.call.ackLeft stack'.call.ackLeft

theorem exitLib_settled_iff (lib : KtLibrary device app) :
    (forall stack stack' : ExecStack,
        (DispatcherRun.exitLib port stack.fini lib).isSome =
          (DispatcherRun.exitLib port stack'.fini lib).isSome) <->
      AcksSettled port lib .exit := by
  cases hrun : runningOps lib with
  | none =>
      refine iff_of_true ?_ (acksSettled_of_none hrun .exit)
      intro stack stack'
      rw [exitLib_of_none hrun, exitLib_of_none hrun]
  | some ops =>
      rw [acksSettled_iff hrun]
      change _ <-> some false ∈ [finiQrAck port ops, finiFaceAck port ops] ∨
        none ∉ [finiQrAck port ops, finiFaceAck port ops]
      rw [← getD_and_getD_const_iff]
      constructor
      · intro hsame qr face qr' face'
        have hleft := hsame (execStack false qr face)
          (execStack false qr' face')
        rw [exitLib_isSome hrun, exitLib_isSome hrun] at hleft
        simpa only [execStack, ackLeft_leftStack] using hleft
      · intro hsame stack stack'
        rw [exitLib_isSome hrun, exitLib_isSome hrun]
        exact hsame _ _ _ _

/-- The start of the pipeline has nothing on the stack. -/
theorem callKtLib_startPipeline (lib : KtLibrary device app)
    (stack stack' : CallStack) :
    callKtLib port (.startPipeline, stack) lib =
      callKtLib port (.startPipeline, stack') lib :=
  rfl

/-- The generation of a face identifier returns if the identification is active,
with what it has for a response. -/
theorem callKtLib_generate {lib : KtLibrary device app}
    {ops : OperationState device app} (h : runningOps lib = some ops)
    (stack : CallStack) :
    (callKtLib port (.generateFaceIdAsync true, stack) lib).map lastResponse =
      if ops.features.faceIdMonitoringActive then
        some (overwrite stack.appResponse 0
          (replyTo port ops zeroStack .generateFaceId []))
      else none := by
  rcases runningOps_running h with ⟨-, -, -, hstopped⟩
  have hcall : ktCall port ops (.generateFaceIdAsync true, stack) =
      some (ktGenerateFaceIdAsync port ops stack true) := by
    simp [ktCall, hstopped]
  rcases callKtLib_of_some h hcall with ⟨lib', hops, hlib⟩
  rw [hlib]
  cases hactive : ops.features.faceIdMonitoringActive with
  | false =>
      have hfailed : (ktGenerateFaceIdAsync port ops stack true).stopped =
          true := by
        simp [ktGenerateFaceIdAsync, hactive, OperationState.assertFailed]
      rw [if_pos hfailed]
      rfl
  | true =>
      have hreported : ktGenerateFaceIdAsync port ops stack true =
          reported ops .generateFaceId ops.features
            (requestExchange port ops stack .generateFaceId []) := by
        simp [ktGenerateFaceIdAsync, hactive]
      have hresponse : lastResponse lib' =
          (requestExchange port ops stack .generateFaceId
            []).data.pAppResponse.getD [] := by
        rcases Option.map_eq_some_iff.mp hops with ⟨ctxt, hctxt, hnext⟩
        rw [lastResponse, hctxt, Option.bind_some, hnext, hreported, reported,
          List.getLast?_append]
        rfl
      have hruns : ¬ (ktGenerateFaceIdAsync port ops stack true).stopped =
          true := by
        rw [hreported, reported, hstopped]
        exact Bool.false_ne_true
      rw [if_neg hruns, if_pos rfl, Option.map_some, hresponse,
        requestExchange_response, replyTo_stack port ops stack zeroStack]

theorem executeSwitch_settled_iff (port : Port device)
    (s : ExecState device app) {cmd : KtAppCmd}
    (himplemented : cmd.implemented = true) :
    (forall stack stack', (executeSwitch port stack s cmd).isSome =
        (executeSwitch port stack' s cmd).isSome) <->
      AcksSettled port s.lib cmd := by
  have hnothing : forall cmd, (forall ops : OperationState device app,
      awaitedAcks port ops cmd = []) -> AcksSettled port s.lib cmd := by
    intro cmd hnone ops _
    rw [hnone]
    exact Or.inr (by simp)
  cases cmd with
  | startPipeline =>
      refine iff_of_true ?_ (hnothing _ fun _ => rfl)
      intro stack stack'
      simp only [executeSwitch, Option.isSome_map]
      rw [callKtLib_startPipeline s.lib stack.call stack'.call]
  | startFaceIdentification =>
      simp only [executeSwitch, Option.isSome_map]
      refine callKtLib_settled_iff .startFaceIdentification
        (fun features => { features with faceIdMonitoringActive := true }) rfl
        ?_ (fun _ => rfl) s.lib
      intro ops stack hstopped
      simp [ktCall, hstopped, ktStartFaceIdentification]
  | generateFaceIdAsync =>
      refine iff_of_true ?_ (hnothing _ fun _ => rfl)
      intro stack stack'
      simp only [executeSwitch, Option.isSome_map]
      cases hrun : runningOps s.lib with
      | none =>
          rw [callKtLib_of_none hrun, callKtLib_of_none hrun]
      | some ops =>
          rw [← Option.isSome_map (f := lastResponse),
            ← Option.isSome_map (f := lastResponse),
            callKtLib_generate hrun, callKtLib_generate hrun]
          cases ops.features.faceIdMonitoringActive <;> rfl
  | updateFaceProfile =>
      exact iff_of_true (fun _ _ => rfl) (hnothing _ fun _ => rfl)
  | listFaceProfiles =>
      exact iff_of_true (fun _ _ => rfl) (hnothing _ fun _ => rfl)
  | startQrMonitor =>
      simp only [executeSwitch, Option.isSome_map]
      refine callKtLib_settled_iff .startQrMonitoring
        (fun features => { features with qrMonitorActive := true }) rfl
        ?_ (fun _ => rfl) s.lib
      intro ops stack hstopped
      simp [ktCall, hstopped, ktStartQrMonitor]
  | exit =>
      simp only [executeSwitch, Option.isSome_map]
      exact exitLib_settled_iff s.lib
  | none => cases himplemented
  | stopPipeline => cases himplemented
  | stopFaceIdentification => cases himplemented
  | deleteFaceIdAsync => cases himplemented
  | stopQrMonitor => cases himplemented
  | other code => cases himplemented

end Returns

/-!
## What is published
-/

section Published

variable {port : Port device} {s : ExecState device app}
  {request : KtAppRequest}

/-- The state in which a request is executed. -/
def ExecState.sent (s : ExecState device app) (request : KtAppRequest) :
    ExecState device app :=
  { s with shmem := ktAppSendRequest s.shmem request }

/-- The response is what the `switch` leaves, with the command and the return
code in front. -/
theorem publishedResponse_eq (stack : ExecStack) :
    publishedResponse port stack s request =
      (executeSwitch port stack (s.sent request) request.cmd).map
        fun result =>
          { result.2.shmem.response with
            cmd := request.cmd
            retCode := result.1 } := by
  change ((executeSwitch port stack (s.sent request) request.cmd).map
    _).map _ = _
  rw [Option.map_map]
  rfl

/-- Where a part of the response is the same whenever there is one, it does not
depend on the stack if that the `switch` is left does not. -/
theorem determined_iff {part : Type} {view : KtAppResponse -> part}
    (answer : part)
    (h : forall stack, (publishedResponse port stack s request).map view =
      (executeSwitch port stack (s.sent request) request.cmd).map
        fun _ => answer) :
    Determined port s request view <->
      forall stack stack',
        (executeSwitch port stack (s.sent request) request.cmd).isSome =
          (executeSwitch port stack' (s.sent request) request.cmd).isSome := by
  unfold Determined
  refine forall_congr' fun stack => forall_congr' fun stack' => ?_
  rw [h, h]
  exact map_const_eq_iff

/-- Except for the generation, all of the response of a command that is
implemented is known before. -/
theorem publishedResponse_const (port : Port device)
    (s : ExecState device app) (himplemented : request.cmd.implemented =
      true) (hgenerate : request.cmd ≠ .generateFaceIdAsync) :
    exists response, forall stack, publishedResponse port stack s request =
      (executeSwitch port stack (s.sent request) request.cmd).map
        fun _ => response := by
  have hkept : forall (outcome : ExecStack -> Option (KtLibrary device app))
      (shouldExit : Bool),
      (forall stack,
        executeSwitch port stack (s.sent request) request.cmd =
          (outcome stack).map fun lib => (ktOk,
            { s.sent request with lib := lib, shouldExit := shouldExit })) ->
      exists response, forall stack, publishedResponse port stack s request =
        (executeSwitch port stack (s.sent request) request.cmd).map
          fun _ => response := by
    intro outcome shouldExit hswitch
    refine ⟨{ s.shmem.response with cmd := request.cmd, retCode := ktOk }, ?_⟩
    intro stack
    rw [publishedResponse_eq, hswitch, Option.map_map, Option.map_map]
    rfl
  cases hcmd : request.cmd with
  | startPipeline =>
      rw [hcmd] at hkept
      exact hkept (fun stack => callKtLib port (.startPipeline, stack.call)
        s.lib) s.shouldExit fun _ => rfl
  | startFaceIdentification =>
      rw [hcmd] at hkept
      exact hkept (fun stack => callKtLib port
        (.startFaceIdentification, stack.call) s.lib) s.shouldExit
          fun _ => rfl
  | generateFaceIdAsync => exact absurd hcmd hgenerate
  | updateFaceProfile =>
      refine ⟨{ (s.sent request).updateFaceProfile.2.shmem.response with
        cmd := request.cmd
        retCode := (s.sent request).updateFaceProfile.1 }, ?_⟩
      intro stack
      rw [publishedResponse_eq, hcmd]
      rfl
  | listFaceProfiles =>
      refine ⟨{ (s.sent request).listFaceProfiles.shmem.response with
        cmd := request.cmd
        retCode := ktAppSuccess }, ?_⟩
      intro stack
      rw [publishedResponse_eq, hcmd]
      rfl
  | startQrMonitor =>
      rw [hcmd] at hkept
      exact hkept (fun stack => callKtLib port (.startQrMonitor, stack.call)
        s.lib) s.shouldExit fun _ => rfl
  | exit =>
      rw [hcmd] at hkept
      exact hkept (fun stack => DispatcherRun.exitLib port stack.fini s.lib)
        true fun _ => rfl
  | none => simp [hcmd, KtAppCmd.implemented] at himplemented
  | stopPipeline => simp [hcmd, KtAppCmd.implemented] at himplemented
  | stopFaceIdentification => simp [hcmd, KtAppCmd.implemented] at himplemented
  | deleteFaceIdAsync => simp [hcmd, KtAppCmd.implemented] at himplemented
  | stopQrMonitor => simp [hcmd, KtAppCmd.implemented] at himplemented
  | other code => simp [hcmd, KtAppCmd.implemented] at himplemented

theorem publishedResponse_generate (hcmd : request.cmd = .generateFaceIdAsync)
    (stack : ExecStack) :
    publishedResponse port stack s request =
      ((callKtLib port (.generateFaceIdAsync true, stack.call) s.lib).map
        lastResponse).map fun response =>
          ⟨.generateFaceIdAsync, ktOk,
            .generateFaceIdAsync (generatedFaceId response) ktOk⟩ := by
  rw [publishedResponse_eq, hcmd]
  simp only [executeSwitch, Option.map_map]
  rfl

/-- A command that is not implemented is answered with what is in the place of
`ret_code`. -/
theorem publishedResponse_unimplemented
    (hunimplemented : request.cmd.implemented = false) (stack : ExecStack) :
    publishedResponse port stack s request =
      some { s.shmem.response with
        cmd := request.cmd
        retCode := toInt32 stack.retCode.toNat } := by
  rw [publishedResponse_eq]
  cases hcmd : request.cmd <;>
    first
    | rfl
    | simp [hcmd, KtAppCmd.implemented] at hunimplemented

end Published

/-!
## The face identifier
-/

theorem fieldValue_two (buffer : List UInt8) :
    fieldValue buffer 2 2 =
      (buffer.getD 2 0).toNat + 256 * (buffer.getD 3 0).toNat := by
  match buffer with
  | [] => rfl
  | [_] => rfl
  | [_, _] => rfl
  | [_, _, low] => simp [fieldValue]
  | _ :: _ :: low :: high :: rest => simp [fieldValue]

theorem generatedFaceId_inj {response response' : List UInt8}
    (h : generatedFaceId response = generatedFaceId response') :
    response.getD 3 0 = response'.getD 3 0 := by
  have hlt : forall buffer : List UInt8, fieldValue buffer 2 2 < 2 ^ 32 := by
    intro buffer
    exact lt_trans (fieldValue_lt buffer 2 2) (by decide)
  have hvalue := congrArg UInt32.toNat h
  rw [generatedFaceId, generatedFaceId, UInt32.toNat_ofNat_of_lt' (hlt _),
    UInt32.toNat_ofNat_of_lt' (hlt _), fieldValue_two,
    fieldValue_two] at hvalue
  have hlow := (response.getD 2 0).toNat_lt
  have hlow' := (response'.getD 2 0).toNat_lt
  apply UInt8.toNat_inj.mp
  lia

/-- The identifier in a response that was partly delivered does not depend on
the stack behind it if the delivery goes that far. -/
theorem generatedFaceId_const_iff (reply : List UInt8) :
    (forall stack stack' : CallStack,
        generatedFaceId (overwrite stack.appResponse 0 reply) =
          generatedFaceId (overwrite stack'.appResponse 0 reply)) <->
      4 ≤ reply.length := by
  constructor
  · intro hsame
    by_contra hshort
    have hbyte := generatedFaceId_inj (hsame (filledStack 0) (filledStack 1))
    rw [getD_overwrite, getD_overwrite, if_neg (by lia), if_neg (by lia)]
      at hbyte
    exact absurd hbyte (by decide)
  · intro hlong stack stack'
    rw [generatedFaceId, generatedFaceId, fieldValue_two, fieldValue_two]
    simp only [getD_overwrite, if_pos (show 2 < reply.length by lia),
      if_pos (show 3 < reply.length by lia)]

theorem determined_generate_iff {port : Port device}
    {s : ExecState device app} {request : KtAppRequest}
    (hcmd : request.cmd = .generateFaceIdAsync) :
    Determined port s request id <->
      FaceIdDelivered port s.lib request.cmd := by
  unfold Determined
  simp only [publishedResponse_generate hcmd]
  cases hrun : runningOps s.lib with
  | none =>
      refine iff_of_true ?_ ?_
      · intro stack stack'
        rw [callKtLib_of_none hrun, callKtLib_of_none hrun]
      · intro _ ops hops
        rw [hrun] at hops
        cases hops
  | some ops =>
      have hdelivered : FaceIdDelivered port s.lib request.cmd <->
          (ops.features.faceIdMonitoringActive = true ->
            4 ≤ (replyTo port ops zeroStack .generateFaceId []).length) := by
        constructor
        · intro h
          exact h hcmd ops hrun
        · intro h _ ops' hops'
          rw [hrun] at hops'
          cases hops'
          exact h
      rw [hdelivered]
      simp only [callKtLib_generate hrun]
      cases hactive : ops.features.faceIdMonitoringActive with
      | false => simp
      | true =>
          simp only [if_true, Option.map_some, Option.some.injEq, id,
            forall_const, ← generatedFaceId_const_iff]
          constructor
          · intro hsame stack stack'
            have hresponse := hsame ⟨0, stack, ⟨stack, stack⟩⟩
              ⟨0, stack', ⟨stack', stack'⟩⟩
            simpa using hresponse
          · intro hsame stack stack'
            rw [hsame stack.call stack'.call]

/-!
## The theorem
-/

theorem refusesUnimplemented_iff {port : Port device}
    {s : ExecState device app} {request : KtAppRequest} :
    RefusesUnimplemented port s request <->
      request.cmd.implemented = true := by
  constructor
  · intro hrefuses
    by_contra hunimplemented
    rw [Bool.not_eq_true] at hunimplemented
    -- the place of the variable happens to hold `KT_APP_SUCCESS`
    rcases hrefuses hunimplemented (execStack false false false) with
      ⟨response, hpublished, hfailure⟩
    rw [publishedResponse_unimplemented hunimplemented] at hpublished
    cases hpublished
    exact hfailure rfl
  · intro himplemented hunimplemented
    rw [himplemented] at hunimplemented
    cases hunimplemented

theorem determined_header_iff {port : Port device}
    {s : ExecState device app} {request : KtAppRequest}
    (himplemented : request.cmd.implemented = true) :
    Determined port s request KtAppResponse.header <->
      AcksSettled port s.lib request.cmd := by
  refine Iff.trans ?_
    (executeSwitch_settled_iff port (s.sent request) himplemented)
  by_cases hcmd : request.cmd = .generateFaceIdAsync
  · refine determined_iff (.generateFaceIdAsync, ktOk) ?_
    intro stack
    rw [publishedResponse_eq, hcmd]
    simp only [executeSwitch, Option.map_map]
    rfl
  · rcases publishedResponse_const port s himplemented hcmd with
      ⟨response, hpublished⟩
    refine determined_iff response.header ?_
    intro stack
    rw [hpublished, Option.map_map]
    rfl

theorem determined_response_iff {port : Port device}
    {s : ExecState device app} {request : KtAppRequest}
    (himplemented : request.cmd.implemented = true) :
    Determined port s request id <->
      AcksSettled port s.lib request.cmd ∧
        FaceIdDelivered port s.lib request.cmd := by
  by_cases hcmd : request.cmd = .generateFaceIdAsync
  · rw [determined_generate_iff hcmd, iff_and_self]
    intro _ ops _
    rw [hcmd]
    exact Or.inr (by simp [awaitedAcks])
  · have hdelivered : FaceIdDelivered port s.lib request.cmd :=
      fun h => absurd h hcmd
    rw [and_iff_left hdelivered]
    refine Iff.trans ?_
      (executeSwitch_settled_iff port (s.sent request) himplemented)
    rcases publishedResponse_const port s himplemented hcmd with
      ⟨response, hpublished⟩
    refine determined_iff response ?_
    intro stack
    rw [hpublished, Option.map_map]
    rfl

/-- A command is answered independently of the stack, and refused if there is no
case for it, exactly if there is one and the acknowledgements that it waits for
are settled.  All of the response is independent of the stack if the face
identifier is delivered, too. -/
theorem publishedResponse_determined_iff (port : Port device)
    (s : ExecState device app) (code faceId : UInt32)
    (faceName : List UInt8) :
    let request : KtAppRequest := ⟨KtAppCmd.ofCode code, faceId, faceName⟩
    (Determined port s request KtAppResponse.header ∧
          RefusesUnimplemented port s request <->
        request.cmd.implemented = true ∧
          AcksSettled port s.lib request.cmd) ∧
      (Determined port s request id ∧ RefusesUnimplemented port s request <->
        request.cmd.implemented = true ∧
          AcksSettled port s.lib request.cmd ∧
          FaceIdDelivered port s.lib request.cmd) := by
  intro request
  rw [refusesUnimplemented_iff]
  constructor
  · constructor
    · rintro ⟨hdetermined, himplemented⟩
      exact ⟨himplemented, (determined_header_iff himplemented).mp hdetermined⟩
    · rintro ⟨himplemented, hsettled⟩
      exact ⟨(determined_header_iff himplemented).mpr hsettled, himplemented⟩
  · constructor
    · rintro ⟨hdetermined, himplemented⟩
      exact ⟨himplemented,
        (determined_response_iff himplemented).mp hdetermined⟩
    · rintro ⟨himplemented, hdelivered⟩
      exact ⟨(determined_response_iff himplemented).mpr hdelivered,
        himplemented⟩

/-- The application in the first pass of the dispatcher, with an empty
database. -/
def startExecState : ExecState ByteStream Unit :=
  { lib := openLibrary
    faceDb := startMailbox.faceDb
    faceDbFile := []
    shmem := startMailbox.shmem
    shouldExit := false }

/-- To stop the pipeline is not implemented.  With a zero on the stack it is
answered with success, with a one it is not. -/
theorem stopPipeline_undetermined :
    (publishedResponse streamPort (execStack false false false)
          startExecState ⟨KtAppCmd.ofCode 7, 0, noFaceName⟩).map
            KtAppResponse.header =
        some (.stopPipeline, ktAppSuccess) ∧
      (publishedResponse streamPort
          { execStack false false false with retCode := 1 }
          startExecState ⟨KtAppCmd.ofCode 7, 0, noFaceName⟩).map
            KtAppResponse.header =
        some (.stopPipeline, 1) ∧
      ¬ Determined streamPort startExecState
          ⟨KtAppCmd.ofCode 7, 0, noFaceName⟩ KtAppResponse.header ∧
      ¬ RefusesUnimplemented streamPort startExecState
          ⟨KtAppCmd.ofCode 7, 0, noFaceName⟩ := by
  have hzero : (publishedResponse streamPort (execStack false false false)
      startExecState ⟨KtAppCmd.ofCode 7, 0, noFaceName⟩).map
        KtAppResponse.header = some (.stopPipeline, ktAppSuccess) := rfl
  have hone : (publishedResponse streamPort
      { execStack false false false with retCode := 1 }
      startExecState ⟨KtAppCmd.ofCode 7, 0, noFaceName⟩).map
        KtAppResponse.header = some (.stopPipeline, 1) := rfl
  refine ⟨hzero, hone, ?_, ?_⟩
  · intro hdetermined
    have hsame := hdetermined (execStack false false false)
      { execStack false false false with retCode := 1 }
    rw [hzero, hone] at hsame
    exact absurd hsame (by decide)
  · intro hrefuses
    rcases hrefuses rfl (execStack false false false) with
      ⟨response, hpublished, hfailure⟩
    cases hpublished
    exact hfailure rfl

end KtApp
end GardHub
