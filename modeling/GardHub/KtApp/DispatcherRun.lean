import GardHub.Foundation.Runs
import GardHub.KtApp.Commands
import GardHub.KtLib.Lifecycle

/-!
# Runs of the dispatcher

`Kt_RunDispatcher` with the idle callback of the hardware build, which executes
the commands that other threads ask for.  One of them gives the context of the
library back, while the loop that works on it is still running.
-/

namespace GardHub
namespace KtApp

open Foundation
open Dal
open KtLib

variable {device app : Type}

/-!
## The context
-/

/-- The fields of `Kt_Context` that a run of the dispatcher meets. -/
inductive KtField where
  | kcGardHandle
  | kcCfg
  | kcMetaBufFifo
  | kcQrBufFifo
  | kcPipelineRunning
  | kcStopDispatcherLoop
  | kcHmiMetadataBuffer
  | kcQrImageBuffer
  | kcFaceIdMonitoringActive
  | kcQrMonitorActive
deriving DecidableEq

/-- What happens to the context in a run: a field is read or written, the block
is freed, or the loop that needs it starts another pass. -/
inductive ContextEvent where
  | touched (field : KtField)
  | freed
  | iteration
deriving DecidableEq

/-- The fields that a call of the library reads or writes, unless an assertion
stops it. -/
def ktCallFields : KtCall -> List KtField
  | .startPipeline | .stopPipeline => [.kcPipelineRunning]
  | .startFaceIdentification =>
      [.kcPipelineRunning, .kcGardHandle, .kcFaceIdMonitoringActive]
  | .stopFaceIdentification => [.kcFaceIdMonitoringActive, .kcGardHandle]
  | .startQrMonitor => [.kcPipelineRunning, .kcGardHandle, .kcQrMonitorActive]
  | .stopQrMonitor => [.kcQrMonitorActive, .kcGardHandle]
  | .generateFaceIdAsync _ =>
      [.kcFaceIdMonitoringActive, .kcGardHandle, .kcCfg]
  | .deleteFaceIdAsync _ => [.kcGardHandle, .kcCfg]

/-- The fields that `Kt_ReleaseMetadataBuffers`, `Kt_ReleaseQrStringBuffers` and
`Kt_Fini` read or write up to the release of the context. -/
def ktFiniFields (features : KtFeatures) : List KtField :=
  let qrMonitor : List KtField :=
    if features.qrMonitorActive then ktCallFields .stopQrMonitor else []
  let faceId : List KtField :=
    if features.faceIdMonitoringActive then
      ktCallFields .stopFaceIdentification
    else []
  .kcMetaBufFifo :: .kcQrBufFifo :: .kcCfg :: .kcQrMonitorActive ::
    (qrMonitor ++ .kcFaceIdMonitoringActive ::
      (faceId ++ [.kcPipelineRunning, .kcMetaBufFifo, .kcQrBufFifo]))

/-!
## The run
-/

/-- Where the main thread is in `Kt_RunDispatcher`. -/
inductive DispatcherThread where
  /-- Not in the function yet. -/
  | outside
  /-- At the head of the loop. -/
  | executing
  /-- Behind `hub_check_and_execute_gard_command`. -/
  | idling
  /-- Behind the idle callback. -/
  | testing
  | returned
  /-- In an assertion that has failed. -/
  | asserted
deriving DecidableEq

/-- The library, the two stop flags and the main thread, with what has happened
to the context. -/
structure DispatcherRun (device app : Type) where
  lib : KtLibrary device app
  stopDispatcherLoop : Bool
  shouldExit : Bool
  main : DispatcherThread
  trace : List ContextEvent

/-- In front of `Kt_RunDispatcher`. -/
def dispatcherStart (lib : KtLibrary device app) : DispatcherRun device app :=
  { lib := lib
    stopDispatcherLoop := false
    shouldExit := false
    main := .outside
    trace := [] }

/-- What `hub_check_and_execute_gard_command` does in a pass: the fields that
the handlers of the library touch, what becomes of the buffers and the line, and
whether an assertion fails. -/
structure GardWork (device : Type) where
  fields : List KtField
  metaBuffers : List MetaBuffer -> List MetaBuffer
  line : BusLine device -> BusLine device
  asserts : Bool

/-- The check reads nothing, because the read fails.  It would not return on a
line that is silent. -/
def failedCheck : GardWork device :=
  { fields := [], metaBuffers := id, line := id, asserts := false }

/-- A pending command, with the stacks of the calls it leads to. -/
structure TakenCommand where
  cmd : KtAppCmd
  stack : CallStack
  finiStacks : FiniStacks

/-- The ways in which a thread asks for the end. -/
inductive StopRequest where
  | shouldExit
  | stopDispatcher
deriving DecidableEq

inductive DispatcherAction (device : Type) where
  | enter
  | gard (work : GardWork device)
  | idle (command : Option TakenCommand)
  /-- The test of the loop.  If the context is freed, it reads whatever is left
  in the place of the flag. -/
  | test (leftover : Bool)
  | stop (request : StopRequest)

namespace DispatcherRun

/-- Fields are read or written. -/
def touch (s : DispatcherRun device app) (fields : List KtField) :
    DispatcherRun device app :=
  { s with trace := s.trace ++ fields.map ContextEvent.touched }

/-- The loop starts a pass. -/
def iterate (s : DispatcherRun device app) : DispatcherRun device app :=
  { s with main := .executing, trace := s.trace ++ [.iteration] }

/-- The context has been freed. -/
def freed (s : DispatcherRun device app) : Bool :=
  s.trace.contains .freed

/-- The number of passes started. -/
def iterations (s : DispatcherRun device app) : Nat :=
  s.trace.count .iteration

/-- The test reads the flag, or what is left in its place. -/
def readStopLoop (s : DispatcherRun device app) (leftover : Bool) : Bool :=
  if s.freed then leftover else s.stopDispatcherLoop

/-- The main thread is in the loop. -/
def inLoop (s : DispatcherRun device app) : Bool :=
  [.executing, .idling, .testing].contains s.main

section Commands

variable (port : Port device) (s : DispatcherRun device app)

/-- The features that the context has. -/
def features : KtFeatures :=
  (s.lib.ktCtxt.map fun ctxt => ctxt.ops.features).getD ⟨false, false, false⟩

/-- A call of the library from a command, and the end of the callback, unless
an assertion fails. -/
def callLib (call : KtCall × CallStack) : DispatcherRun device app :=
  let s := s.touch (ktCallFields call.1)
  match ktLibStep port s.lib (.call call) with
  | none => { s with main := .asserted }
  | some lib =>
      if (lib.ktCtxt.map fun ctxt => ctxt.ops.stopped).getD false then
        { s with lib := lib, main := .asserted }
      else { s with lib := lib, main := .testing }

/-- The calls of the exit command up to the end of `Kt_Fini`, unless an
assertion fails. -/
def exitLib (finiStacks : FiniStacks) (lib : KtLibrary device app) :
    Option (KtLibrary device app) :=
  (ktLibStep port lib .releaseMetadataBuffers).bind fun lib =>
    (ktLibStep port lib .releaseQrStringBuffers).bind fun lib =>
      ktFini port finiStacks lib

/-- The exit command.  `Kt_StopDispatcher` is called with the handle that
`Kt_Fini` has freed. -/
def executeExit (finiStacks : FiniStacks) : DispatcherRun device app :=
  let s := s.touch (ktFiniFields s.features)
  match exitLib port finiStacks s.lib with
  | none => { s with main := .asserted }
  | some lib =>
      { s with
        lib := lib
        stopDispatcherLoop := true
        shouldExit := true
        main := .testing
        trace := s.trace ++ [.freed, .touched .kcStopDispatcherLoop] }

/-- `kt_app_execute_cmd`, as far as it concerns the context. -/
def executeCmd (command : TakenCommand) : DispatcherRun device app :=
  match command.cmd with
  | .startPipeline => s.callLib port (.startPipeline, command.stack)
  | .startFaceIdentification =>
      s.callLib port (.startFaceIdentification, command.stack)
  | .generateFaceIdAsync =>
      s.callLib port (.generateFaceIdAsync true, command.stack)
  | .startQrMonitor => s.callLib port (.startQrMonitor, command.stack)
  | .exit => s.executeExit port command.finiStacks
  | _ => { s with main := .testing }

/-- The idle callback, which executes a command if one is pending.  It does not
look at `should_exit`. -/
def idle (command : Option TakenCommand) : DispatcherRun device app :=
  let s := s.touch [.kcCfg]
  match command with
  | none => { s with main := .testing }
  | some command => s.executeCmd port command

end Commands

/-- The handling of what the GARD has sent. -/
def executeGard (s : DispatcherRun device app) (work : GardWork device) :
    DispatcherRun device app :=
  let s := s.touch (.kcGardHandle :: work.fields)
  { s with
    lib := { s.lib with
      ktCtxt := s.lib.ktCtxt.map fun ctxt =>
        { ctxt with
          metaBuffers := work.metaBuffers ctxt.metaBuffers
          ops := { ctxt.ops with line := work.line ctxt.ops.line } } }
    main := if work.asserts then .asserted else .idling }

/-- The test of the loop in continuous mode. -/
def testLoop (s : DispatcherRun device app) (leftover : Bool) :
    DispatcherRun device app :=
  let s := s.touch [.kcStopDispatcherLoop]
  if s.readStopLoop leftover then { s with main := .returned } else s.iterate

/-- A request for the end, by any thread and at any time. -/
def request (s : DispatcherRun device app) :
    StopRequest -> DispatcherRun device app
  | .shouldExit => { s with shouldExit := true }
  | .stopDispatcher =>
      { s.touch [.kcStopDispatcherLoop] with stopDispatcherLoop := true }

end DispatcherRun

/-- A step of the main thread in `Kt_RunDispatcher`, in continuous mode, or of
a thread that asks for the end. -/
def dispatcherStep (port : Port device) (s : DispatcherRun device app) :
    DispatcherAction device -> Option (DispatcherRun device app)
  | .enter =>
      match s.main with
      | .outside =>
          some { s.touch [.kcStopDispatcherLoop] with
            stopDispatcherLoop := false }.iterate
      | _ => none
  | .gard work =>
      match s.main with
      | .executing => some (s.executeGard work)
      | _ => none
  | .idle command =>
      match s.main with
      | .idling => some (s.idle port command)
      | _ => none
  | .test leftover =>
      match s.main with
      | .testing => some (s.testLoop leftover)
      | _ => none
  | .stop request => some (s.request request)

end KtApp
end GardHub
