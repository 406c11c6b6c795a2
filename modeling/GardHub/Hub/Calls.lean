import GardHub.Foundation.Runs
import GardHub.Hub.AppLayer

/-!
# Runs of HUB calls

An application makes one call after another on the handle of a GARD.  The flag
`command_execution` is meant to be set only while a call is running.
-/

namespace GardHub
namespace Hub

open Foundation
open Dal
open Interface

variable {device app : Type}

/-- The calls an application makes on a GARD handle. -/
inductive HubCall where
  | sendPausePipelineCmd (cameraId : UInt8)
  | sendResumePipelineCmd (cameraId : UInt8)
  | writeGardReg (regAddr value : UInt32)
  | readGardReg (regAddr pValue : UInt32)
  | sendDataToGard (pBuffer : Option (List UInt8)) (addr count : UInt32)
  | recvDataFromGard (pBuffer : List UInt8) (addr count : UInt32)
  | appLayerRequest (request : Option (List UInt8)) (requestSize : UInt32)
      (appResponse : Option (List UInt8)) (appResponseSize : UInt32)
      (response : List UInt8)
  | checkAndExecuteGardCommand

/-- The state once a call has returned; a call that dereferences a null pointer
does not return. -/
def performCall (port : Port device) (world : HubWorld device app) :
    HubCall -> Option (HubWorld device app)
  | .sendPausePipelineCmd cameraId =>
      let result := hubSendPausePipelineCmd port world.gard cameraId world.line
      some { world with line := result.line, gard := result.gard }
  | .sendResumePipelineCmd cameraId =>
      let result := hubSendResumePipelineCmd port world.gard cameraId world.line
      some { world with line := result.line, gard := result.gard }
  | .writeGardReg regAddr value =>
      let result := hubWriteGardReg port world.gard regAddr value world.line
      some { world with line := result.line, gard := result.gard }
  | .readGardReg regAddr pValue =>
      let result := hubReadGardReg port world.gard regAddr pValue world.line
      some { world with line := result.1.line, gard := result.1.gard }
  | .sendDataToGard pBuffer addr count =>
      let result :=
        hubSendDataToGard port world.gard pBuffer addr count world.line
      some { world with line := result.line, gard := result.gard }
  | .recvDataFromGard pBuffer addr count =>
      let result :=
        hubRecvDataFromGard port world.gard pBuffer addr count world.line
      some { world with line := result.1.line, gard := result.1.gard }
  | .appLayerRequest request requestSize appResponse appResponseSize response =>
      let result := hubAppLayerRequest port world.gard request requestSize
        appResponse appResponseSize response world.line
      some { world with line := result.line, gard := result.gard }
  | .checkAndExecuteGardCommand =>
      match hubCheckAndExecuteGardCommand port world with
      | (.returned _, world) => some world
      | (.nullDereference, _) => none

/-- The command a call executes, if it executes one. -/
def HubCall.command : HubCall -> Option HubCommand
  | .sendPausePipelineCmd cameraId => some (.pausePipeline cameraId)
  | .sendResumePipelineCmd cameraId => some (.resumePipeline cameraId)
  | .writeGardReg regAddr value => some (.writeReg regAddr value)
  | .readGardReg regAddr _ => some (.readReg regAddr)
  | .sendDataToGard pBuffer addr count => some (.sendData pBuffer addr count)
  | .recvDataFromGard _ addr count => some (.recvData addr count)
  | .appLayerRequest request requestSize appResponse appResponseSize response =>
      some (.appLayerRequest request requestSize appResponse appResponseSize
        response)
  | .checkAndExecuteGardCommand => none

/-- A call that executes a command changes the line and the GARD record, and
those the way the exchange does. -/
theorem performCall_command {port : Port device} {world : HubWorld device app}
    {call : HubCall} {command : HubCommand}
    (h : call.command = some command) :
    performCall port world call =
      some { world with
        line := (hubExecuteHubRequest port world.gard command.requestData
          world.line).line
        gard := (hubExecuteHubRequest port world.gard command.requestData
          world.line).gard } := by
  cases call <;> cases h <;> rfl

/-!
## The flag
-/

/-- The exchange of a command leaves the flag cleared: its request does not even
get its first write through, or the whole exchange is carried out without the
HUB having sent data of its own. -/
def ExchangeClears (port : Port device) (command : HubCommand)
    (world : HubWorld device app) : Prop :=
  match world.gard.activeDalBus with
  | none => True
  | some bus =>
      (sent port bus command.requestData world.line).replies = [] ∨
        ((exchange port bus command.requestData world.line).finished = true ∧
          sendsData command.requestData
            (response port bus command.requestData
              (sent port bus command.requestData world.line).final) = false)

/-- The condition under which a call returns with the flag cleared. -/
def CallClears (port : Port device) (world : HubWorld device app)
    (call : HubCall) : Prop :=
  match call.command with
  | none => True
  | some command => ExchangeClears port command world

instance (port : Port device) (command : HubCommand)
    (world : HubWorld device app) :
    Decidable (ExchangeClears port command world) :=
  match hbus : world.gard.activeDalBus with
  | none => isTrue (by simp [ExchangeClears, hbus])
  | some bus =>
      decidable_of_iff
        ((sent port bus command.requestData world.line).replies = [] ∨
          ((exchange port bus command.requestData world.line).finished = true ∧
            sendsData command.requestData
              (response port bus command.requestData
                (sent port bus command.requestData world.line).final) = false))
        (by simp [ExchangeClears, hbus])

instance (port : Port device) (world : HubWorld device app) (call : HubCall) :
    Decidable (CallClears port world call) :=
  match hcommand : call.command with
  | none => isTrue (by simp [CallClears, hcommand])
  | some command =>
      decidable_of_iff (ExchangeClears port command world)
        (by simp [CallClears, hcommand])

/-- No command is being executed. -/
def Idle (world : HubWorld device app) : Prop :=
  world.gard.commandExecution = false

theorem finishCommand_idle {result : CallOutcome × HubWorld device app}
    {ret : Bool} (h : (finishCommand result).1 = .returned ret) :
    Idle (finishCommand result).2 := by
  rcases result with ⟨outcome, world⟩
  cases outcome with
  | returned status =>
      rfl
  | nullDereference =>
      cases h

theorem serveOriginatorSync_idle {port : Port device} {bus : DalBus}
    {world : HubWorld device app} {ret : Bool} (hidle : Idle world)
    (h : (serveOriginatorSync port bus world).1 = .returned ret) :
    Idle (serveOriginatorSync port bus world).2 := by
  unfold serveOriginatorSync at h ⊢
  simp only at h ⊢
  split at h
  · rw [if_pos (by assumption)]
    exact hidle
  · rw [if_neg (by assumption)]
    exact finishCommand_idle h

theorem hubCheckAndExecuteGardCommand_idle {port : Port device}
    {world : HubWorld device app} {ret : Bool} (hidle : Idle world)
    (h : (hubCheckAndExecuteGardCommand port world).1 = .returned ret) :
    Idle (hubCheckAndExecuteGardCommand port world).2 := by
  rcases hubCheckAndExecuteGardCommand_cases port world with
    ⟨line, hcheck⟩ | ⟨bus, line, hcheck⟩
  · rw [hcheck]
    exact hidle
  · rw [hcheck] at h ⊢
    exact serveOriginatorSync_idle hidle h

theorem exchange_idle_iff {port : Port device} {command : HubCommand}
    {world : HubWorld device app} (hidle : Idle world) :
    (hubExecuteHubRequest port world.gard command.requestData
        world.line).gard.commandExecution = false <->
      ExchangeClears port command world := by
  unfold ExchangeClears
  cases hbus : world.gard.activeDalBus with
  | none =>
      rw [hubExecuteHubRequest_no_bus port hbus]
      exact iff_of_true hidle trivial
  | some bus =>
      exact hubExecuteHubRequest_commandExecution port
        command.requestData_prepared hbus hidle

/-- One call that returns keeps the handle idle exactly when it meets its
condition. -/
theorem performCall_idle_iff {port : Port device} (world : HubWorld device app)
    (call : HubCall) (next : HubWorld device app) (hidle : Idle world)
    (h : performCall port world call = some next) :
    Idle next <-> CallClears port world call := by
  cases hcommand : call.command with
  | none =>
      have hnext : Idle next := by
        cases call <;> simp only [HubCall.command, reduceCtorEq] at hcommand
        simp only [performCall] at h
        split at h
        · rename_i hcheck
          cases h
          simpa [hcheck] using
            hubCheckAndExecuteGardCommand_idle hidle (congrArg Prod.fst hcheck)
        · cases h
      simp [CallClears, hcommand, hnext]
  | some command =>
      rw [performCall_command hcommand] at h
      cases h
      simp only [CallClears, hcommand]
      exact exchange_idle_iff hidle

/-- From a successful initialisation on, the flag is cleared whenever a call
returns exactly when every call that returns meets its condition. -/
theorem commandExecution_cleared_iff (port : Port device)
    (found gard : HubGardInfo app) (hinit : hubInitGard found = (.success, gard))
    (line : BusLine device) (a : app) (buffers : AppBuffers)
    (calls : List HubCall) :
    (forall world,
      world ∈ reachedStates (performCall port)
        (startWorld gard line a buffers) calls ->
      world.gard.commandExecution = false) <->
      RunMeets (performCall port) (CallClears port)
        (startWorld gard line a buffers) calls := by
  have hidle : Idle (startWorld gard line a buffers) :=
    (hubInitGard_success hinit).2
  exact reachedStates_all_iff performCall_idle_iff hidle calls

/-- A register write that is acknowledged, and a check that finds nothing. -/
theorem commandExecution_cleared_writeReg :
    hubInitGard (foundGard none : HubGardInfo Unit) =
      (.success, readyGard none) ∧
    (forall world,
      world ∈ reachedStates (performCall streamPort)
        (startWorld (readyGard none) (streamLine [0x04, 0xAC]) () fun _ _ => 0)
        [.writeGardReg 0x10 0x20, .checkAndExecuteGardCommand] ->
      world.gard.commandExecution = false) :=
  ⟨hubInitGard_foundGard none,
    (commandExecution_cleared_iff streamPort (foundGard none) (readyGard none)
      (hubInitGard_foundGard none) _ _ _ _).mpr (by decide +kernel)⟩

/-- The GARD asks for the data and then sends a frame.  The flag stays set, and
the check leaves the frame on the line. -/
theorem commandExecution_stuck_sendData :
    hubInitGard (foundGard none : HubGardInfo Unit) =
      (.success, readyGard none) ∧
    ¬ (forall world,
      world ∈ reachedStates (performCall streamPort)
        (startWorld (readyGard none)
          (streamLine [0x01, 0x5D, 0x0C, 0xCD, 0x07, 4, 0, 0, 7, 1, 2, 3]) ()
          fun _ _ => 0)
        [.sendDataToGard (some [0xAA]) 0 1, .checkAndExecuteGardCommand] ->
      world.gard.commandExecution = false) ∧
    (runActions (performCall streamPort)
      (startWorld (readyGard none)
        (streamLine [0x01, 0x5D, 0x0C, 0xCD, 0x07, 4, 0, 0, 7, 1, 2, 3]) ()
        fun _ _ => 0)
      [.sendDataToGard (some [0xAA]) 0 1, .checkAndExecuteGardCommand]).map
        (fun world => world.line.state.incoming) =
      some [0x0C, 0xCD, 0x07, 4, 0, 0, 7, 1, 2, 3] := by
  refine ⟨rfl, ?_⟩
  decide +kernel

end Hub
end GardHub
