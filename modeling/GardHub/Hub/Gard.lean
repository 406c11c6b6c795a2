import GardHub.Dal
import GardHub.Interface.Wire

/-!
# GARD records

What the HUB keeps for each GARD it has found, and the initialisation that
chooses the bus over which the GARD is reached.
-/

namespace GardHub
namespace Hub

open Foundation
open Dal

/-- `hub_ret_code` -/
inductive HubRetCode where
  | success
  | failureInit
  | failureGardDiscover
  | failureWriteReg
  | failureReadReg
  | failureSendData
  | failureRecvData
  | failureSendPausePipeline
  | failureSendResumePipeline
deriving DecidableEq

/-- The buffers of the App Layer.  A `p_buffer` picks one of them; its bytes are
addressed from the first one on. -/
abbrev AppBuffers := Nat -> Memory

/-- `hub_app_layer_callbacks`: the App Layer as the HUB calls it, over the state
behind `app_handle`.  One callback is given the peeked bytes and answers with a
buffer and its size, the other is given a filled buffer and the payload size. -/
structure HubAppLayerCallbacks (app : Type) where
  getBufferForGardSendData :
    Option (app -> List UInt8 -> Option (Nat × UInt32) × app)
  handleGardSend :
    Option (app -> AppBuffers -> Nat -> UInt32 -> Bool × app × AppBuffers)

/-- An App Layer with one buffer, which accepts whatever fits into it. -/
def oneBufferCallbacks (bufferSize : UInt32) : HubAppLayerCallbacks Unit :=
  { getBufferForGardSendData := some fun a _ => (some (0, bufferSize), a)
    handleGardSend := some fun a buffers _ _ => (true, a, buffers) }

/-- `hub_gard_info` -/
structure HubGardInfo (app : Type) where
  pDalBusses : List DalBus
  activeDalBus : Option DalBus
  commandExecution : Bool
  pAppLayerCbs : Option (HubAppLayerCallbacks app)

variable {app : Type}

/-- The body of the loop of `hub_init` for one GARD.  The bus policy is always
`HUB_GARD_BUS_POLICY_USE_UART`; a GARD that ends up without an active bus makes
the initialisation fail. -/
def hubInitGard (gard : HubGardInfo app) : HubRetCode × HubGardInfo app :=
  let uart := gard.pDalBusses.find? fun bus => bus.busType = .uart
  let gard := { gard with activeDalBus := uart.or gard.activeDalBus }
  match gard.activeDalBus with
  | none => (.failureInit, gard)
  | some _ => (.success, { gard with commandExecution := false })

/-- After a successful initialisation the GARD has a bus and no command is
being executed. -/
theorem hubInitGard_success {gard ready : HubGardInfo app}
    (h : hubInitGard gard = (.success, ready)) :
    ready.activeDalBus.isSome = true ∧ ready.commandExecution = false := by
  unfold hubInitGard at h
  cases hbus : (gard.pDalBusses.find? fun bus => bus.busType = .uart).or
      gard.activeDalBus with
  | none =>
      simp [hbus] at h
  | some bus =>
      simp [hbus] at h
      cases h
      exact ⟨rfl, rfl⟩

/-- A GARD on a UART, as the discovery leaves it. -/
def foundGard (cbs : Option (HubAppLayerCallbacks app)) : HubGardInfo app :=
  { pDalBusses := [{ busType := .uart }]
    activeDalBus := none
    commandExecution := false
    pAppLayerCbs := cbs }

/-- The same GARD after the initialisation. -/
def readyGard (cbs : Option (HubAppLayerCallbacks app)) : HubGardInfo app :=
  { foundGard cbs with activeDalBus := some { busType := .uart } }

theorem hubInitGard_foundGard (cbs : Option (HubAppLayerCallbacks app)) :
    hubInitGard (foundGard cbs) = (.success, readyGard cbs) := rfl

end Hub
end GardHub
