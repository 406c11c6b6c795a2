import GardHub.Foundation.Ledger
import GardHub.Hub.Discovery
import GardHub.KtLib.BufFifo
import GardHub.KtLib.Operations

/-!
# Initialisation and release

`Kt_Init` and the HUB calls it makes allocate the blocks that the library works
on, and `Kt_Fini` is to give them back.  The ledger has the blocks; the buffers
of the application, which wait in the two FIFOs, are not among them.
-/

namespace GardHub
namespace KtLib

open Foundation
open Dal
open Hub

variable {device app : Type}

/-!
## The library
-/

/-- The blocks that `Kt_Init` allocates, itself or through the HUB. -/
inductive KtBlock where
  | ktContext
  | hubCtx
  | discoveredDevices
  | gards
  | dalBusses (j : Nat)
  | hmiMetadataBuffer
  | qrImageBuffer
  | appLayerCbs
deriving DecidableEq

/-- What the block behind `kt_ctxt` holds: the features, with the GARD they are
switched on, and the buffers in the FIFOs. -/
structure KtContents (device app : Type) where
  ops : OperationState device app
  metaBuffers : List MetaBuffer
  qrBuffers : List MetaBuffer

/-- `kt_ctxt`, which may be the null pointer, the blocks, and the buffers of the
application that were freed for it. -/
structure KtLibrary (device app : Type) where
  ktCtxt : Option (KtContents device app)
  ledger : Ledger KtBlock
  released : List MetaBuffer

/-- The library before the first `Kt_Init`. -/
def ktLibraryStart : KtLibrary device app :=
  { ktCtxt := none, ledger := Ledger.empty, released := [] }

/-!
## Initialisation
-/

/-- `KtConfig`: the buses and the flags for what is started at once. -/
structure KtConfig where
  dalHandles : HubConfig DalBus
  autoStartPipeline : Bool
  autoStartFaceIdDetect : Bool
  autoStartQrMonitor : Bool

/-- What `Kt_Init` is given and what it meets: the blocks for which there is
memory, the buses on which a GARD answers, the line behind the discovery, and
the stacks of the two calls that go to the GARD. -/
structure KtInitInput (device app : Type) where
  cfg : KtConfig
  served : KtBlock -> Bool
  found : Nat -> Bool
  line : BusLine device
  cbs : HubAppLayerCallbacks app
  faceStack : CallStack
  qrStack : CallStack

/-- Where `Kt_Init` stops: its assertions, in order, and a null pointer that is
followed. -/
inductive KtInitStop where
  | calledTwice
  | noContext
  | noHub
  | notDiscovered
  | notInitialised
  | notOneGard
  | noGardHandle
  | noMetadataBuffer
  | noQrImageBuffer
  | autoStart
  | crashed
deriving DecidableEq

section Initialisation

variable (port : Port device) (input : KtInitInput device app)

/-- The allocations of the discovery. -/
def KtInitInput.allocs : DiscoverAllocs :=
  { devices := input.served .discoveredDevices
    gards := input.served .gards
    dalBusses := fun j => input.served (.dalBusses j) }

/-- What the buses answer.  Every GARD has the same identifier. -/
def KtInitInput.answer (i : Nat) : Option ProfileId :=
  if input.found i then some hubGetGardProfileId else none

/-- The discovery of `Kt_Init`. -/
def KtInitInput.discovery : Discovery DalBus :=
  hubDiscoverGards input.allocs input.answer (hubPreinit input.cfg.dalHandles)

/-- The blocks that a discovery leaves behind. -/
def KtInitInput.discoveryBlocks : List KtBlock :=
  .gards :: ((List.range (uniqueDevices (discoverBusses
    (input.cfg.dalHandles.asked input.answer) [] 0).1).length).map
      KtBlock.dalBusses).filter input.served

/-- `hub_get_gard_handle` -/
def hubGetGardHandle (ctx : HubCtx DalBus) (gardIndex : Nat) :
    Option (GardRecord DalBus) :=
  if ctx.hubState ≠ .initDone then none
  else if ctx.numGards.toNat ≤ gardIndex then none
  else ctx.pGards.bind fun gards => gards[gardIndex]?

/-- A record behind `hub_set_app_layer_callbacks`. -/
def hubSetAppLayerCallbacks (gard : GardRecord DalBus)
    (cbs : HubAppLayerCallbacks app) : HubGardInfo app :=
  { pDalBusses := (gard.pDalBusses.getD []).filterMap id
    activeDalBus := gard.activeDalBus
    commandExecution := gard.commandExecution
    pAppLayerCbs := some cbs }

/-- The HUB calls of `Kt_Init`, up to the handle of its GARD. -/
def ktInitHub : Except KtInitStop (GardRecord DalBus) :=
  if !input.served .hubCtx then .error .noHub
  else if input.discovery.ret ≠ .success then .error .notDiscovered
  else
    match hubInit DalBus.busType input.discovery.ctx with
    | none => .error .crashed
    | some (.success, ctx) =>
        if ctx.numGards ≠ 1 then .error .notOneGard
        else
          match hubGetGardHandle ctx 0 with
          | none => .error .noGardHandle
          | some gard => .ok gard
    | some _ => .error .notInitialised

/-- A call that is made if a flag asks for it, unless an assertion has failed
before. -/
def callIf (flag : Bool) (call : OperationState device app ->
    OperationState device app) (s : OperationState device app) :
    OperationState device app :=
  if flag && !s.stopped then call s else s

/-- What `Kt_Init` starts by itself. -/
def ktAutoStart (s : OperationState device app) : OperationState device app :=
  let s := callIf input.cfg.autoStartPipeline ktStartPipeline s
  let s := callIf input.cfg.autoStartFaceIdDetect
    (fun s => ktStartFaceIdentification port s input.faceStack) s
  callIf input.cfg.autoStartQrMonitor
    (fun s => ktStartQrMonitor port s input.qrStack) s

/-- `Kt_Init`.  The callback table is written to whether or not there is memory
for it. -/
def ktInit (lib : KtLibrary device app) :
    Except KtInitStop (KtLibrary device app) :=
  if lib.ktCtxt.isSome then .error .calledTwice
  else if !input.served .ktContext then .error .noContext
  else
    match ktInitHub input with
    | .error stop => .error stop
    | .ok gard =>
        if !input.served .hmiMetadataBuffer then .error .noMetadataBuffer
        else if !input.served .qrImageBuffer then .error .noQrImageBuffer
        else if !input.served .appLayerCbs then .error .crashed
        else
          let ops := ktAutoStart port input
            (ktInitialised (hubSetAppLayerCallbacks gard input.cbs) input.line)
          if ops.stopped then .error .autoStart
          else
            .ok
              { ktCtxt :=
                  some { ops := ops, metaBuffers := [], qrBuffers := [] }
                ledger :=
                  ((lib.ledger.allocate
                    ([.ktContext, .hubCtx, .discoveredDevices] ++
                      input.discoveryBlocks)).free .discoveredDevices).allocate
                        [.hmiMetadataBuffer, .qrImageBuffer, .appLayerCbs]
                released := lib.released }

end Initialisation

/-!
## Operations
-/

/-- The operations of the library between `Kt_Init` and `Kt_Fini`.  What the
dispatcher makes of the data of the GARD concerns the FIFO and the line. -/
inductive KtLibOp (device : Type) where
  | call (call : KtCall × CallStack)
  | addMetadataBuffer (buffer : MetaBuffer)
  | addQrStringBuffer (buffer : MetaBuffer)
  | releaseMetadataBuffers
  | releaseQrStringBuffers
  | dispatch (metaBuffers : List MetaBuffer) (line : BusLine device)

/-- The assertions of `Kt_AddBufferToFifo`. -/
def MetaBuffer.accepted (buffer : MetaBuffer) : Bool :=
  buffer.address ≠ 0 && minBufSize ≤ buffer.length

/-- An operation on a context, with the buffers it frees. -/
def KtContents.operate (port : Port device) (ctxt : KtContents device app) :
    KtLibOp device -> Option (KtContents device app × List MetaBuffer)
  | .call call =>
      (ktCall port ctxt.ops call).map fun ops => ({ ctxt with ops := ops }, [])
  | .addMetadataBuffer buffer =>
      if buffer.accepted then
        some ({ ctxt with metaBuffers := ctxt.metaBuffers ++ [buffer] }, [])
      else none
  | .addQrStringBuffer buffer =>
      if buffer.accepted then
        some ({ ctxt with qrBuffers := ctxt.qrBuffers ++ [buffer] }, [])
      else none
  | .releaseMetadataBuffers =>
      some ({ ctxt with metaBuffers := [] }, ctxt.metaBuffers)
  | .releaseQrStringBuffers =>
      some ({ ctxt with qrBuffers := [] }, ctxt.qrBuffers)
  | .dispatch metaBuffers line =>
      some ({ ctxt with
        metaBuffers := metaBuffers
        ops := { ctxt.ops with line := line } }, [])

/-- An operation of the library, which does not return if an assertion fails. -/
def ktLibStep (port : Port device) (lib : KtLibrary device app)
    (op : KtLibOp device) : Option (KtLibrary device app) :=
  lib.ktCtxt.bind fun ctxt =>
    if ctxt.ops.stopped then none
    else
      (ctxt.operate port op).map fun result =>
        { lib with
          ktCtxt := some result.1
          released := lib.released ++ result.2 }

/-!
## Release
-/

/-- The stacks of the calls that `Kt_Fini` makes. -/
structure FiniStacks where
  qr : CallStack
  face : CallStack

/-- `Kt_Fini` switches off what is active. -/
def ktFiniOps (port : Port device) (finiStacks : FiniStacks)
    (s : OperationState device app) : OperationState device app :=
  let s := callIf s.features.qrMonitorActive
    (fun s => ktStopQrMonitor port s finiStacks.qr) s
  let s := callIf s.features.faceIdMonitoringActive
    (fun s => ktStopFaceIdentification port s finiStacks.face) s
  callIf true ktStopPipeline s

/-- `Kt_Fini` for the handle that `Kt_Init` has returned, which does not return if
an assertion fails. -/
def ktFini (port : Port device) (finiStacks : FiniStacks)
    (lib : KtLibrary device app) : Option (KtLibrary device app) :=
  lib.ktCtxt.bind fun ctxt =>
    let ops := ktFiniOps port finiStacks ctxt.ops
    if ops.stopped then none
    else
      some
        { ktCtxt := some { ops := ops, metaBuffers := [], qrBuffers := [] }
          ledger := lib.ledger.free .ktContext
          released := lib.released ++ ctxt.metaBuffers ++ ctxt.qrBuffers }

/-!
## What is left
-/

section Left

variable {port : Port device} {input : KtInitInput device app}
  {lib lib' : KtLibrary device app}

/-- `Kt_Fini` returns, every block has been freed once, the pointer is null, and
no `Kt_Init` stops because of an earlier one. -/
def FiniRestores (port : Port device) (finiStacks : FiniStacks)
    (lib : KtLibrary device app) : Prop :=
  exists lib', ktFini port finiStacks lib = some lib' ∧ lib'.ledger.Settled ∧
    lib'.ktCtxt = none ∧
    forall next, ktInit port next lib' ≠ .error .calledTwice

/-- What `Kt_Fini` leaves instead: blocks that nothing frees any more, and a
pointer at which the next `Kt_Init` stops. -/
structure Abandoned (port : Port device) (lib : KtLibrary device app) :
    Prop where
  unsettled : forall b,
    b ∈ [KtBlock.hubCtx, .gards, .hmiMetadataBuffer, .qrImageBuffer,
      .appLayerCbs] ->
    b ∈ lib.ledger.allocated ∧ b ∉ lib.ledger.freed
  pointer : lib.ktCtxt ≠ none
  stops : forall next, ktInit port next lib = .error .calledTwice

/-- The blocks of a library that `Kt_Init` has returned. -/
def Allocated (lib : KtLibrary device app) : Prop :=
  lib.ledger.freed = [.discoveredDevices] ∧
    forall b, b ∈ [KtBlock.hubCtx, .gards, .hmiMetadataBuffer, .qrImageBuffer,
      .appLayerCbs] -> b ∈ lib.ledger.allocated

theorem ktInit_allocated (h : ktInit port input ktLibraryStart = .ok lib) :
    Allocated lib := by
  unfold ktInit at h
  split at h
  · cases h
  split at h
  · cases h
  cases hhub : ktInitHub input with
  | error stop =>
      rw [hhub] at h
      cases h
  | ok gard =>
      simp only [hhub] at h
      split at h
      · cases h
      split at h
      · cases h
      split at h
      · cases h
      split at h
      · cases h
      · cases h
        constructor
        · rfl
        · intro b hb
          simp only [ktLibraryStart, Ledger.mem_allocate, Ledger.free_allocated,
            KtInitInput.discoveryBlocks]
          fin_cases hb <;> simp

theorem ktLibStep_ledger {op : KtLibOp device}
    (h : ktLibStep port lib op = some lib') : lib'.ledger = lib.ledger := by
  rcases Option.bind_eq_some_iff.mp h with ⟨ctxt, -, hstep⟩
  split at hstep
  · cases hstep
  · rcases Option.map_eq_some_iff.mp hstep with ⟨result, -, rfl⟩
    rfl

theorem runActions_ledger {ops : List (KtLibOp device)}
    (h : runActions (ktLibStep port) lib ops = some lib') :
    lib'.ledger = lib.ledger := by
  induction ops generalizing lib with
  | nil =>
      cases h
      rfl
  | cons op rest ih =>
      rcases Option.bind_eq_some_iff.mp h with ⟨mid, hmid, hrest⟩
      rw [ih hrest, ktLibStep_ledger hmid]

theorem ktFini_eq {finiStacks : FiniStacks}
    (h : ktFini port finiStacks lib = some lib') :
    lib'.ledger = lib.ledger.free .ktContext ∧ lib'.ktCtxt ≠ none := by
  rcases Option.bind_eq_some_iff.mp h with ⟨ctxt, -, hfini⟩
  dsimp only at hfini
  split at hfini
  · cases hfini
  · cases hfini
    exact ⟨rfl, by simp⟩

theorem ktInit_calledTwice (h : lib.ktCtxt ≠ none)
    (next : KtInitInput device app) :
    ktInit port next lib = .error .calledTwice :=
  if_pos (Option.isSome_iff_ne_none.mpr h)

theorem ktFini_abandoned {finiStacks : FiniStacks} (hlib : Allocated lib)
    (h : ktFini port finiStacks lib = some lib') : Abandoned port lib' := by
  rcases ktFini_eq h with ⟨hledger, hpointer⟩
  rcases hlib with ⟨hfreed, hallocated⟩
  refine ⟨?_, hpointer, ktInit_calledTwice hpointer⟩
  intro b hb
  rw [hledger, Ledger.free_allocated, Ledger.mem_free, hfreed]
  refine ⟨hallocated b hb, ?_⟩
  fin_cases hb <;> simp

/-- Whatever was configured, met and done, `Kt_Fini` does not restore the
library: if it returns, five blocks are abandoned and the pointer stays. -/
theorem ktFini_restores_nothing (port : Port device)
    (input : KtInitInput device app) (ops : List (KtLibOp device))
    (finiStacks : FiniStacks) (lib lib' : KtLibrary device app)
    (hinit : ktInit port input ktLibraryStart = .ok lib)
    (hops : runActions (ktLibStep port) lib ops = some lib') :
    ¬ FiniRestores port finiStacks lib' ∧
      forall lib'', ktFini port finiStacks lib' = some lib'' ->
        Abandoned port lib'' := by
  have hlib : Allocated lib' := by
    rw [Allocated, runActions_ledger hops]
    exact ktInit_allocated hinit
  constructor
  · rintro ⟨lib'', hfini, -, hnull, -⟩
    exact (ktFini_abandoned hlib hfini).pointer hnull
  · intro lib'' hfini
    exact ktFini_abandoned hlib hfini

/-- A stack of zeros. -/
def zeroStack : CallStack :=
  { appResponse := List.replicate gardAppLayerResponsesSize 0
    hubResponse := []
    appResponse_length := List.length_replicate }

/-- One UART with a GARD, all memory, and nothing that is started at once. -/
def oneUartInput : KtInitInput ByteStream Unit :=
  { cfg :=
      { dalHandles := ⟨[{ busType := .uart }], by decide⟩
        autoStartPipeline := false
        autoStartFaceIdDetect := false
        autoStartQrMonitor := false }
    served := fun _ => true
    found := fun _ => true
    line := streamLine []
    cbs := oneBufferCallbacks 0
    faceStack := zeroStack
    qrStack := zeroStack }

theorem ktFini_restores_nothing_oneUart :
    exists lib lib' : KtLibrary ByteStream Unit,
      ktInit streamPort oneUartInput ktLibraryStart = .ok lib ∧
      runActions (ktLibStep streamPort) lib
        [.call (.startPipeline, zeroStack), .addMetadataBuffer ⟨4096, 1024⟩] =
          some lib' ∧
      ¬ FiniRestores streamPort ⟨zeroStack, zeroStack⟩ lib' :=
  ⟨_, _, rfl, rfl, (ktFini_restores_nothing streamPort oneUartInput
    [.call (.startPipeline, zeroStack), .addMetadataBuffer ⟨4096, 1024⟩]
    ⟨zeroStack, zeroStack⟩ _ _ rfl rfl).1⟩

/-- `Kt_Init` and `Kt_Fini` with nothing in between: both return, the HUB context
is not freed, and a second `Kt_Init` stops. -/
theorem ktInit_stopsAfterFini :
    exists lib lib' : KtLibrary ByteStream Unit,
      ktInit streamPort oneUartInput ktLibraryStart = .ok lib ∧
      ktFini streamPort ⟨zeroStack, zeroStack⟩ lib = some lib' ∧
      KtBlock.hubCtx ∈ lib'.ledger.allocated ∧
      KtBlock.hubCtx ∉ lib'.ledger.freed ∧
      ktInit streamPort oneUartInput lib' = .error .calledTwice ∧
      ¬ FiniRestores streamPort ⟨zeroStack, zeroStack⟩ lib := by
  refine ⟨_, _, rfl, rfl, by simp, by simp [ktLibraryStart, Ledger.empty], rfl,
    ?_⟩
  rintro ⟨lib', hfini, -, hnull, -⟩
  exact (ktFini_eq hfini).2 hnull

end Left

end KtLib
end GardHub
