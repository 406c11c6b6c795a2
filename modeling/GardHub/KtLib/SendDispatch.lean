import GardHub.KtLib.Dispatcher

/-!
# Two switches over one command

KtLib looks at the command of a payload twice: at the first bytes, to choose a
staging buffer, and at the whole payload in that buffer, to choose a handler.
-/

namespace GardHub
namespace KtLib

open Foundation
open Interface
open Hub

variable {app : Type}

/-- A call of a handler: `Kt_HandleReceivedMetadata` or
`Kt_HandleReceivedQRImage`, with the message and its size. -/
structure HandlerCall where
  command : AppLayerSendCommand
  pBuffer : Memory
  bufferSize : UInt32

/-- The bytes that a handler is given. -/
def HandlerCall.bytes (call : HandlerCall) : List UInt8 :=
  call.pBuffer.load 0 call.bufferSize.toNat

/-- What the handlers do with a call. -/
abbrev Handlers (app : Type) : Type :=
  HandlerCall -> KtState app -> MetaOutcome × KtState app

/-- The handlers of KtLib. -/
def ktHandlers (cbs : KtCallbacks app) : Handlers app := fun call s =>
  match call.command with
  | .hmiMetadata =>
      ktHandleReceivedMetadata cbs call.pBuffer call.bufferSize.toNat s
  | .qrCodeImage =>
      (.returned (ktHandleReceivedQRImage call.pBuffer call.bufferSize), s)

/-- The call that `Kt_HandleGardSendData` makes.  The size of the command is
taken off for metadata only. -/
def handlerCall (buffer : Memory) (bufferSize : UInt32) : Option HandlerCall :=
  if buffer 0 = AppLayerSendCommand.hmiMetadata.code then
    some
      { command := .hmiMetadata
        pBuffer := appLayerSend buffer
        bufferSize := bufferSize - 1 }
  else if buffer 0 = AppLayerSendCommand.qrCodeImage.code then
    some
      { command := .qrCodeImage
        pBuffer := appLayerSend buffer
        bufferSize := bufferSize }
  else none

/-- What is made of the result of a handler.  For an image it is what the size
of the command is taken off. -/
def returnedFor (command : AppLayerSendCommand) (handled : Bool) : Bool :=
  match command with
  | .hmiMetadata => handled
  | .qrCodeImage => (if handled then 1 else 0 : UInt8) - 1 ≠ 0

/-- `Kt_HandleGardSendData` with any handlers. -/
def dispatchSendData (handlers : Handlers app) (buffer : Memory)
    (bufferSize : UInt32) (s : KtState app) : MetaOutcome × KtState app :=
  match handlerCall buffer bufferSize with
  | none => (.returned false, s)
  | some call =>
      match handlers call s with
      | (.returned handled, s) => (.returned (returnedFor call.command handled), s)
      | (.assertFailed site, s) => (.assertFailed site, s)

theorem ktHandleGardSendData_eq (cbs : KtCallbacks app) (buffer : Memory)
    (bufferSize : UInt32) (s : KtState app) :
    ktHandleGardSendData cbs buffer bufferSize s =
      dispatchSendData (ktHandlers cbs) buffer bufferSize s := by
  unfold ktHandleGardSendData dispatchSendData handlerCall
  by_cases hmetadata : buffer 0 = AppLayerSendCommand.hmiMetadata.code
  · rw [if_pos hmetadata, if_pos hmetadata]
    simp only [ktHandlers]
    cases ktHandleReceivedMetadata cbs (appLayerSend buffer)
        (bufferSize - 1).toNat s with
    | mk outcome s' =>
        cases outcome <;> rfl
  · rw [if_neg hmetadata, if_neg hmetadata]
    by_cases himage : buffer 0 = AppLayerSendCommand.qrCodeImage.code
    · rw [if_pos himage, if_pos himage]
      rfl
    · rw [if_neg himage, if_neg himage]

/-- The staging buffer for a command. -/
def stagingBuffer : AppLayerSendCommand -> Nat × UInt32
  | .hmiMetadata => (kcHmiMetadataBuffer, maxHmiMetadataBufferSize)
  | .qrCodeImage => (kcQrImageBuffer, maxQrImageBufferSize)

/-- The payload in a buffer goes to the handler for whose command the buffer was
chosen, without the command and whole, and what that handler returns is
returned. -/
structure DispatchedAsChosen (buffer : Memory) (bufferSize : UInt32) :
    Prop where
  command : ktGetBufferForGardSendData (buffer.load 0 appLayerPeekBufferSize) =
    (handlerCall buffer bufferSize).map fun call => stagingBuffer call.command
  bytes : forall call, handlerCall buffer bufferSize = some call ->
    call.bytes = (buffer.load 0 bufferSize.toNat).tail
  returned : forall (app : Type) (handlers : Handlers app) (s : KtState app),
    (dispatchSendData handlers buffer bufferSize s).1 = .returned true <->
      exists call, handlerCall buffer bufferSize = some call ∧
        (handlers call s).1 = .returned true

/-!
## The two switches
-/

section Dispatch

variable {buffer : Memory} {bufferSize : UInt32}

theorem load_succ (m : Memory) (count : Nat) :
    m.load 0 (count + 1) = m 0 :: (appLayerSend m).load 0 count := by
  simp only [Memory.load, List.range_succ_eq_map, List.map_cons, List.map_map]
  refine congrArg₂ List.cons rfl (List.map_congr_left ?_)
  intro i _
  simp only [Function.comp_apply, appLayerSend]
  congr 1

/-- The buffer is chosen by the byte that the handler is chosen by. -/
theorem ktGetBufferForGardSendData_eq_handlerCall (buffer : Memory)
    (bufferSize : UInt32) :
    ktGetBufferForGardSendData (buffer.load 0 appLayerPeekBufferSize) =
      (handlerCall buffer bufferSize).map
        fun call => stagingBuffer call.command := by
  have hfirst : (buffer.load 0 appLayerPeekBufferSize).getD 0 0 = buffer 0 := by
    rw [appLayerPeekBufferSize, load_succ, List.getD_cons_zero]
  unfold ktGetBufferForGardSendData handlerCall
  rw [hfirst]
  by_cases hmetadata : buffer 0 = AppLayerSendCommand.hmiMetadata.code
  · rw [if_pos hmetadata, if_pos hmetadata]
    rfl
  · rw [if_neg hmetadata, if_neg hmetadata]
    by_cases himage : buffer 0 = AppLayerSendCommand.qrCodeImage.code
    · rw [if_pos himage, if_pos himage]
      rfl
    · rw [if_neg himage, if_neg himage]
      rfl

/-- The bytes of a call are those behind the command if, and only if, its size
is that of the payload without the command. -/
theorem bytes_eq_tail_iff {call : HandlerCall} (hsize : 1 ≤ bufferSize.toNat)
    (hbuffer : call.pBuffer = appLayerSend buffer) :
    call.bytes = (buffer.load 0 bufferSize.toNat).tail <->
      call.bufferSize.toNat = bufferSize.toNat - 1 := by
  have htail : (buffer.load 0 bufferSize.toNat).tail =
      (appLayerSend buffer).load 0 (bufferSize.toNat - 1) := by
    have hsucc : bufferSize.toNat = bufferSize.toNat - 1 + 1 := by
      lia
    rw [hsucc, load_succ, List.tail_cons, Nat.add_sub_cancel]
  rw [HandlerCall.bytes, hbuffer, htail]
  constructor
  · intro h
    simpa using congrArg List.length h
  · intro h
    rw [h]

theorem dispatchSendData_returned {handlers : Handlers app} {s : KtState app}
    (hkept : forall call, handlerCall buffer bufferSize = some call ->
      call.command = .hmiMetadata) :
    (dispatchSendData handlers buffer bufferSize s).1 = .returned true <->
      exists call, handlerCall buffer bufferSize = some call ∧
        (handlers call s).1 = .returned true := by
  unfold dispatchSendData
  cases hcall : handlerCall buffer bufferSize with
  | none =>
      simp
  | some call =>
      have hcommand := hkept call hcall
      simp only [Option.some.injEq, exists_eq_left']
      cases handlers call s with
      | mk outcome s' =>
          cases outcome <;> simp [hcommand, returnedFor]

/-- A payload is dispatched as its buffer was chosen, and what its handler
returns is returned, exactly if it is not an image. -/
theorem ktHandleGardSendData_dispatchedAsChosen_iff (buffer : Memory)
    (bufferSize : UInt32) (hsize : 4 ≤ bufferSize.toNat) :
    (forall (app : Type) (cbs : KtCallbacks app) (s : KtState app),
      ktHandleGardSendData cbs buffer bufferSize s =
        dispatchSendData (ktHandlers cbs) buffer bufferSize s) ∧
      (DispatchedAsChosen buffer bufferSize <->
        buffer 0 ≠ AppLayerSendCommand.qrCodeImage.code) := by
  refine ⟨fun _ cbs s => ktHandleGardSendData_eq cbs buffer bufferSize s, ?_⟩
  constructor
  · intro h himage
    have hmetadata : buffer 0 ≠ AppLayerSendCommand.hmiMetadata.code := by
      rw [himage]
      decide
    have hcall : handlerCall buffer bufferSize =
        some ⟨.qrCodeImage, appLayerSend buffer, bufferSize⟩ := by
      rw [handlerCall, if_neg hmetadata, if_pos himage]
    have hbytes := h.bytes _ hcall
    rw [bytes_eq_tail_iff (by lia) rfl] at hbytes
    simp only at hbytes
    lia
  · intro himage
    have hcall : forall call, handlerCall buffer bufferSize = some call ->
        call = ⟨.hmiMetadata, appLayerSend buffer, bufferSize - 1⟩ := by
      intro call hcall
      unfold handlerCall at hcall
      by_cases hmetadata : buffer 0 = AppLayerSendCommand.hmiMetadata.code
      · rw [if_pos hmetadata] at hcall
        exact (Option.some.inj hcall).symm
      · rw [if_neg hmetadata, if_neg himage] at hcall
        cases hcall
    refine ⟨ktGetBufferForGardSendData_eq_handlerCall buffer bufferSize, ?_, ?_⟩
    · intro call hsome
      rw [hcall call hsome, bytes_eq_tail_iff (by lia) rfl]
      have hle : 1 ≤ bufferSize := by
        rw [UInt32.le_iff_toNat_le]
        exact le_trans (by decide) hsize
      exact UInt32.toNat_sub_of_le _ _ hle
    · intro app handlers s
      apply dispatchSendData_returned
      intro call hsome
      rw [hcall call hsome]

end Dispatch

/-- Metadata with three bytes behind the command. -/
theorem ktHandleGardSendData_dispatchedAsChosen_metadata :
    (forall (app : Type) (cbs : KtCallbacks app) (s : KtState app),
      ktHandleGardSendData cbs (received [0x07, 1, 2, 3]) 4 s =
        dispatchSendData (ktHandlers cbs) (received [0x07, 1, 2, 3]) 4 s) ∧
      (DispatchedAsChosen (received [0x07, 1, 2, 3]) 4 <->
        received [0x07, 1, 2, 3] 0 ≠ AppLayerSendCommand.qrCodeImage.code) :=
  ktHandleGardSendData_dispatchedAsChosen_iff _ _ (by decide)

/-- An image with three bytes behind the command: the handler is given four, and
as it returns false, true is returned. -/
theorem ktHandleGardSendData_image :
    ¬ DispatchedAsChosen (received [0x0A, 1, 2, 3]) 4 ∧
      (handlerCall (received [0x0A, 1, 2, 3]) 4).map
        (fun call => call.bytes) = some [1, 2, 3, 0] ∧
      (ktHandlers keepingCallbacks
        ⟨.qrCodeImage, appLayerSend (received [0x0A, 1, 2, 3]), 4⟩
        (twoBuffers fun _ => 0)).1 = .returned false ∧
      (ktHandleGardSendData keepingCallbacks (received [0x0A, 1, 2, 3]) 4
        (twoBuffers fun _ => 0)).1 = .returned true := by
  refine ⟨?_, by decide, rfl, rfl⟩
  intro h
  have hcall : handlerCall (received [0x0A, 1, 2, 3]) 4 =
      some ⟨.qrCodeImage, appLayerSend (received [0x0A, 1, 2, 3]), 4⟩ := rfl
  have hbytes := h.bytes _ hcall
  revert hbytes
  decide

end KtLib
end GardHub
