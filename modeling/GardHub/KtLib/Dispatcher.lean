import GardHub.Hub.FrameStream
import GardHub.KtLib.ReceivedBytes

/-!
# Dispatching data from the GARD

The callbacks that KtLib gives to the HUB.  The first byte of a payload selects
the staging buffer and, once the payload is in it, the handler.  With them in
place, the messages on the line are handled one after another, each of them as
if nothing had been in the staging buffer before.
-/

namespace GardHub
namespace KtLib

open Foundation
open Interface
open Hub

variable {app : Type}

/-- `MAX_HMI_METADATA_BUFFER_SIZE` -/
def maxHmiMetadataBufferSize : UInt32 := 2048

/-- `MAX_QR_IMAGE_BUFFER_SIZE` -/
def maxQrImageBufferSize : UInt32 := 1920 * 1080 * 1

/-- `kc__hmi_metadata_buffer` among the buffers of the App Layer. -/
def kcHmiMetadataBuffer : Nat := 0

/-- `kc__qr_image_buffer` among the buffers of the App Layer. -/
def kcQrImageBuffer : Nat := 1

/-- `Kt_Context`, and the assertion that has failed and is not left any more. -/
structure KtContext (app : Type) where
  lib : KtState app
  stopped : Option AssertSite

/-- `Kt_GetBufferForGardSendData` -/
def ktGetBufferForGardSendData (peekBuffer : List UInt8) :
    Option (Nat × UInt32) :=
  if peekBuffer.getD 0 0 = AppLayerSendCommand.hmiMetadata.code then
    some (kcHmiMetadataBuffer, maxHmiMetadataBufferSize)
  else if peekBuffer.getD 0 0 = AppLayerSendCommand.qrCodeImage.code then
    some (kcQrImageBuffer, maxQrImageBufferSize)
  else none

/-- `Kt_HandleReceivedQRImage` -/
def ktHandleReceivedQRImage (_ : Memory) (_ : UInt32) : Bool := false

/-- The union behind `gard_app_layer_send_command`. -/
def appLayerSend (buffer : Memory) : Memory := fun x => buffer (x + 1)

/-- `Kt_HandleGardSendData`.  For an image, the size of the command is subtracted
from what the handler returns; a `bool` is a `uint8_t`. -/
def ktHandleGardSendData (cbs : KtCallbacks app) (buffer : Memory)
    (bufferSize : UInt32) (s : KtState app) : MetaOutcome × KtState app :=
  if buffer 0 = AppLayerSendCommand.hmiMetadata.code then
    ktHandleReceivedMetadata cbs (appLayerSend buffer) (bufferSize - 1).toNat s
  else if buffer 0 = AppLayerSendCommand.qrCodeImage.code then
    let handled := ktHandleReceivedQRImage (appLayerSend buffer) bufferSize
    (.returned ((if handled then 1 else 0 : UInt8) - 1 ≠ 0), s)
  else (.returned false, s)

/-- The context behind a handler. -/
def KtContext.ofOutcome :
    MetaOutcome × KtState app -> Bool × KtContext app
  | (.returned ret, s) => (ret, { lib := s, stopped := none })
  | (.assertFailed site, s) => (false, { lib := s, stopped := some site })

/-- The handler, called with the context.  Once an assertion has failed nothing
is handled any more. -/
def KtContext.handleSend (cbs : KtCallbacks app) (ctxt : KtContext app)
    (buffer : Memory) (bufferSize : UInt32) : Bool × KtContext app :=
  match ctxt.stopped with
  | some _ => (false, ctxt)
  | none =>
      KtContext.ofOutcome (ktHandleGardSendData cbs buffer bufferSize ctxt.lib)

/-- The callbacks that `Kt_Init` hooks up. -/
def ktAppLayerCbs (cbs : KtCallbacks app) :
    HubAppLayerCallbacks (KtContext app) :=
  { getBufferForGardSendData := some fun ctxt peekBuffer =>
      (ktGetBufferForGardSendData peekBuffer, ctxt)
    handleGardSend := some fun ctxt buffers pBuffer bufferSize =>
      let result := ctxt.handleSend cbs (buffers pBuffer) bufferSize
      (result.1, result.2, buffers) }

/-- The size of the staging buffer for a command. -/
def stagingSize : AppLayerSendCommand -> Nat
  | .hmiMetadata => maxHmiMetadataBufferSize.toNat
  | .qrCodeImage => maxQrImageBufferSize.toNat

/-- The HUB gets a buffer for every command that KtLib knows. -/
theorem ktAppLayerCbs_serves (cbs : KtCallbacks app) :
    Serves (ktAppLayerCbs cbs) stagingSize := by
  refine ⟨_, _, rfl, rfl, ?_⟩
  intro ctxt peek command hhead
  have hfirst : peek.getD 0 0 = command.code := by
    rw [List.getD_eq_getElem?_getD, ← List.head?_eq_getElem?, hhead]
    rfl
  cases command with
  | hmiMetadata =>
      refine ⟨kcHmiMetadataBuffer, maxHmiMetadataBufferSize, ctxt, ?_, le_rfl⟩
      rw [ktGetBufferForGardSendData, if_pos hfirst]
  | qrCodeImage =>
      refine ⟨kcQrImageBuffer, maxQrImageBufferSize, ctxt, ?_, le_rfl⟩
      rw [ktGetBufferForGardSendData, if_neg (by rw [hfirst]; decide),
        if_pos hfirst]

/-!
## Messages
-/

/-- What KtLib makes of a payload, given nothing but the payload: it handles the
message behind the command, and leaves images alone. -/
def KtContext.takePayload (cbs : KtCallbacks app) (ctxt : KtContext app)
    (payload : List UInt8) : KtContext app :=
  match ctxt.stopped with
  | some _ => ctxt
  | none =>
      if payload.head? = some AppLayerSendCommand.hmiMetadata.code then
        (KtContext.ofOutcome (ktHandleReceivedMetadata cbs
          (received payload.tail) payload.tail.length ctxt.lib)).2
      else ctxt

/-- Everything that is read of a payload is in it. -/
def PayloadReceived (payload : List UInt8) : Prop :=
  payload.head? = some AppLayerSendCommand.hmiMetadata.code ->
    4 ≤ payload.tail.length ∧
      MessageReceived (received payload.tail) payload.tail.length

/-- Behind the command, a staging buffer that holds a payload holds the
message. -/
theorem sameReceived_appLayerSend {buffer : Memory} {command : UInt8}
    {message : List UInt8}
    (hload : buffer.load 0 (command :: message).length = command :: message) :
    buffer 0 = command ∧
      SameReceived message.length (received message) (appLayerSend buffer) := by
  have hbytes : forall i, i < (command :: message).length ->
      buffer (i : Int) = (command :: message).getD i 0 := by
    intro i hi
    have hget : (buffer.load 0 (command :: message).length).getD i 0 =
        buffer i := by
      rw [Memory.load, List.getD_eq_getElem _ _ (by simpa using hi),
        List.getElem_map, List.getElem_range, zero_add]
    rw [← hget, hload]
  constructor
  · simpa using hbytes 0 (by simp)
  · intro x hlow hhigh
    have hbyte := hbytes (x.toNat + 1) (by simp; lia)
    have haddress : ((x.toNat + 1 : Nat) : Int) = x + 1 := by
      lia
    rw [haddress, List.getD_cons_succ] at hbyte
    rw [appLayerSend, hbyte, received, if_pos hlow]

/-- A payload is handled without what the staging buffer held before. -/
theorem KtContext.handleSend_eq (cbs : KtCallbacks app) (ctxt : KtContext app)
    {buffer : Memory} {payload : List UInt8} (hne : payload ≠ [])
    (hsize : payload.length < 2 ^ 24)
    (hload : buffer.load 0 payload.length = payload)
    (hreceived : PayloadReceived payload) :
    (ctxt.handleSend cbs buffer (UInt32.ofNat payload.length)).2 =
      ctxt.takePayload cbs payload := by
  cases payload with
  | nil =>
      exact absurd rfl hne
  | cons command message =>
      rcases sameReceived_appLayerSend hload with ⟨hcommand, hsame⟩
      unfold KtContext.handleSend KtContext.takePayload
      cases hstopped : ctxt.stopped with
      | some site =>
          rfl
      | none =>
          unfold ktHandleGardSendData
          by_cases hmetadata :
              command = AppLayerSendCommand.hmiMetadata.code
          · have hlength : (UInt32.ofNat (command :: message).length - 1).toNat =
                message.length := by
              have hle : 1 ≤ UInt32.ofNat (command :: message).length := by
                rw [UInt32.le_iff_toNat_le, toNat_payloadSize hsize]
                simp
              rw [UInt32.toNat_sub_of_le _ _ hle, toNat_payloadSize hsize]
              simp
            have hhead : (command :: message).head? =
                some AppLayerSendCommand.hmiMetadata.code := by
              rw [List.head?_cons, hmetadata]
            rcases hreceived hhead with ⟨hfour, hmessage⟩
            have hdepends := hmessage.dependsOnReceived hfour
              (appLayerSend buffer) hsame app cbs ctxt.lib
            rw [List.tail_cons] at hdepends
            simp only [hcommand, if_pos hmetadata, if_pos hhead, hlength,
              List.tail_cons, hdepends]
          · have hhead : (command :: message).head? ≠
                some AppLayerSendCommand.hmiMetadata.code := by
              simpa using hmetadata
            simp only [hcommand, if_neg hmetadata, if_neg hhead]
            split <;> simp [KtContext.ofOutcome, ← hstopped]

/-- Payloads that are handled one after another are handled on their own. -/
theorem foldl_takePayload_of_handledAll {cbs : KtCallbacks app}
    {payloads : List (List UInt8)} {before after : KtContext app}
    (h : HandledAll (ktAppLayerCbs cbs) payloads before after)
    (hpayloads : forall payload, payload ∈ payloads -> payload ≠ [] ∧
      payload.length < 2 ^ 24 ∧ PayloadReceived payload) :
    after = payloads.foldl (KtContext.takePayload cbs) before := by
  induction payloads generalizing before with
  | nil =>
      exact h
  | cons payload rest ih =>
      rcases h with ⟨mid, hhandled, hrest⟩
      rcases hhandled with
        ⟨getBuffer, handle, pBuffer, bufferSize, asked, buffers, hget, hhandle,
          hanswer, hload, hmid⟩
      rcases hpayloads payload List.mem_cons_self
        with ⟨hne, hsize, hreceived⟩
      cases hget
      cases hhandle
      have hasked : before = asked := congrArg Prod.snd hanswer
      have hstep : mid = before.takePayload cbs payload := by
        rw [hmid, ← hasked]
        exact KtContext.handleSend_eq cbs before hne hsize hload hreceived
      rw [List.foldl_cons, ← hstep]
      exact ih hrest fun later hmem =>
        hpayloads later (List.mem_cons_of_mem _ hmem)

/-!
## Streams of messages
-/

/-- Checks take the items off the line, and what KtLib makes of them depends on
the payloads alone, in the order in which they were sent. -/
theorem checks_take_payloads {cbs : KtCallbacks app} (items : List StreamItem)
    (hitems : forall item, item ∈ items -> item.WellFormed stagingSize)
    (hreceived : forall item, item ∈ items ->
      forall payload, payload ∈ item.payloads -> PayloadReceived payload)
    (checks : Nat) (world : HubWorld ByteStream (KtContext app))
    (hlistening : Listening stagingSize world)
    (hcbs : world.gard.pAppLayerCbs = some (ktAppLayerCbs cbs))
    (hline : world.line.state.incoming = items.flatMap StreamItem.bytes) :
    exists next,
      runActions (performCall streamPort) world
          (List.replicate checks .checkAndExecuteGardCommand) = some next ∧
      Took world next ((items.drop checks).flatMap StreamItem.bytes)
        ((items.take checks).flatMap StreamItem.response)
        ((items.take checks).flatMap StreamItem.delivery) ∧
      next.app = ((items.take checks).flatMap StreamItem.payloads).foldl
        (KtContext.takePayload cbs) world.app := by
  rcases checks_handle_items items hitems checks world hlistening hcbs hline
    with ⟨next, hrun, htook, hhandled⟩
  refine ⟨next, hrun, htook, foldl_takePayload_of_handledAll hhandled ?_⟩
  intro payload hmem
  rcases List.mem_flatMap.mp hmem with ⟨item, hitem, hpayload⟩
  have hitem' := List.mem_of_mem_take hitem
  rcases (hitems item hitem').payloads hpayload with ⟨hlow, hhigh, -⟩
  refine ⟨?_, hhigh, hreceived item hitem' payload hpayload⟩
  intro hnil
  rw [hnil] at hlow
  simp at hlow

/-- A message that follows the layout has been received as far as it is read. -/
theorem Conforming.messageReceived {rx : Memory} {bufferSize : Nat}
    (h : Conforming rx bufferSize) : MessageReceived rx bufferSize := by
  have hnonneg := h.nbUsers_nonneg
  have hcount := h.loopCount_eq
  have hend : idealUserOffset rx ≤ bufferSize := by
    rcases h.idealUser with hend | ⟨hend, -⟩ <;> lia
  unfold idealUserOffset trackedUser at hend
  refine Or.inr ⟨by lia, Or.inr ⟨by lia, ?_⟩⟩
  by_cases hzero : nbUsers rx = 0
  · exact Or.inr (Or.inl hzero)
  · refine Or.inr (Or.inr ⟨by lia, ?_⟩)
    split
    · rename_i hstarted
      rcases h.idealUser with hstop | ⟨hroom, -⟩
      · lia
      · exact Or.inr (Or.inl (by lia))
    · refine Or.inr ⟨?_, Or.inl ?_⟩ <;> unfold trackedUser <;> lia

/-- A frame with a message that follows the layout reaches the application as
the reports of the message. -/
theorem takePayload_reports {cbs : KtCallbacks app} {ctxt : KtContext app}
    {message : List UInt8} {b c : MetaBuffer} {rest : List MetaBuffer}
    (hstopped : ctxt.stopped = none)
    (hmessage : Conforming (received message) message.length)
    (h : Ready cbs (received message) b c rest ctxt.lib) :
    exists faceId, (ctxt.takePayload cbs
        (AppLayerSendCommand.hmiMetadata.code :: message)).lib.reports =
      ctxt.lib.reports ++
        identifiedReports (received message)
          (idealUser (received message) message.length)
          (loopCount (received message)) b.length ++
        unidentifiedReports (received message)
          (idealUser (received message) message.length)
          (loopCount (received message))
          (unidentifiedBuffer (received message) b c).length faceId := by
  have hlib : (ctxt.takePayload cbs
        (AppLayerSendCommand.hmiMetadata.code :: message)).lib =
      (ktHandleReceivedMetadata cbs (received message) message.length
        ctxt.lib).2 := by
    unfold KtContext.takePayload
    rw [hstopped]
    simp only [List.head?_cons, if_true, List.tail_cons]
    cases ktHandleReceivedMetadata cbs (received message) message.length
        ctxt.lib with
    | mk outcome s =>
        cases outcome <;> rfl
  rw [hlib]
  exact ⟨_, ktHandleReceivedMetadata_reports hmessage h⟩

end KtLib
end GardHub
