import GardHub.KtApp.AppReports
import GardHub.KtApp.EventStream
import GardHub.KtLib.CallbackSimulation

/-!
# From the line to the listener

What the Python listener hears of the messages that the GARD puts on the line.
The bytes of a message pass through the HUB, the dispatcher and the metadata
handler of the library, the face callbacks of the application with their
buffers, the stream socket, and the listener's own reading of the structure.
-/

namespace GardHub
namespace KtApp

open Foundation
open Dal
open Interface
open Hub
open KtLib

/-!
## The application with its stream
-/

/-- A call of a face callback, with the memory in which it finds the
`PpeData`. -/
structure CallbackCall where
  identified : Bool
  heap : Memory
  pPpeData : Int

/-- What the callbacks use of `kt_app_ctx`, with a record of their calls. -/
structure StreamingApp where
  ctx : KtAppCtx
  called : List CallbackCall

/-- Both face callbacks: what they send goes out before they touch a buffer. -/
def streamingFaceCb (identified : Bool) (a : StreamingApp) (heap : Memory)
    (pPpeData : Int) : AppReaction StreamingApp :=
  let reaction := faceCb a.ctx heap pPpeData
  { app :=
      { ctx := reaction.app
        called := a.called ++
          [{ identified := identified, heap := heap, pPpeData := pPpeData }] }
    heap := reaction.heap
    added := reaction.added }

/-- `kt_callbacks` -/
def streamingCallbacks : KtCallbacks StreamingApp :=
  { kcOnFaceIdentified := some (streamingFaceCb true)
    kcOnFaceNotIdentified := some (streamingFaceCb false) }

/-- `kt_app_main`, before any callback has been called. -/
def streamingMain (pool : BufferPool) (heap : Memory) :
    KtContext StreamingApp :=
  { lib := (ktAppMain pool heap).lib.withApp
      { ctx := (ktAppMain pool heap).lib.app, called := [] }
    stopped := (ktAppMain pool heap).stopped }

namespace CallbackCall

/-- `pd__face_count` -/
def pdFaceCount (call : CallbackCall) : Nat :=
  call.heap.load32 call.pPpeData

/-- What a call sends to the client of the stream socket. -/
def send (client : StreamClient) (call : CallbackCall)
    (outcomes : List SendOutcome) : Option Int × List UInt8 :=
  if client.streamIpcConnected then
    ktAppIpcSendDataOnFd client.streamClientSockfd
      (call.heap.load call.pPpeData (structSize ppeDataFields +
        call.pdFaceCount * structSize faceDataFields)) outcomes
  else (none, [])

/-- What a call tells the application, apart from the length of the buffer. -/
def report (call : CallbackCall) : Report :=
  readPpeData call.identified call.heap { address := call.pPpeData, length := 0 }

/-- The `bool` fields of the faces hold one. -/
def Bools (call : CallbackCall) : Prop :=
  HoldsBools call.pPpeData call.pdFaceCount call.heap

theorem fieldOffset_bool {index : Nat}
    (h : faceDataFields.getD index .uint8 = .bool) :
    fieldOffset faceDataFields index ∈ boolOffsets := by
  have hindex : index < 9 := by
    by_contra hge
    rw [List.getD_eq_default _ _ (Nat.le_of_not_lt hge)] at h
    cases h
  rw [fieldOffset, fieldOffsets_faceDataFields]
  interval_cases index <;> first | (cases h; done) | decide

/-- The frame that a call finds in memory. -/
def frame (call : CallbackCall) (h : call.Bools) : PpeFrame :=
  { heap := call.heap
    pPpeData := call.pPpeData
    bools := fun j hj _ hbool => h j hj _ (fieldOffset_bool hbool) }

end CallbackCall

/-- The calls of the listener's callback that are due for a report. -/
def reportEvents (report : Report) : List FaceEvent :=
  if report.pdFaceCount = 0 then [emptyFrameEvent]
  else
    report.faces.mapIdx fun i face =>
      ⟨faceValues face, report.pdFaceCount, i + 1⟩

theorem frame_events (call : CallbackCall) (h : call.Bools) :
    (call.frame h).events = reportEvents call.report := by
  have hfaces : call.report.faces.mapIdx (fun i face =>
      (⟨faceValues face, call.pdFaceCount, i + 1⟩ : FaceEvent)) =
      (List.range call.pdFaceCount).map fun i =>
        ⟨faceValues (readFace call.heap call.pPpeData i), call.pdFaceCount,
          i + 1⟩ := by
    apply List.ext_getElem
    · simp [CallbackCall.report, readPpeData, CallbackCall.pdFaceCount]
    · intro i _ _
      simp [CallbackCall.report, readPpeData]
  have hcount : call.report.pdFaceCount = call.pdFaceCount := rfl
  rw [PpeFrame.events, reportEvents, hcount, hfaces]
  rfl

/-!
## Messages
-/

/-- The calls that have been made are those of the reports, and each of them
found `bool`s where it has to. -/
def Records (a : StreamingApp) (ctx : KtAppCtx) (reports : List Report) :
    Prop :=
  a.ctx = ctx ∧
    a.called.map CallbackCall.report =
      reports.map (fun report => { report with declared := 0 }) ∧
    forall call, call ∈ a.called -> call.Bools

theorem streamingFaceCb_agrees (identified : Bool) :
    CallbackAgrees Records identified (streamingFaceCb identified) faceCb := by
  rintro a ctx reports heap out ⟨rfl, hcalls, hbools⟩ hout
  refine ⟨rfl, rfl, rfl, ?_, ?_⟩
  · simp only [streamingFaceCb, List.map_append, hcalls, List.map_cons,
      List.map_nil]
    rfl
  · intro call hcall
    rcases List.mem_append.mp hcall with hcall | hcall
    · exact hbools call hcall
    · rcases List.mem_singleton.mp hcall with rfl
      exact hout

theorem streamingCallbacks_agree :
    CallbacksAgree Records streamingCallbacks ktCallbacks :=
  ⟨.some (streamingFaceCb_agrees true), .some (streamingFaceCb_agrees false)⟩

/-- The application waits for the next frame. -/
def Streaming (pool : BufferPool) (ctxt : KtContext StreamingApp) : Prop :=
  ctxt.stopped = none ∧
    exists s, SameButApp Records ctxt.lib s ∧ Idle pool s

/-- A payload with a message that follows the documented layout, and in which
nothing but an ideal user comes first behind the users; or an image. -/
def DocumentedPayload (payload : List UInt8) : Prop :=
  payload.head? = some AppLayerSendCommand.hmiMetadata.code ->
    Documented (received payload.tail) payload.tail.length ∧
      IdealUserFirst (received payload.tail) payload.tail.length

/-- The reports that are made of a payload: for a message, those of its users. -/
def ReportsOf (payload : List UInt8) (reports : List Report) : Prop :=
  if payload.head? = some AppLayerSendCommand.hmiMetadata.code then
    ReportsMessage (received payload.tail) payload.tail.length reports
  else reports = []

/-- The events of a payload: for a message, those of its reports. -/
def EventsOf (payload : List UInt8) (events : List FaceEvent) : Prop :=
  if payload.head? = some AppLayerSendCommand.hmiMetadata.code then
    exists reports,
      ReportsMessage (received payload.tail) payload.tail.length reports ∧
      events = reports.flatMap reportEvents
  else events = []

theorem ReportsOf.events {payload : List UInt8} {reports : List Report}
    (h : ReportsOf payload reports) :
    EventsOf payload (reports.flatMap reportEvents) := by
  unfold ReportsOf at h
  unfold EventsOf
  by_cases hmessage :
      payload.head? = some AppLayerSendCommand.hmiMetadata.code
  · rw [if_pos hmessage] at h ⊢
    exact ⟨reports, h, rfl⟩
  · rw [if_neg hmessage] at h ⊢
    rw [h, List.flatMap_nil]

section Run

variable {pool : BufferPool} {ctxt : KtContext StreamingApp}

/-- What is made of a payload: the reports of its message are made. -/
theorem Streaming.takePayload (h : Streaming pool ctxt) {payload : List UInt8}
    (hpayload : DocumentedPayload payload) :
    Streaming pool (ctxt.takePayload streamingCallbacks payload) ∧
      exists reports,
        (ctxt.takePayload streamingCallbacks payload).lib.reports =
          ctxt.lib.reports ++ reports ∧
        ReportsOf payload reports := by
  rcases h with ⟨hstopped, s, hsame, hidle⟩
  unfold KtContext.takePayload ReportsOf
  simp only [hstopped]
  by_cases hmessage :
      payload.head? = some AppLayerSendCommand.hmiMetadata.code
  · simp only [if_pos hmessage]
    rcases hpayload hmessage with ⟨hdocumented, hideal⟩
    rcases hidle.handle_reports hdocumented hideal
      with ⟨s', reports, hreturned, hidle', happended, hreports⟩
    have hagrees := ktHandleReceivedMetadata_agrees streamingCallbacks_agree
      (received payload.tail) payload.tail.length hsame
    rw [hreturned] at hagrees
    rcases hagrees with ⟨houtcome, hsame'⟩
    have hmade : (ktHandleReceivedMetadata streamingCallbacks
        (received payload.tail) payload.tail.length ctxt.lib).2.reports =
        ctxt.lib.reports ++ reports := by
      rcases hsame with ⟨ctx, rfl, -⟩
      rcases hsame' with ⟨ctx', rfl, -⟩
      exact happended
    cases hhandled : ktHandleReceivedMetadata streamingCallbacks
        (received payload.tail) payload.tail.length ctxt.lib with
    | mk outcome after =>
        rw [hhandled] at houtcome hsame' hmade
        cases houtcome
        exact ⟨⟨rfl, s', hsame', hidle'⟩, reports, hmade, hreports⟩
  · simp only [if_neg hmessage]
    exact ⟨⟨hstopped, s, hsame, hidle⟩, [], by simp, rfl⟩

/-- What is made of one payload after another. -/
theorem Streaming.foldl (h : Streaming pool ctxt)
    {payloads : List (List UInt8)}
    (hpayloads : forall payload, payload ∈ payloads ->
      DocumentedPayload payload) :
    Streaming pool (payloads.foldl
        (KtContext.takePayload streamingCallbacks) ctxt) ∧
      exists made,
        (payloads.foldl (KtContext.takePayload streamingCallbacks)
          ctxt).lib.reports = ctxt.lib.reports ++ made.flatten ∧
        List.Forall₂ ReportsOf payloads made := by
  induction payloads generalizing ctxt with
  | nil =>
      exact ⟨h, [], by simp, .nil⟩
  | cons payload rest ih =>
      rcases h.takePayload (hpayloads payload List.mem_cons_self)
        with ⟨hmid, reports, hreports, hfirst⟩
      rcases ih hmid fun later hlater =>
          hpayloads later (List.mem_cons_of_mem _ hlater)
        with ⟨hlast, made, hmade, hall⟩
      refine ⟨hlast, reports :: made, ?_, .cons hfirst hall⟩
      rw [List.foldl_cons, hmade, hreports, List.append_assoc,
        List.flatten_cons]

theorem streaming_streamingMain (pool : BufferPool) (heap : Memory) :
    Streaming pool (streamingMain pool heap) ∧
      (streamingMain pool heap).lib.reports = [] := by
  rcases ktAppMain_holds pool heap with ⟨s, hrun, -, -, hreports⟩
  rcases idle_ktAppMain pool heap with ⟨hstopped, hidle⟩
  have hnone : (ktAppMain pool heap).lib.reports = [] := by
    rw [hrun]
    exact hreports
  refine ⟨⟨hstopped, (ktAppMain pool heap).lib,
    ⟨(ktAppMain pool heap).lib.app, rfl, rfl, ?_, by simp [streamingMain,
      KtState.withApp]⟩, hidle⟩, hnone⟩
  have hmade : (streamingMain pool heap).lib.reports = [] := hnone
  rw [hmade]
  rfl

end Run

/-!
## The line and the listener
-/

theorem conforming_of_documented {rx : Memory} {bufferSize : Nat}
    (h : Documented rx bufferSize) (hideal : IdealUserFirst rx bufferSize) :
    Conforming rx bufferSize := by
  refine ⟨h.responseType, h.responseVersion, h.nbUsers_nonneg,
    h.nbUsers_le_supported, h.userType, ?_⟩
  generalize hoffset : idealUserOffset rx = offset
  have htrailing := h.trailing
  rw [hoffset] at htrailing
  rw [IdealUserFirst, hoffset] at hideal
  cases htrailing with
  | done =>
      exact Or.inl rfl
  | idealUser code rest =>
      exact Or.inr ⟨rest.offset_le, code⟩
  | idealHand code rest =>
      have hend := rest.offset_le
      exact Or.inr ⟨by lia, hideal (by lia)⟩

theorem DocumentedPayload.received {payload : List UInt8}
    (h : DocumentedPayload payload) : PayloadReceived payload := by
  intro hmessage
  rcases h hmessage with ⟨hdocumented, hideal⟩
  have hconforming := conforming_of_documented hdocumented hideal
  have hend := hdocumented.trailing.offset_le
  have hnonneg := hdocumented.nbUsers_nonneg
  simp only [idealUserOffset, trackedUser] at hend
  exact ⟨by lia, hconforming.messageReceived⟩

/-- Every call has sent all of its bytes. -/
def AllSent (client : StreamClient) (outcomes : Nat -> List SendOutcome)
    (called : List CallbackCall) : Prop :=
  forall (i : Nat) (call : CallbackCall), called[i]? = some call ->
    (call.send client (outcomes i)).1 = some 0

/-- From start-up on, any checks run through, and the application has made the
reports of every message that they have got to. -/
theorem checks_report (pool : BufferPool) (heap : Memory)
    (items : List StreamItem)
    (hitems : forall item, item ∈ items -> item.WellFormed stagingSize)
    (hdocumented : forall item, item ∈ items ->
      forall payload, payload ∈ item.payloads -> DocumentedPayload payload)
    (checks : Nat) (world : HubWorld ByteStream (KtContext StreamingApp))
    (hlistening : Listening stagingSize world)
    (hcbs : world.gard.pAppLayerCbs = some (ktAppLayerCbs streamingCallbacks))
    (hline : world.line.state.incoming = items.flatMap StreamItem.bytes)
    (happ : world.app = streamingMain pool heap) :
    exists next,
      runActions (performCall streamPort) world
          (List.replicate checks .checkAndExecuteGardCommand) = some next ∧
      (forall call, call ∈ next.app.lib.app.called -> call.Bools) ∧
      exists made,
        List.Forall₂ ReportsOf
          ((items.take checks).flatMap StreamItem.payloads) made ∧
        next.app.lib.app.called.map CallbackCall.report =
          made.flatten.map fun report => { report with declared := 0 } := by
  have hreceived : forall item, item ∈ items ->
      forall payload, payload ∈ item.payloads -> PayloadReceived payload :=
    fun item hitem payload hpayload =>
      (hdocumented item hitem payload hpayload).received
  rcases checks_take_payloads items hitems hreceived checks world hlistening
    hcbs hline with ⟨next, hrun, -, hnext⟩
  refine ⟨next, hrun, ?_⟩
  rcases streaming_streamingMain pool heap with ⟨hstart, hnothing⟩
  have hpayloads : forall payload,
      payload ∈ (items.take checks).flatMap StreamItem.payloads ->
      DocumentedPayload payload := by
    intro payload hpayload
    rcases List.mem_flatMap.mp hpayload with ⟨item, hitem, hmem⟩
    exact hdocumented item (List.mem_of_mem_take hitem) payload hmem
  rcases hstart.foldl hpayloads with ⟨hlast, made, hmade, hall⟩
  rw [← happ, ← hnext] at hlast
  rw [← happ, ← hnext, happ, hnothing, List.nil_append] at hmade
  rcases hlast with ⟨-, s, ⟨ctx, -, -, hcalls, hbools⟩, -⟩
  exact ⟨hbools, made, hall, hmade ▸ hcalls⟩

theorem allSent_atOnce (client : StreamClient)
    (hsockfd : 0 ≤ client.streamClientSockfd)
    (hconnected : client.streamIpcConnected = true)
    (called : List CallbackCall) :
    AllSent client (fun _ => [.sent (2 ^ 38)]) called := by
  intro i call _
  have hlt : call.pdFaceCount < 2 ^ 32 := by
    have hload := leValue_lt (call.heap.load call.pPpeData 4)
    rwa [Memory.load_length] at hload
  have hlength : structSize ppeDataFields +
      call.pdFaceCount * structSize faceDataFields < 2 ^ 38 := by
    rw [structSize_faceDataFields]
    change 4 + _ < _
    lia
  have hpos : 0 < structSize ppeDataFields := by
    decide
  rw [CallbackCall.send, if_pos hconnected, ktAppIpcSendDataOnFd, if_neg (by
    rw [Memory.load_length]
    lia)]
  simp only [sendFrom, Memory.load_length]
  rw [if_pos (by lia), if_neg (by lia)]

/-- A junk byte and a message with three users, of whom one is identified, for an
application that has just started. -/
def threeUsersWorld : HubWorld ByteStream (KtContext StreamingApp) :=
  startWorld (readyGard (some (ktAppLayerCbs streamingCallbacks)))
    (streamLine (0x0B :: frameBytes (7 :: threeUsers)))
    (streamingMain pagePool fun _ => 0) fun _ _ => 0

def threeUsersItems : List StreamItem :=
  [.junk 0x0B, .frame (7 :: threeUsers)]

theorem threeUsersItems_wellFormed (item : StreamItem)
    (hitem : item ∈ threeUsersItems) : item.WellFormed stagingSize := by
  rcases List.mem_pair.mp hitem with rfl | rfl
  · intro hsync
    cases hsync
  · exact ⟨by decide +kernel, by decide +kernel, .hmiMetadata, rfl,
      by decide +kernel⟩

theorem threeUsersItems_documented (item : StreamItem)
    (hitem : item ∈ threeUsersItems) (payload : List UInt8)
    (hpayload : payload ∈ item.payloads) : DocumentedPayload payload := by
  rcases List.mem_pair.mp hitem with rfl | rfl
  · cases hpayload
  · rcases List.mem_singleton.mp hpayload with rfl
    intro _
    refine ⟨documented_threeUsers, ?_⟩
    intro _
    decide +kernel

theorem threeUsersWorld_line : threeUsersWorld.line.state.incoming =
    threeUsersItems.flatMap StreamItem.bytes := by
  simp [threeUsersWorld, threeUsersItems, startWorld, streamLine,
    StreamItem.bytes]

end KtApp
end GardHub
