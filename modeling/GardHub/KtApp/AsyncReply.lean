import GardHub.Foundation.Runs
import GardHub.KtApp.Responses

/-!
# The reply to a request for a face identifier

Two threads write on the socket of the client: the IPC thread reports that the
request is pending, and the main thread, which has the request from then on that
it is handed over, reports the result in two pieces.  Each write is one step, and
the threads may take turns after any of them.
-/

namespace GardHub
namespace KtApp

open Foundation
open Interface

/-!
## The threads
-/

/-- What the IPC thread does next with the request. -/
inductive IpcStage where
  | sendRequest
  | sendPending
  | finished
deriving DecidableEq

/-- What the main thread does next with the request. -/
inductive MainStage where
  | takeCommand
  | sendHeader
  | sendPayload
  | finished
deriving DecidableEq

/-- The threads, the flag they share and the bytes on the socket. -/
structure AsyncReplyState where
  cmdPending : Bool
  ipc : IpcStage
  main : MainStage
  stream : List UInt8
deriving DecidableEq

/-- The thread that takes a step. -/
inductive AsyncReplyAction where
  | ipc
  | main
deriving DecidableEq

/-- The request has been read from the socket. -/
def asyncReplyStart : AsyncReplyState :=
  { cmdPending := false
    ipc := .sendRequest
    main := .takeCommand
    stream := [] }

/-- The header that says that the request is pending. -/
def pendingHeader : List UInt8 :=
  responseHeader .generateFaceIdAsync ktAppRetCodePending

/-- The header that `kt_app_generate_face_id_done_cb` writes. -/
def doneHeader : List UInt8 :=
  responseHeader .generateFaceIdAsync ktAppSuccess

/-- The payload that `kt_app_generate_face_id_done_cb` writes. -/
def donePayload (faceId : UInt32) (opStatus : Int32) : List UInt8 :=
  u32Bytes faceId ++ i32Bytes opStatus.toInt

/-- The end of `handle_req_resp_command` for the request. -/
def ipcStep (s : AsyncReplyState) : Option AsyncReplyState :=
  match s.ipc with
  | .sendRequest => some { s with cmdPending := true, ipc := .sendPending }
  | .sendPending =>
      some { s with stream := s.stream ++ pendingHeader, ipc := .finished }
  | .finished => none

/-- The main thread with the request, which the callback of the library answers
with the given identifier and status. -/
def mainStep (faceId : UInt32) (opStatus : Int32) (s : AsyncReplyState) :
    Option AsyncReplyState :=
  match s.main with
  | .takeCommand =>
      if s.cmdPending then
        some { s with cmdPending := false, main := .sendHeader }
      else none
  | .sendHeader =>
      some { s with stream := s.stream ++ doneHeader, main := .sendPayload }
  | .sendPayload =>
      some { s with
        stream := s.stream ++ donePayload faceId opStatus, main := .finished }
  | .finished => none

/-- One step of one of the threads. -/
def asyncReplyStep (faceId : UInt32) (opStatus : Int32) (s : AsyncReplyState) :
    AsyncReplyAction -> Option AsyncReplyState
  | .ipc => ipcStep s
  | .main => mainStep faceId opStatus s

/-!
## What is on the socket
-/

/-- The IPC thread does not write between the two writes of the main thread. -/
def ReplyUndivided (s : AsyncReplyState) (action : AsyncReplyAction) : Prop :=
  action = .ipc -> s.ipc = .sendPending -> s.main ≠ .sendPayload

instance (s : AsyncReplyState) (action : AsyncReplyAction) :
    Decidable (ReplyUndivided s action) := by
  unfold ReplyUndivided
  infer_instance

/-- What is on the socket as long as nothing came between the two writes of the
main thread. -/
inductive InOrder (faceId : UInt32) (opStatus : Int32) :
    AsyncReplyState -> Prop
  | received : InOrder faceId opStatus asyncReplyStart
  | handedOver : InOrder faceId opStatus ⟨true, .sendPending, .takeCommand, []⟩
  | taken : InOrder faceId opStatus ⟨false, .sendPending, .sendHeader, []⟩
  | header :
      InOrder faceId opStatus ⟨false, .sendPending, .sendPayload, doneHeader⟩
  | answered :
      InOrder faceId opStatus ⟨false, .sendPending, .finished,
        doneHeader ++ donePayload faceId opStatus⟩
  | pendingFirst :
      InOrder faceId opStatus ⟨true, .finished, .takeCommand, pendingHeader⟩
  | pendingTaken :
      InOrder faceId opStatus ⟨false, .finished, .sendHeader, pendingHeader⟩
  | pendingDone :
      InOrder faceId opStatus ⟨false, .finished, .sendPayload,
        pendingHeader ++ doneHeader⟩
  | pendingAnswered :
      InOrder faceId opStatus ⟨false, .finished, .finished,
        pendingHeader ++ doneHeader ++ donePayload faceId opStatus⟩
  | pendingLast :
      InOrder faceId opStatus ⟨false, .finished, .finished,
        doneHeader ++ donePayload faceId opStatus ++ pendingHeader⟩

/-- What is on the socket when the pending header came between the two writes of
the main thread. -/
inductive Divided (faceId : UInt32) (opStatus : Int32) :
    AsyncReplyState -> Prop
  | pendingInside :
      Divided faceId opStatus ⟨false, .finished, .sendPayload,
        doneHeader ++ pendingHeader⟩
  | pendingAnswered :
      Divided faceId opStatus ⟨false, .finished, .finished,
        doneHeader ++ pendingHeader ++ donePayload faceId opStatus⟩

variable {faceId : UInt32} {opStatus : Int32} {s s' : AsyncReplyState}
  {action : AsyncReplyAction}

theorem InOrder.step (h : InOrder faceId opStatus s)
    (hundivided : ReplyUndivided s action)
    (hstep : asyncReplyStep faceId opStatus s action = some s') :
    InOrder faceId opStatus s' := by
  cases action with
  | ipc =>
      cases h with
      | received =>
          cases hstep
          exact .handedOver
      | handedOver =>
          cases hstep
          exact .pendingFirst
      | taken =>
          cases hstep
          exact .pendingTaken
      | header =>
          exact absurd rfl (hundivided rfl rfl)
      | answered =>
          cases hstep
          exact .pendingLast
      | _ =>
          cases hstep
  | main =>
      cases h with
      | handedOver =>
          cases hstep
          exact .taken
      | taken =>
          cases hstep
          exact .header
      | header =>
          cases hstep
          exact .answered
      | pendingFirst =>
          cases hstep
          exact .pendingTaken
      | pendingTaken =>
          cases hstep
          exact .pendingDone
      | pendingDone =>
          cases hstep
          exact .pendingAnswered
      | _ =>
          cases hstep

/-- Only the pending header can come between the two writes. -/
theorem InOrder.step_divided (h : InOrder faceId opStatus s)
    (hdivided : ¬ ReplyUndivided s action)
    (hstep : asyncReplyStep faceId opStatus s action = some s') :
    Divided faceId opStatus s' := by
  have hcase : action = .ipc ∧ s.ipc = .sendPending ∧ s.main = .sendPayload := by
    simpa [ReplyUndivided] using hdivided
  rcases hcase with ⟨rfl, hipc, hmain⟩
  cases h with
  | header =>
      cases hstep
      exact .pendingInside
  | pendingDone =>
      cases hipc
  | _ =>
      cases hmain

theorem Divided.step (h : Divided faceId opStatus s)
    (hstep : asyncReplyStep faceId opStatus s action = some s') :
    Divided faceId opStatus s' := by
  cases action with
  | ipc =>
      cases h <;> cases hstep
  | main =>
      cases h with
      | pendingInside =>
          cases hstep
          exact .pendingAnswered
      | pendingAnswered =>
          cases hstep

/-!
## What the client makes of it
-/

/-- The response with an identifier and a status. -/
def generatedResponse (faceId : UInt32) (opStatus : Int) : ClientResponse :=
  ⟨.generateFaceIdAsync, ktAppSuccess, .generateFaceIdAsync faceId opStatus⟩

theorem recvHeader_pendingHeader (rest : List UInt8) :
    recvHeader .generateFaceIdAsync (pendingHeader ++ rest) =
      some (ktAppRetCodePending, rest) :=
  recvHeader_responseHeader rfl (by decide) (by decide) rest

theorem recvHeader_doneHeader (rest : List UInt8) :
    recvHeader .generateFaceIdAsync (doneHeader ++ rest) =
      some (ktAppSuccess, rest) :=
  recvHeader_responseHeader rfl (by decide) (by decide) rest

theorem recvPayload_donePayload (faceId : UInt32) (opStatus : Int32)
    (rest : List UInt8) :
    recvPayload .generateFaceIdAsync ktAppSuccess
        (donePayload faceId opStatus ++ rest) =
      some (.generateFaceIdAsync faceId opStatus.toInt) := by
  have hlength : (donePayload faceId opStatus).length = 8 := by
    simp [donePayload]
  have hid : UInt32.ofNat (fieldValue (donePayload faceId opStatus) 0 4) =
      faceId := by
    rw [donePayload, fieldValue_front (u32Bytes_length _), leValue_u32Bytes]
  have hstatus : toInt32 (fieldValue (donePayload faceId opStatus) 4 4) =
      opStatus.toInt := by
    rw [donePayload, fieldValue_back (u32Bytes_length _) (i32Bytes_length _)]
    exact toInt32_i32Bytes opStatus.le_toInt opStatus.toInt_lt
  rw [recvPayload, if_pos rfl]
  simp only [takeBytes_append hlength, Option.map_some, hid, hstatus]

theorem clientResult_done (faceId : UInt32) (opStatus : Int32)
    (rest : List UInt8) :
    clientResult .generateFaceIdAsync
        (doneHeader ++ (donePayload faceId opStatus ++ rest)) =
      (ktAppSuccess, some (generatedResponse faceId opStatus.toInt)) := by
  have hcode : recvRetCode .generateFaceIdAsync
      (doneHeader ++ (donePayload faceId opStatus ++ rest)) =
        some (ktAppSuccess, donePayload faceId opStatus ++ rest) := by
    rw [recvRetCode, recvHeader_doneHeader]
    rfl
  simp only [clientResult, hcode, Option.bind_some, recvPayload_donePayload,
    Option.map_some, generatedResponse]

theorem clientResult_pending (faceId : UInt32) (opStatus : Int32)
    (rest : List UInt8) :
    clientResult .generateFaceIdAsync
        (pendingHeader ++
          (doneHeader ++ (donePayload faceId opStatus ++ rest))) =
      (ktAppSuccess, some (generatedResponse faceId opStatus.toInt)) := by
  have hcode : recvRetCode .generateFaceIdAsync
      (pendingHeader ++ (doneHeader ++ (donePayload faceId opStatus ++ rest))) =
        some (ktAppSuccess, donePayload faceId opStatus ++ rest) := by
    rw [recvRetCode, recvHeader_pendingHeader, Option.bind_some,
      if_pos ⟨rfl, Or.inl rfl⟩, recvHeader_doneHeader]
  simp only [clientResult, hcode, Option.bind_some, recvPayload_donePayload,
    Option.map_some, generatedResponse]

/-- The bytes of the pending header, read as a result. -/
theorem pendingHeader_eq_donePayload :
    pendingHeader = donePayload 3 0xFFFFF := by
  decide

theorem generatedResponse_inj {faceId faceId' : UInt32}
    {opStatus opStatus' : Int32} :
    generatedResponse faceId opStatus.toInt =
        generatedResponse faceId' opStatus'.toInt <->
      faceId = faceId' ∧ opStatus = opStatus' := by
  simp [generatedResponse, Int32.toInt_inj]

/-- When both threads have written all they write for the request, the client
returns the identifier and the status that the callback was given exactly when
the pending header did not come between the header of the callback and its
payload, or the payload happened to be the same bytes. -/
theorem clientResult_reports_iff (faceId : UInt32) (opStatus : Int32)
    (schedule : List AsyncReplyAction) (s : AsyncReplyState)
    (hrun : runActions (asyncReplyStep faceId opStatus) asyncReplyStart
      schedule = some s)
    (hipc : s.ipc = .finished) (hmain : s.main = .finished) :
    clientResult .generateFaceIdAsync s.stream =
        (ktAppSuccess, some (generatedResponse faceId opStatus.toInt)) <->
      RunMeets (asyncReplyStep faceId opStatus) ReplyUndivided asyncReplyStart
          schedule ∨
        (faceId = 3 ∧ opStatus = 0xFFFFF) := by
  have hcases := runActions_meets_or (fun _ _ _ => InOrder.step)
    (fun _ _ _ => InOrder.step_divided) (fun _ _ _ => Divided.step)
    InOrder.received hrun
  rcases hcases with ⟨hmeets, horder⟩ | ⟨hdivided, hwritten⟩
  · simp only [hmeets, true_or, iff_true]
    cases horder with
    | pendingAnswered =>
        simpa using clientResult_pending faceId opStatus []
    | pendingLast =>
        simpa using clientResult_done faceId opStatus pendingHeader
    | received =>
        cases hipc
    | handedOver =>
        cases hipc
    | taken =>
        cases hipc
    | header =>
        cases hipc
    | answered =>
        cases hipc
    | _ =>
        cases hmain
  · simp only [hdivided, false_or]
    cases hwritten with
    | pendingInside =>
        cases hmain
    | pendingAnswered =>
        have hresult := clientResult_done 3 0xFFFFF (donePayload faceId opStatus)
        rw [← pendingHeader_eq_donePayload] at hresult
        simp only [List.append_assoc]
        rw [hresult, Prod.mk.injEq, Option.some_inj, generatedResponse_inj]
        constructor
        · rintro ⟨-, hid, hstatus⟩
          exact ⟨hid.symm, hstatus.symm⟩
        · rintro ⟨rfl, rfl⟩
          exact ⟨rfl, rfl, rfl⟩

theorem clientResult_reports_pending_first :
    clientResult .generateFaceIdAsync
        (pendingHeader ++ doneHeader ++ donePayload 7 0) =
      (ktAppSuccess, some (generatedResponse 7 (0 : Int32).toInt)) :=
  (clientResult_reports_iff 7 0 [.ipc, .ipc, .main, .main, .main] _ rfl rfl
    rfl).mpr (Or.inl (by decide))

/-- The main thread writes its header before the IPC thread writes that the
request is pending, and its payload after it: the client takes the pending
header for the result. -/
theorem clientResult_divided :
    exists s, runActions (asyncReplyStep 7 0) asyncReplyStart
        [.ipc, .main, .main, .ipc, .main] = some s ∧
      s.ipc = .finished ∧ s.main = .finished ∧
      clientResult .generateFaceIdAsync s.stream =
        (ktAppSuccess, some (generatedResponse 3 0xFFFFF)) ∧
      clientResult .generateFaceIdAsync s.stream ≠
        (ktAppSuccess, some (generatedResponse 7 0)) :=
  ⟨_, rfl, rfl, rfl, by decide +kernel, by decide +kernel⟩

end KtApp
end GardHub
