import GardHub.Foundation.ByteReader
import GardHub.Interface.Wire
import GardHub.KtApp.Commands

/-!
# Requests on the socket

The client writes a request as the front of the packed structure: the command,
and the fields of the command if it has some.  The server reads the command and
decides by itself whether fields follow.
-/

namespace GardHub
namespace KtApp

open Foundation
open Interface

/-!
## The client
-/

/-- The commands of the enumeration, in the order of their numbers. -/
def ktAppCmds : List KtAppCmd :=
  [.none, .startPipeline, .startFaceIdentification, .generateFaceIdAsync,
    .updateFaceProfile, .listFaceProfiles, .startQrMonitor, .stopPipeline,
    .stopFaceIdentification, .deleteFaceIdAsync, .stopQrMonitor, .exit]

/-- The command that a number stands for. -/
def KtAppCmd.ofCode (code : UInt32) : KtAppCmd :=
  ktAppCmds[code.toNat]?.getD (.other code)

/-- The name array of a structure without a name. -/
def noFaceName : List UInt8 :=
  List.replicate ktAppMaxFaceNameLength 0

/-- The name array as `update_face_profile` of the client fills it: the front of
the encoded name, and NULs behind it. -/
def clientFaceName (name : List UInt8) : List UInt8 :=
  overwrite noFaceName 0 (name.take (ktAppMaxFaceNameLength - 1))

/-- The calls of the client that send a request. -/
inductive ClientCall where
  | startPipeline
  | stopPipeline
  | startFaceIdentification
  | stopFaceIdentification
  | startQrMonitor
  | stopQrMonitor
  | generateFaceIdAsync
  | updateFaceProfile (faceId : UInt32) (name : List UInt8)
  | listFaceProfiles
  | deleteFaceIdAsync (faceId : UInt32)
  | exitApp

/-- The structure a call fills in. -/
def ClientCall.request : ClientCall -> KtAppRequest
  | .startPipeline => ⟨.startPipeline, 0, noFaceName⟩
  | .stopPipeline => ⟨.stopPipeline, 0, noFaceName⟩
  | .startFaceIdentification => ⟨.startFaceIdentification, 0, noFaceName⟩
  | .stopFaceIdentification => ⟨.stopFaceIdentification, 0, noFaceName⟩
  | .startQrMonitor => ⟨.startQrMonitor, 0, noFaceName⟩
  | .stopQrMonitor => ⟨.stopQrMonitor, 0, noFaceName⟩
  | .generateFaceIdAsync => ⟨.generateFaceIdAsync, 0, noFaceName⟩
  | .updateFaceProfile faceId name =>
      ⟨.updateFaceProfile, faceId, clientFaceName name⟩
  | .listFaceProfiles => ⟨.listFaceProfiles, 0, noFaceName⟩
  | .deleteFaceIdAsync faceId => ⟨.deleteFaceIdAsync, faceId, noFaceName⟩
  | .exitApp => ⟨.exit, 0, noFaceName⟩

/-- What `send_request` writes for a structure. -/
def sendRequest (request : KtAppRequest) : List UInt8 :=
  u32Bytes request.cmd.code ++
    match request.cmd with
    | .updateFaceProfile => u32Bytes request.faceId ++ request.faceName
    | .deleteFaceIdAsync => u32Bytes request.faceId
    | _ => []

/-!
## The server
-/

/-- `read_update_profile_payload` -/
def readUpdateProfilePayload (request : KtAppRequest) (input : List UInt8) :
    Option (KtAppRequest × List UInt8) :=
  (takeBytes 4 input).bind fun faceId =>
    (takeBytes ktAppMaxFaceNameLength faceId.2).map fun faceName =>
      ({ request with
          faceId := UInt32.ofNat (leValue faceId.1)
          faceName := terminateFaceName faceName.1 }, faceName.2)

/-- `handle_req_resp_command` up to the request that it dispatches. -/
def handleReqRespCommand (input : List UInt8) :
    Option (KtAppRequest × List UInt8) :=
  (takeBytes 4 input).bind fun cmd =>
    let request : KtAppRequest :=
      ⟨KtAppCmd.ofCode (UInt32.ofNat (leValue cmd.1)), 0, noFaceName⟩
    match request.cmd with
    | .updateFaceProfile => readUpdateProfilePayload request cmd.2
    | _ => some (request, cmd.2)

/-- The requests that `kt_app_ipc` dispatches from the bytes of a connection, and
the bytes that are left.  When the response to `KT_APP_CMD_EXIT` is there,
`should_exit` is set and the loop ends. -/
def dispatchedRequests (input : List UInt8) : List KtAppRequest × List UInt8 :=
  readMessagesUntil (fun request => decide (request.cmd = .exit))
    handleReqRespCommand input.length input

/-!
## Requests that arrive as they were sent
-/

/-- The bytes that the server takes for a request. -/
def readSize (request : KtAppRequest) : Nat :=
  match request.cmd with
  | .updateFaceProfile => 4 + (4 + ktAppMaxFaceNameLength)
  | _ => 4

/-- The request of a call is a deletion. -/
def ClientCall.IsDelete : ClientCall -> Prop
  | .deleteFaceIdAsync _ => True
  | _ => False

/-- The request of a call is the last one that the server dispatches. -/
def ClientCall.IsExit : ClientCall -> Prop
  | .exitApp => True
  | _ => False

theorem ClientCall.isExit_iff (call : ClientCall) :
    call.IsExit <-> call.request.cmd = .exit := by
  cases call <;> simp [ClientCall.IsExit, ClientCall.request]

theorem clientFaceName_length (name : List UInt8) :
    (clientFaceName name).length = ktAppMaxFaceNameLength := by
  have hfront : (name.take (ktAppMaxFaceNameLength - 1)).length ≤
      ktAppMaxFaceNameLength - 1 := List.length_take_le _ _
  have hpositive : 0 < ktAppMaxFaceNameLength := by decide
  rw [clientFaceName, overwrite_zero, noFaceName, List.length_append,
    List.length_drop, List.length_replicate]
  lia

/-- The last byte of a name array of the client is a NUL already. -/
theorem terminateFaceName_clientFaceName (name : List UInt8) :
    terminateFaceName (clientFaceName name) = clientFaceName name := by
  have hlength := clientFaceName_length name
  have hlt : ktAppMaxFaceNameLength - 1 < (clientFaceName name).length := by
    rw [hlength]
    decide
  have hfront : (name.take (ktAppMaxFaceNameLength - 1)).length ≤
      ktAppMaxFaceNameLength - 1 := List.length_take_le _ _
  have hlast : (clientFaceName name)[ktAppMaxFaceNameLength - 1] = 0 := by
    simp only [clientFaceName, overwrite_zero, noFaceName]
    rw [List.getElem_append_right hfront, List.getElem_drop,
      List.getElem_replicate]
  rw [terminateFaceName, ← hlast, List.set_getElem_self]

theorem leValue_u32Bytes (value : UInt32) :
    UInt32.ofNat (leValue (u32Bytes value)) = value := by
  rw [u32Bytes, leValue_leBytes_of_lt value.toNat_lt, UInt32.ofNat_toNat]

theorem ClientCall.ofCode_request (call : ClientCall) :
    KtAppCmd.ofCode call.request.cmd.code = call.request.cmd := by
  cases call <;> rfl

theorem handleReqRespCommand_cmd (cmd : KtAppCmd)
    (h : KtAppCmd.ofCode cmd.code = cmd) (rest : List UInt8) :
    handleReqRespCommand (u32Bytes cmd.code ++ rest) =
      match cmd with
      | .updateFaceProfile =>
          readUpdateProfilePayload ⟨.updateFaceProfile, 0, noFaceName⟩ rest
      | cmd => some (⟨cmd, 0, noFaceName⟩, rest) := by
  rw [handleReqRespCommand, takeBytes_append (u32Bytes_length _),
    Option.bind_some]
  simp only [leValue_u32Bytes, h]
  cases cmd <;> rfl

theorem readUpdateProfilePayload_append (request : KtAppRequest)
    (faceId : UInt32) (name rest : List UInt8) :
    readUpdateProfilePayload request
        (u32Bytes faceId ++ clientFaceName name ++ rest) =
      some ({ request with
        faceId := faceId, faceName := clientFaceName name }, rest) := by
  rw [readUpdateProfilePayload, List.append_assoc,
    takeBytes_append (u32Bytes_length _), Option.bind_some,
    takeBytes_append (clientFaceName_length name), Option.map_some]
  simp only [leValue_u32Bytes, terminateFaceName_clientFaceName]

/-- The server reads a request back unless it is a deletion. -/
theorem handleReqRespCommand_sendRequest {call : ClientCall}
    (h : ¬ call.IsDelete) (rest : List UInt8) :
    handleReqRespCommand (sendRequest call.request ++ rest) =
      some (call.request, rest) := by
  rw [sendRequest, List.append_assoc,
    handleReqRespCommand_cmd _ call.ofCode_request]
  cases call with
  | updateFaceProfile faceId name =>
      exact readUpdateProfilePayload_append _ faceId name rest
  | deleteFaceIdAsync faceId =>
      exact absurd trivial h
  | _ =>
      rfl

theorem handleReqRespCommand_length (input : List UInt8)
    (request : KtAppRequest) (rest : List UInt8)
    (h : handleReqRespCommand input = some (request, rest)) :
    input.length = readSize request + rest.length := by
  rcases Option.bind_eq_some_iff.mp h with ⟨cmd, hcmd, hpayload⟩
  have hfirst := takeBytes_length hcmd
  cases hread : KtAppCmd.ofCode (UInt32.ofNat (leValue cmd.1)) with
  | updateFaceProfile =>
      simp only [hread] at hpayload
      rcases Option.bind_eq_some_iff.mp hpayload with ⟨faceId, hid, hname⟩
      rcases Option.map_eq_some_iff.mp hname with ⟨faceName, hbytes, hresult⟩
      have hsecond := takeBytes_length hid
      have hthird := takeBytes_length hbytes
      cases hresult
      simp only [readSize]
      lia
  | _ =>
      simp only [hread] at hpayload
      cases hpayload
      simpa only [readSize] using hfirst

theorem dispatchedRequests_length (input : List UInt8) :
    input.length = ((dispatchedRequests input).1.map readSize).sum +
      (dispatchedRequests input).2.length :=
  readMessagesUntil_length handleReqRespCommand_length _ input

theorem dispatchedRequests_dropLast (input : List UInt8)
    (request : KtAppRequest)
    (h : request ∈ (dispatchedRequests input).1.dropLast) :
    request.cmd ≠ .exit :=
  of_decide_eq_false (readMessagesUntil_dropLast _ input request h)

/-- The bytes of a deletion that the server leaves on the connection. -/
def extraSize : ClientCall -> Nat
  | .deleteFaceIdAsync _ => 4
  | _ => 0

theorem extraSize_eq_zero_iff (call : ClientCall) :
    extraSize call = 0 <-> ¬ call.IsDelete := by
  cases call <;> simp [extraSize, ClientCall.IsDelete]

theorem sendRequest_length (call : ClientCall) :
    (sendRequest call.request).length =
      readSize call.request + extraSize call := by
  cases call with
  | updateFaceProfile faceId name =>
      simp [sendRequest, ClientCall.request, readSize, extraSize,
        clientFaceName_length]
  | _ =>
      simp [sendRequest, ClientCall.request, readSize, extraSize]

theorem sendRequest_flatMap_length (calls : List ClientCall) :
    ((calls.map ClientCall.request).flatMap sendRequest).length =
      ((calls.map ClientCall.request).map readSize).sum +
        (calls.map extraSize).sum := by
  induction calls with
  | nil =>
      rfl
  | cons call later ih =>
      have hfirst := sendRequest_length call
      simp only [List.map_cons, List.flatMap_cons, List.length_append,
        List.sum_cons, ih, hfirst]
      lia

theorem length_le_sendRequest_flatMap (calls : List ClientCall) :
    (calls.map ClientCall.request).length ≤
      ((calls.map ClientCall.request).flatMap sendRequest).length := by
  induction calls with
  | nil =>
      exact le_refl _
  | cons call later ih =>
      have hfirst : 4 ≤ (sendRequest call.request).length := by
        rw [sendRequest, List.length_append, u32Bytes_length]
        exact Nat.le_add_right _ _
      simp only [List.map_cons, List.flatMap_cons, List.length_append,
        List.length_cons]
      lia

theorem extraSize_sum_eq_zero {calls : List ClientCall}
    (h : (calls.map extraSize).sum = 0) :
    forall call, call ∈ calls -> ¬ call.IsDelete := by
  intro call hcall
  have hzero := (List.sum_eq_zero_iff.mp h) (extraSize call)
    (List.mem_map_of_mem hcall)
  exact (extraSize_eq_zero_iff call).mp hzero

/-- A request arrives as it was sent exactly when it is not a deletion: the client
writes a face identifier behind that command, and the server does not read it.
The requests of a connection are dispatched as they were sent exactly when none
of them is a deletion and none is behind the one that ends the server. -/
theorem dispatchedRequests_sendRequest_iff (calls : List ClientCall) :
    ((forall call, call ∈ calls -> forall rest,
        handleReqRespCommand (sendRequest call.request ++ rest) =
          some (call.request, rest)) <->
      forall call, call ∈ calls -> ¬ call.IsDelete) ∧
    (dispatchedRequests ((calls.map ClientCall.request).flatMap sendRequest) =
        (calls.map ClientCall.request, []) <->
      (forall call, call ∈ calls -> ¬ call.IsDelete) ∧
        forall call, call ∈ calls.dropLast -> ¬ call.IsExit) := by
  have hone (call : ClientCall) : (forall rest,
      handleReqRespCommand (sendRequest call.request ++ rest) =
        some (call.request, rest)) -> ¬ call.IsDelete := by
    intro h
    have hread := handleReqRespCommand_length _ _ _ (h [])
    have hsent := sendRequest_length call
    rw [List.append_nil, List.length_nil] at hread
    exact (extraSize_eq_zero_iff call).mp (by lia)
  refine ⟨⟨fun h call hcall => hone call (h call hcall),
    fun h call hcall rest => handleReqRespCommand_sendRequest (h call hcall)
      rest⟩, ?_, ?_⟩
  · intro h
    have hread := dispatchedRequests_length
      ((calls.map ClientCall.request).flatMap sendRequest)
    have hends := dispatchedRequests_dropLast
      ((calls.map ClientCall.request).flatMap sendRequest)
    have hsent := sendRequest_flatMap_length calls
    rw [h, List.length_nil] at hread
    refine ⟨extraSize_sum_eq_zero (by lia), fun call hcall hexit => ?_⟩
    have hmem : call.request ∈ (calls.map ClientCall.request).dropLast := by
      rw [← List.map_dropLast]
      exact List.mem_map_of_mem hcall
    exact hends call.request (h ▸ hmem) (call.isExit_iff.mp hexit)
  · rintro ⟨hkept, hends⟩
    refine readMessagesUntil_flatMap _ ?_ rfl ?_
      (length_le_sendRequest_flatMap calls)
    · intro request hrequest rest
      rcases List.mem_map.mp hrequest with ⟨call, hcall, rfl⟩
      exact handleReqRespCommand_sendRequest (hkept call hcall) rest
    · intro request hrequest
      rw [← List.map_dropLast] at hrequest
      rcases List.mem_map.mp hrequest with ⟨call, hcall, rfl⟩
      exact decide_eq_false fun hexit =>
        hends call hcall (call.isExit_iff.mpr hexit)

/-- The face identifier of a deletion is taken for the command behind it. -/
theorem dispatchedRequests_delete_exits :
    dispatchedRequests
        (([ClientCall.deleteFaceIdAsync 11].map ClientCall.request).flatMap
          sendRequest) =
      ([⟨.deleteFaceIdAsync, 0, noFaceName⟩, ⟨.exit, 0, noFaceName⟩], []) ∧
    dispatchedRequests
        (([ClientCall.deleteFaceIdAsync 11].map ClientCall.request).flatMap
          sendRequest) ≠
      ([ClientCall.deleteFaceIdAsync 11].map ClientCall.request, []) := by
  decide +kernel

end KtApp
end GardHub
