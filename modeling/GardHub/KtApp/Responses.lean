import GardHub.Foundation.MachineInt
import GardHub.KtApp.Wire

/-!
# Responses on the socket

A response starts with a header, the command and a return code.  What follows
depends on both, and the client decides from the headers it has read what the
next bytes are.
-/

namespace GardHub
namespace KtApp

open Foundation
open Interface

/-!
## The server
-/

/-- An `int32_t` field. -/
def i32Bytes (value : Int) : List UInt8 :=
  leBytes 4 (toUInt32 value)

/-- The header of a response, as `send_header_only` and the callbacks write
it. -/
def responseHeader (cmd : KtAppCmd) (retCode : Int) : List UInt8 :=
  u32Bytes cmd.code ++ i32Bytes retCode

/-!
## The client
-/

/-- `PY_ERR_COMMUNICATION_FAILURE` -/
@[simp] def pyErrCommunicationFailure : Int := -999

/-- The size of `kt_app_face_profile`. -/
def faceProfileSize : Nat :=
  4 + pathMax

/-- The part of a response that depends on the command, as the client keeps
it. -/
inductive ClientPayload where
  | unset
  | generateFaceIdAsync (faceId : UInt32) (opStatus : Int)
  | listFaceProfiles (faceCount : UInt32) (faceProfiles : List KtAppFaceProfile)
  | deleteFaceIdAsync (opStatus : Int)
deriving DecidableEq

/-- The response that `send_request` of the client returns. -/
structure ClientResponse where
  cmd : KtAppCmd
  retCode : Int
  payload : ClientPayload
deriving DecidableEq

/-- Read a header and check that it is about the command that was sent. -/
def recvHeader (cmd : KtAppCmd) (input : List UInt8) :
    Option (Int × List UInt8) :=
  (takeBytes 8 input).bind fun header =>
    if KtAppCmd.ofCode (UInt32.ofNat (fieldValue header.1 0 4)) = cmd then
      some (toInt32 (fieldValue header.1 4 4), header.2)
    else none

/-- The return code of a response.  The commands that take long may report that
they are pending, and then the header that counts is the second one. -/
def recvRetCode (cmd : KtAppCmd) (input : List UInt8) :
    Option (Int × List UInt8) :=
  (recvHeader cmd input).bind fun header =>
    if header.1 = ktAppRetCodePending ∧
        (cmd = .generateFaceIdAsync ∨ cmd = .deleteFaceIdAsync) then
      recvHeader cmd header.2
    else some header

/-- The profile at an index of an array of profiles. -/
def faceProfileAt (profiles : List UInt8) (index : Nat) : KtAppFaceProfile where
  faceId := UInt32.ofNat (fieldValue profiles (index * faceProfileSize) 4)
  faceName := FaceName.ofBytes
    ((profiles.drop (index * faceProfileSize + 4)).take pathMax)

/-- The payload of a list: a count and that many profiles, of which those are
kept that the structure has room for. -/
def recvFaceProfiles (input : List UInt8) : Option ClientPayload :=
  (takeBytes 4 input).bind fun count =>
    let faceCount := UInt32.ofNat (leValue count.1)
    (takeBytes (faceCount.toNat * faceProfileSize) count.2).map fun profiles =>
      .listFaceProfiles faceCount
        ((List.range (min faceCount.toNat ktAppMaxFaceProfilesOnDisk)).map
          (faceProfileAt profiles.1))

/-- The payload that the client expects after a return code. -/
def recvPayload (cmd : KtAppCmd) (retCode : Int) (input : List UInt8) :
    Option ClientPayload :=
  if retCode = ktAppSuccess then
    match cmd with
    | .generateFaceIdAsync =>
        (takeBytes 8 input).map fun payload =>
          .generateFaceIdAsync (UInt32.ofNat (fieldValue payload.1 0 4))
            (toInt32 (fieldValue payload.1 4 4))
    | .listFaceProfiles => recvFaceProfiles input
    | .deleteFaceIdAsync =>
        (takeBytes 4 input).map fun payload =>
          .deleteFaceIdAsync (toInt32 (leValue payload.1))
    | _ => some .unset
  else some .unset

/-- The result of `send_request` of the client when the server writes the given
bytes. -/
def clientResult (cmd : KtAppCmd) (input : List UInt8) :
    Int × Option ClientResponse :=
  match (recvRetCode cmd input).bind fun code =>
      (recvPayload cmd code.1 code.2).map fun payload => (code.1, payload) with
  | none => (pyErrCommunicationFailure, none)
  | some (retCode, payload) => (retCode, some ⟨cmd, retCode, payload⟩)

/-!
## Reading what was written
-/

@[simp] theorem i32Bytes_length (value : Int) :
    (i32Bytes value).length = 4 := by
  simp [i32Bytes]

@[simp] theorem responseHeader_length (cmd : KtAppCmd) (retCode : Int) :
    (responseHeader cmd retCode).length = 8 := by
  simp [responseHeader]

theorem fieldValue_front {front back : List UInt8} (h : front.length = 4) :
    fieldValue (front ++ back) 0 4 = leValue front := by
  rw [fieldValue, List.drop_zero, ← h, List.take_left]

theorem fieldValue_back {front back : List UInt8} (hfront : front.length = 4)
    (hback : back.length = 4) :
    fieldValue (front ++ back) 4 4 = leValue back := by
  rw [fieldValue, ← hfront, List.drop_left, hfront, ← hback, List.take_length]

theorem toInt32_i32Bytes {value : Int} (hlow : -2 ^ 31 ≤ value)
    (hhigh : value < 2 ^ 31) : toInt32 (leValue (i32Bytes value)) = value := by
  have hlt : toUInt32 value < 256 ^ 4 := by
    unfold toUInt32
    lia
  rw [i32Bytes, leValue_leBytes_of_lt hlt]
  unfold toInt32 toUInt32
  lia

theorem recvHeader_responseHeader {cmd : KtAppCmd}
    (h : KtAppCmd.ofCode cmd.code = cmd) {retCode : Int}
    (hlow : -2 ^ 31 ≤ retCode) (hhigh : retCode < 2 ^ 31) (rest : List UInt8) :
    recvHeader cmd (responseHeader cmd retCode ++ rest) =
      some (retCode, rest) := by
  have hcmd : KtAppCmd.ofCode
      (UInt32.ofNat (fieldValue (responseHeader cmd retCode) 0 4)) = cmd := by
    rw [responseHeader, fieldValue_front (u32Bytes_length _), leValue_u32Bytes]
    exact h
  have hcode : toInt32 (fieldValue (responseHeader cmd retCode) 4 4) =
      retCode := by
    rw [responseHeader, fieldValue_back (u32Bytes_length _) (i32Bytes_length _)]
    exact toInt32_i32Bytes hlow hhigh
  rw [recvHeader, takeBytes_append (responseHeader_length cmd retCode),
    Option.bind_some, if_pos hcmd, hcode]

end KtApp
end GardHub
