import GardHub.Foundation.Lists
import GardHub.KtApp.Mailbox
import GardHub.KtApp.Responses

/-!
# Face profiles as arrays

The face database with the arrays of its names, byte by byte: how an update
copies a name into one of them, and how a list sends them.  A name is the text
in front of the first NUL of its array, and so the arrays refine the database.
-/

namespace GardHub
namespace KtApp

open Foundation
open Interface

/-!
## The arrays
-/

/-- A `face_name` of `PATH_MAX` bytes. -/
structure NameArray where
  bytes : List UInt8
  length_eq : bytes.length = pathMax

/-- `kt_app_face_profile` -/
structure ProfileArray where
  faceId : UInt32
  faceName : NameArray

/-- The profile that the array holds. -/
def ProfileArray.profile (p : ProfileArray) : KtAppFaceProfile :=
  { faceId := p.faceId
    faceName := FaceName.ofBytes p.faceName.bytes }

/-- `face_profiles` and `face_profile_count` -/
structure ProfileArrays where
  profiles : List ProfileArray
  count_le : profiles.length ≤ ktAppMaxFaceProfilesOnDisk

/-- The database that the arrays hold. -/
def ProfileArrays.faceDb (db : ProfileArrays) : FaceDb where
  profiles := db.profiles.map ProfileArray.profile
  count_le := by
    rw [List.length_map]
    exact db.count_le

/-- `os_memcpy` of a whole `face_name`.  The field of a request is one byte
shorter; `behind` is what lies behind it. -/
def copyFaceName (faceName : List UInt8) (behind : UInt8) : NameArray where
  bytes := (List.range pathMax).map fun i => faceName.getD i behind
  length_eq := by
    rw [List.length_map, List.length_range]

/-- The loop of `kt_app_face_db_update_face_profile`, which ends at the first
profile with the identifier; `none` if there is none. -/
def overwriteFaceName (faceId : UInt32) (faceName : NameArray) :
    List ProfileArray -> Option (List ProfileArray)
  | [] => none
  | p :: rest =>
      if p.faceId = faceId then some ({ p with faceName := faceName } :: rest)
      else (overwriteFaceName faceId faceName rest).map (p :: ·)

theorem overwriteFaceName_length {faceId : UInt32} {faceName : NameArray}
    {profiles overwritten : List ProfileArray}
    (h : overwriteFaceName faceId faceName profiles = some overwritten) :
    overwritten.length = profiles.length := by
  induction profiles generalizing overwritten with
  | nil =>
      cases h
  | cons p rest ih =>
      rw [overwriteFaceName] at h
      split at h
      · cases h
        rfl
      · rcases Option.map_eq_some_iff.mp h with ⟨tail, htail, rfl⟩
        rw [List.length_cons, List.length_cons, ih htail]

/-- `kt_app_face_db_update_face_profile` -/
def ProfileArrays.updateFaceProfile (db : ProfileArrays) (faceId : UInt32)
    (faceName : NameArray) : Bool × ProfileArrays :=
  match hfound : overwriteFaceName faceId faceName db.profiles with
  | none => (false, db)
  | some profiles =>
      (true,
        { profiles := profiles
          count_le := by
            rw [overwriteFaceName_length hfound]
            exact db.count_le })

/-!
## The server
-/

/-- `send_list_profiles_payload` -/
def sendListProfilesPayload (profiles : List ProfileArray) : List UInt8 :=
  u32Bytes (UInt32.ofNat profiles.length) ++
    profiles.flatMap fun p => u32Bytes p.faceId ++ p.faceName.bytes

/-- `handle_req_resp_command` for the two commands about the profiles, with what
`kt_app_execute_cmd` does while it waits: what it writes, and the database
behind it. -/
def serveProfileRequest (behind : UInt8) (db : ProfileArrays)
    (input : List UInt8) : Option (List UInt8 × ProfileArrays) :=
  (handleReqRespCommand input).bind fun request =>
    match request.1.cmd with
    | .updateFaceProfile =>
        let updated := db.updateFaceProfile request.1.faceId
          (copyFaceName request.1.faceName behind)
        let retCode := if updated.1 then ktAppSuccess else ktAppErrorGeneric
        some (responseHeader .updateFaceProfile retCode, updated.2)
    | .listFaceProfiles =>
        some (responseHeader .listFaceProfiles ktAppSuccess ++
          sendListProfilesPayload
            (db.profiles.take ktAppMaxFaceProfilesOnDisk), db)
    | _ => none

/-!
## The arrays refine the database
-/

section Refines

theorem cString_append_of_mem {front : List UInt8} (h : 0 ∈ front)
    (back : List UInt8) : cString (front ++ back) = cString front := by
  induction front with
  | nil =>
      cases h
  | cons b rest ih =>
      by_cases hb : b = 0
      · simp [cString, hb]
      · have hrest : 0 ∈ rest := by
          rcases List.mem_cons.mp h with heq | hmem
          · exact absurd heq.symm hb
          · exact hmem
        have hlater := ih hrest
        unfold cString at hlater ⊢
        simp [hb, hlater]

/-- Behind the name of a request one byte is copied that is not part of it. -/
theorem copyFaceName_bytes {faceName : List UInt8}
    (h : faceName.length = ktAppMaxFaceNameLength) (behind : UInt8) :
    (copyFaceName faceName behind).bytes = faceName ++ [behind] := by
  have hpath : pathMax = faceName.length + 1 := by
    rw [h]
    decide
  apply List.ext_getElem?
  intro i
  rw [copyFaceName, List.getElem?_map, hpath]
  by_cases hi : i < faceName.length
  · rw [List.getElem?_range (by lia), List.getElem?_append_left hi,
      List.getElem?_eq_getElem hi, Option.map_some,
      List.getD_eq_getElem _ _ hi]
  · by_cases hlast : i = faceName.length
    · subst hlast
      simp
    · have hcopy : (List.range (faceName.length + 1)).length ≤ i := by
        rw [List.length_range]
        lia
      have hsource : (faceName ++ [behind]).length ≤ i := by
        rw [List.length_append, List.length_singleton]
        lia
      rw [List.getElem?_eq_none hcopy, List.getElem?_eq_none hsource]
      rfl

/-- A name that ends in front of the last byte of its field is copied whole. -/
theorem ofBytes_copyFaceName {faceName : List UInt8}
    (h : faceName.length = ktAppMaxFaceNameLength) (hnul : 0 ∈ faceName)
    (behind : UInt8) :
    FaceName.ofBytes (copyFaceName faceName behind).bytes =
      FaceName.ofBytes faceName := by
  apply FaceName.ext
  change (cString (copyFaceName faceName behind).bytes).take (pathMax - 1) =
    (cString faceName).take (pathMax - 1)
  rw [copyFaceName_bytes h, cString_append_of_mem hnul]

theorem overwriteFaceName_profile (faceId : UInt32) (faceName : NameArray)
    (profiles : List ProfileArray) :
    (overwriteFaceName faceId faceName profiles).map
        (List.map ProfileArray.profile) =
      renameProfile faceId (FaceName.ofBytes faceName.bytes)
        (profiles.map ProfileArray.profile) := by
  induction profiles with
  | nil =>
      rfl
  | cons p rest ih =>
      rw [overwriteFaceName, List.map_cons, renameProfile]
      by_cases hid : p.faceId = faceId
      · have hid' : p.profile.faceId = faceId := hid
        rw [if_pos hid, if_pos hid']
        rfl
      · have hid' : ¬ p.profile.faceId = faceId := hid
        rw [if_neg hid, if_neg hid', ← ih, Option.map_map, Option.map_map]
        rfl

theorem ProfileArrays.updateFaceProfile_eq (db : ProfileArrays)
    (faceId : UInt32) (faceName : NameArray) :
    (db.updateFaceProfile faceId faceName).1 =
        (overwriteFaceName faceId faceName db.profiles).isSome ∧
      (db.updateFaceProfile faceId faceName).2.profiles =
        (overwriteFaceName faceId faceName db.profiles).getD db.profiles := by
  unfold ProfileArrays.updateFaceProfile
  split
  · rename_i hfound
    simp [hfound]
  · rename_i hfound
    simp [hfound]

theorem ktAppFaceDbUpdateFaceProfile_eq (db : FaceDb) (faceId : UInt32)
    (faceName : FaceName) :
    (ktAppFaceDbUpdateFaceProfile db faceId faceName).1 =
        (renameProfile faceId faceName db.profiles).isSome ∧
      (ktAppFaceDbUpdateFaceProfile db faceId faceName).2.profiles =
        (renameProfile faceId faceName db.profiles).getD db.profiles := by
  unfold ktAppFaceDbUpdateFaceProfile
  split
  · rename_i hrename
    simp [hrename]
  · rename_i hrename
    simp [hrename]

theorem FaceDb.ext {db db' : FaceDb} (h : db.profiles = db'.profiles) :
    db = db' := by
  cases db
  cases db'
  cases h
  rfl

/-- An update of the arrays is an update of the database that they hold. -/
theorem ProfileArrays.updateFaceProfile_faceDb (db : ProfileArrays)
    (faceId : UInt32) (faceName : NameArray) :
    ((db.updateFaceProfile faceId faceName).1,
        (db.updateFaceProfile faceId faceName).2.faceDb) =
      ktAppFaceDbUpdateFaceProfile db.faceDb faceId
        (FaceName.ofBytes faceName.bytes) := by
  have hrename := overwriteFaceName_profile faceId faceName db.profiles
  have harrays := db.updateFaceProfile_eq faceId faceName
  have hnames := ktAppFaceDbUpdateFaceProfile_eq db.faceDb faceId
    (FaceName.ofBytes faceName.bytes)
  change _ = renameProfile faceId (FaceName.ofBytes faceName.bytes)
    db.faceDb.profiles at hrename
  rw [← hrename] at hnames
  apply Prod.ext
  · rw [harrays.1, hnames.1, Option.isSome_map]
  · apply FaceDb.ext
    change List.map ProfileArray.profile
      (db.updateFaceProfile faceId faceName).2.profiles = _
    rw [harrays.2, hnames.2]
    cases overwriteFaceName faceId faceName db.profiles <;> rfl

/-- The name of a request that was read ends in front of the last byte of its
field. -/
theorem handleReqRespCommand_faceName {input rest : List UInt8}
    {request : KtAppRequest}
    (h : handleReqRespCommand input = some (request, rest)) :
    request.faceName.length = ktAppMaxFaceNameLength ∧
      0 ∈ request.faceName := by
  have hnone : noFaceName.length = ktAppMaxFaceNameLength ∧
      (0 : UInt8) ∈ noFaceName := by
    rw [noFaceName, List.length_replicate, List.mem_replicate]
    exact ⟨rfl, by decide, rfl⟩
  rcases Option.bind_eq_some_iff.mp h with ⟨cmd, -, hpayload⟩
  cases hread : KtAppCmd.ofCode (UInt32.ofNat (leValue cmd.1)) with
  | updateFaceProfile =>
      simp only [hread] at hpayload
      rcases Option.bind_eq_some_iff.mp hpayload with ⟨faceId, -, hname⟩
      rcases Option.map_eq_some_iff.mp hname with ⟨faceName, hbytes, hresult⟩
      have hlength := takeBytes_taken_length hbytes
      have hlast : ktAppMaxFaceNameLength - 1 < faceName.1.length := by
        rw [hlength]
        decide
      cases hresult
      constructor
      · rw [terminateFaceName, List.length_set, hlength]
      · exact List.mem_set hlast 0
  | _ =>
      simp only [hread] at hpayload
      cases hpayload
      exact hnone

/-- Nothing is under way, and the program goes on. -/
structure Mailbox.Quiet (s : Mailbox) : Prop where
  main : s.main = .idle
  requester : s.requester = .ready
  shouldExit : s.shouldExit = false

/-- The mailbox when a request has been served. -/
def Mailbox.served (s : Mailbox) (request : KtAppRequest) (faceDb : FaceDb)
    (response : KtAppResponse) : Mailbox :=
  { shmem :=
      { request := request
        response := response
        cmdPending := false }
    shouldExit := s.shouldExit
    faceDb := faceDb
    main := .idle
    requester := .ready
    sent := s.sent ++ [request]
    executed := s.executed ++ [request.execution]
    published := s.published ++ [response]
    picked := s.picked ++ [(s.sent.length, response)] }

/-- What the threads do to serve a request about the profiles. -/
def servingActions (request : KtAppRequest) : List MailboxAction :=
  let execution : List MailboxAction :=
    [.execute ⟨0, 0, 0⟩, .publish, .lookAtPending, .getResponse]
  .loopHead :: .sendRequest request :: .takeCommand ::
    if request.cmd = .updateFaceProfile then .readFaceId :: execution
    else execution

section Served

variable {s : Mailbox} {db : ProfileArrays} {input rest : List UInt8}
  {request : KtAppRequest}

/-- An update is served as it is through the mailbox, with the arrays in place
of the names. -/
theorem serveProfileRequest_update (behind : UInt8) (hquiet : s.Quiet)
    (hdb : s.faceDb = db.faceDb)
    (hread : handleReqRespCommand input = some (request, rest))
    (hcmd : request.cmd = .updateFaceProfile) :
    exists response db',
      runActions (mailboxStep .ipc) s (servingActions request) =
          some (s.served request db'.faceDb response) ∧
        serveProfileRequest behind db input =
          some (responseHeader response.cmd response.retCode, db') := by
  have hname := handleReqRespCommand_faceName hread
  have hupdate := db.updateFaceProfile_faceDb request.faceId
    (copyFaceName request.faceName behind)
  rw [ofBytes_copyFaceName hname.1 hname.2, ← hdb] at hupdate
  refine ⟨{ s.shmem.response with
      cmd := .updateFaceProfile
      retCode := if (db.updateFaceProfile request.faceId
          (copyFaceName request.faceName behind)).1 then ktAppSuccess
        else ktAppErrorGeneric },
    (db.updateFaceProfile request.faceId
      (copyFaceName request.faceName behind)).2, ?_, ?_⟩
  · simp [runActions, servingActions, hcmd, mailboxStep, hquiet.main,
      hquiet.requester, hquiet.shouldExit, RequesterKind.sends, ktAppSendRequest,
      Mailbox.executeUpdate, Mailbox.finishSwitch, Mailbox.publishResponse,
      lookAtPending, ktAppGetResponse, Mailbox.served, KtAppRequest.execution,
      ← hupdate]
  · rw [serveProfileRequest, hread, Option.bind_some]
    simp only [hcmd]

/-- So is a list, which sends the arrays of the profiles in the response. -/
theorem serveProfileRequest_list (behind : UInt8) (hquiet : s.Quiet)
    (hdb : s.faceDb = db.faceDb)
    (hread : handleReqRespCommand input = some (request, rest))
    (hcmd : request.cmd = .listFaceProfiles) :
    exists response,
      runActions (mailboxStep .ipc) s (servingActions request) =
          some (s.served request db.faceDb response) ∧
        response.payload = .listFaceProfiles db.faceDb.profiles ∧
        serveProfileRequest behind db input =
          some (responseHeader response.cmd response.retCode ++
            sendListProfilesPayload db.profiles, db) := by
  refine ⟨{ cmd := .listFaceProfiles
            retCode := ktAppSuccess
            payload := .listFaceProfiles db.faceDb.profiles }, ?_, rfl, ?_⟩
  · simp [runActions, servingActions, hcmd, mailboxStep, hquiet.main,
      hquiet.requester, hquiet.shouldExit, RequesterKind.sends, ktAppSendRequest,
      Mailbox.executeCmd, Mailbox.finishSwitch, Mailbox.publishResponse,
      lookAtPending, ktAppGetResponse, Mailbox.served, KtAppRequest.execution,
      hdb]
  · rw [serveProfileRequest, hread, Option.bind_some,
      List.take_of_length_le db.count_le]
    simp only [hcmd]

end Served

end Refines

end KtApp
end GardHub
