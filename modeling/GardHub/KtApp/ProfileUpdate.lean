import GardHub.Foundation.Utf8
import GardHub.KtApp.ProfileArrays

/-!
# Renaming a face

The Python client renames a face and lists the faces.  A name is cut off for the
field of the request, copied into the array of the profile, sent back with
everything that is in the array, and decoded up to its first NUL.
-/

namespace GardHub
namespace KtApp

open Foundation
open Interface

/-!
## The client
-/

/-- An entry of the list that `list_face_profiles` of the client saves. -/
structure ClientProfile where
  faceId : UInt32
  name : List Char
deriving DecidableEq

/-- What `send_request` of the client reads behind the header of a list: a count
and that many profiles, of which those are kept that the structure has room
for. -/
def recvProfileArrays (input : List UInt8) :
    Option (UInt32 × List (UInt32 × List UInt8)) :=
  (takeBytes 4 input).bind fun count =>
    let faceCount := UInt32.ofNat (leValue count.1)
    (takeBytes (faceCount.toNat * faceProfileSize) count.2).map fun profiles =>
      (faceCount,
        (List.range (min faceCount.toNat ktAppMaxFaceProfilesOnDisk)).map
          fun i =>
            (UInt32.ofNat (fieldValue profiles.1 (i * faceProfileSize) 4),
              (profiles.1.drop (i * faceProfileSize + 4)).take pathMax))

/-- The name of a profile is decoded up to its first NUL. -/
def clientProfile (p : UInt32 × List UInt8) : ClientProfile :=
  { faceId := p.1
    name := utf8DecodeIgnoring (cString p.2) }

/-- What `list_face_profiles` makes of what the server writes: the status, and
the profiles if there are any to save. -/
def listedProfiles (input : List UInt8) : Int × Option (List ClientProfile) :=
  match recvRetCode .listFaceProfiles input with
  | none => (pyErrCommunicationFailure, none)
  | some (retCode, rest) =>
      if retCode = ktAppSuccess then
        match recvProfileArrays rest with
        | none => (pyErrCommunicationFailure, none)
        | some arrays => (retCode, some (arrays.2.map clientProfile))
      else (retCode, none)

/-- The server's database, and the file that the client saves the profiles in,
if it has one. -/
structure ProfileState where
  db : ProfileArrays
  jsonDb : Option (List ClientProfile)

/-- `list_face_profiles` of the client, on a connection that is served to its
end. -/
def listFaceProfiles (behind : UInt8) (s : ProfileState) :
    Option (Int × ProfileState) :=
  (serveProfileRequest behind s.db
      (sendRequest ClientCall.listFaceProfiles.request)).map fun served =>
    let listed := listedProfiles served.1
    (listed.1,
      { db := served.2
        jsonDb := listed.2 <|> s.jsonDb })

/-- `update_face_profile` of the client, which lists the profiles behind an
update that has succeeded. -/
def updateFaceProfile (behind : UInt8) (faceId : UInt32) (name : List Char)
    (s : ProfileState) : Option (Int × ProfileState) :=
  (serveProfileRequest behind s.db (sendRequest
      (ClientCall.updateFaceProfile faceId (utf8Bytes name)).request)).bind
    fun served =>
      let status := (clientResult .updateFaceProfile served.1).1
      let s' := { s with db := served.2 }
      if status = ktAppSuccess then
        (listFaceProfiles behind s').map fun listed => (status, listed.2)
      else some (status, s')

/-- The profiles that a successful `list_face_profiles` saves. -/
def yieldedProfiles (behind : UInt8) (s : ProfileState) :
    Option (List ClientProfile) :=
  (listFaceProfiles behind s).bind fun listed =>
    if listed.1 = ktAppSuccess then listed.2.jsonDb else none

/-!
## The list
-/

section List

theorem recvFaceProfiles_eq (input : List UInt8) :
    recvFaceProfiles input = (recvProfileArrays input).map fun arrays =>
      .listFaceProfiles arrays.1
        (arrays.2.map fun p => ⟨p.1, FaceName.ofBytes p.2⟩) := by
  unfold recvFaceProfiles recvProfileArrays
  cases takeBytes 4 input with
  | none =>
      rfl
  | some count =>
      simp only [Option.bind_some, Option.map_map]
      congr 1
      funext profiles
      simp only [Function.comp_apply, List.map_map]
      rfl

/-- The status of a list is read as it is for the other commands. -/
theorem listedProfiles_status (input : List UInt8) :
    (listedProfiles input).1 = (clientResult .listFaceProfiles input).1 := by
  rw [listedProfiles, clientResult]
  cases recvRetCode .listFaceProfiles input with
  | none =>
      rfl
  | some code =>
      simp only [Option.bind_some, recvPayload]
      by_cases hsuccess : code.1 = ktAppSuccess
      · simp only [if_pos hsuccess, recvFaceProfiles_eq]
        cases recvProfileArrays code.2 <;> rfl
      · simp only [if_neg hsuccess]
        rfl

theorem sendListProfilesPayload_record_length (p : ProfileArray) :
    (u32Bytes p.faceId ++ p.faceName.bytes).length = faceProfileSize := by
  rw [List.length_append, u32Bytes_length, p.faceName.length_eq]
  rfl

theorem recvProfileArrays_sendListProfilesPayload
    {profiles : List ProfileArray}
    (h : profiles.length ≤ ktAppMaxFaceProfilesOnDisk) :
    recvProfileArrays (sendListProfilesPayload profiles) =
      some (UInt32.ofNat profiles.length,
        profiles.map fun p => (p.faceId, p.faceName.bytes)) := by
  have hmax : ktAppMaxFaceProfilesOnDisk = 100 := rfl
  have hcount : (UInt32.ofNat profiles.length).toNat = profiles.length := by
    rw [UInt32.toNat_ofNat']
    lia
  have hlength := length_flatMap_of_length
    sendListProfilesPayload_record_length profiles
  have htaken := takeBytes_append hlength []
  rw [List.append_nil] at htaken
  rw [recvProfileArrays, sendListProfilesPayload,
    takeBytes_append (u32Bytes_length _), Option.bind_some]
  simp only [leValue_u32Bytes, hcount, htaken, Option.map_some,
    min_eq_left h]
  congr 2
  apply List.ext_getElem
  · rw [List.length_map, List.length_map, List.length_range]
  · intro i hi hi'
    have hlt : i < profiles.length := by
      rwa [List.length_map] at hi'
    have hrecord := drop_flatMap_of_length
      sendListProfilesPayload_record_length profiles i
    rw [List.drop_eq_getElem_cons hlt, List.flatMap_cons, List.append_assoc]
      at hrecord
    have hname := congrArg (List.drop 4) hrecord
    rw [List.drop_drop, List.drop_left' (u32Bytes_length _)] at hname
    rw [List.getElem_map, List.getElem_map, List.getElem_range, fieldValue,
      hrecord, hname, List.take_left' (u32Bytes_length _),
      List.take_left' profiles[i].faceName.length_eq, leValue_u32Bytes]

/-- What the client shows of a profile. -/
def shownProfile (p : ProfileArray) : ClientProfile :=
  clientProfile (p.faceId, p.faceName.bytes)

theorem recvRetCode_listFaceProfiles (payload : List UInt8) :
    recvRetCode .listFaceProfiles
        (responseHeader .listFaceProfiles ktAppSuccess ++ payload) =
      some (ktAppSuccess, payload) := by
  rw [recvRetCode, recvHeader_responseHeader rfl (by decide) (by decide),
    Option.bind_some, if_neg (by simp)]

theorem listFaceProfiles_eq (behind : UInt8) (s : ProfileState) :
    listFaceProfiles behind s =
      some (ktAppSuccess,
        { db := s.db
          jsonDb := some (s.db.profiles.map shownProfile) }) := by
  have hkept : ¬ ClientCall.listFaceProfiles.IsDelete := id
  have hread := handleReqRespCommand_sendRequest hkept []
  rw [List.append_nil] at hread
  have hserved : serveProfileRequest behind s.db
      (sendRequest ClientCall.listFaceProfiles.request) =
        some (responseHeader .listFaceProfiles ktAppSuccess ++
          sendListProfilesPayload s.db.profiles, s.db) := by
    rw [serveProfileRequest, hread, Option.bind_some,
      List.take_of_length_le s.db.count_le]
    rfl
  have hlisted : listedProfiles
      (responseHeader .listFaceProfiles ktAppSuccess ++
        sendListProfilesPayload s.db.profiles) =
      (ktAppSuccess, some (s.db.profiles.map shownProfile)) := by
    rw [listedProfiles, recvRetCode_listFaceProfiles]
    simp only [if_pos, recvProfileArrays_sendListProfilesPayload s.db.count_le,
      List.map_map]
    rfl
  rw [listFaceProfiles, hserved, Option.map_some]
  simp only [hlisted]
  rfl

theorem yieldedProfiles_eq (behind : UInt8) (s : ProfileState) :
    yieldedProfiles behind s = some (s.db.profiles.map shownProfile) := by
  rw [yieldedProfiles, listFaceProfiles_eq, Option.bind_some, if_pos rfl]

end List

/-!
## The update
-/

section Update

variable {profiles : List ProfileArray} {faceId : UInt32}
  {faceName : NameArray}

theorem overwriteFaceName_of_not_mem
    (h : faceId ∉ profiles.map ProfileArray.faceId) :
    overwriteFaceName faceId faceName profiles = none := by
  induction profiles with
  | nil =>
      rfl
  | cons p rest ih =>
      rw [List.map_cons, List.mem_cons, not_or] at h
      rw [overwriteFaceName, if_neg (Ne.symm h.1), ih h.2]
      rfl

/-- With distinct identifiers the name of one profile is overwritten. -/
theorem overwriteFaceName_of_mem
    (hdistinct : (profiles.map ProfileArray.faceId).Nodup)
    (h : faceId ∈ profiles.map ProfileArray.faceId) :
    overwriteFaceName faceId faceName profiles =
      some (profiles.map fun p =>
        if p.faceId = faceId then { p with faceName := faceName } else p) := by
  induction profiles with
  | nil =>
      cases h
  | cons p rest ih =>
      rw [List.map_cons, List.nodup_cons] at hdistinct
      rw [overwriteFaceName, List.map_cons]
      by_cases hid : p.faceId = faceId
      · have hothers : forall q, q ∈ rest ->
            (if q.faceId = faceId then { q with faceName := faceName } else q)
              = q := by
          intro q hq
          rw [if_neg]
          intro hsame
          apply hdistinct.1
          rw [hid, ← hsame]
          exact List.mem_map_of_mem hq
        rw [if_pos hid, if_pos hid, List.map_congr_left hothers, List.map_id']
      · have hrest : faceId ∈ rest.map ProfileArray.faceId := by
          rcases List.mem_cons.mp h with heq | hmem
          · exact absurd heq.symm hid
          · exact hmem
        rw [if_neg hid, if_neg hid, ih hdistinct.2 hrest]
        rfl

theorem ProfileArrays.updateFaceProfile_of_mem {db : ProfileArrays}
    (hdistinct : (db.profiles.map ProfileArray.faceId).Nodup)
    (h : faceId ∈ db.profiles.map ProfileArray.faceId)
    (faceName : NameArray) :
    (db.updateFaceProfile faceId faceName).1 = true ∧
      (db.updateFaceProfile faceId faceName).2.profiles =
        db.profiles.map fun p =>
          if p.faceId = faceId then { p with faceName := faceName } else p := by
  have hupdate := db.updateFaceProfile_eq faceId faceName
  rw [overwriteFaceName_of_mem hdistinct h] at hupdate
  exact hupdate

theorem ProfileArrays.updateFaceProfile_of_not_mem {db : ProfileArrays}
    (h : faceId ∉ db.profiles.map ProfileArray.faceId)
    (faceName : NameArray) :
    db.updateFaceProfile faceId faceName = (false, db) := by
  have hnone : overwriteFaceName faceId faceName db.profiles = none :=
    overwriteFaceName_of_not_mem h
  unfold ProfileArrays.updateFaceProfile
  split
  · rfl
  · rename_i hfound
    rw [hnone] at hfound
    cases hfound

theorem cString_append_zero {front : List UInt8} (h : 0 ∉ front)
    (back : List UInt8) : cString (front ++ 0 :: back) = front := by
  rw [cString, List.takeWhile_append_of_pos]
  · simp
  · intro b hb
    have hne : b ≠ 0 := fun hzero => h (hzero ▸ hb)
    simpa using hne

/-- What was copied holds the name of the request, cut off in front of the last
byte of its field. -/
theorem cString_copyFaceName (behind : UInt8) {bytes : List UInt8}
    (h : 0 ∉ bytes) :
    cString (copyFaceName (clientFaceName bytes) behind).bytes =
      bytes.take (ktAppMaxFaceNameLength - 1) := by
  have hcut : (bytes.take (ktAppMaxFaceNameLength - 1)).length ≤
      ktAppMaxFaceNameLength - 1 := List.length_take_le _ _
  have hpositive : 0 < ktAppMaxFaceNameLength := by decide
  have hfront : 0 ∉ bytes.take (ktAppMaxFaceNameLength - 1) :=
    fun hzero => h (List.mem_of_mem_take hzero)
  have hrest : ktAppMaxFaceNameLength -
      (bytes.take (ktAppMaxFaceNameLength - 1)).length =
        (ktAppMaxFaceNameLength - 1 -
          (bytes.take (ktAppMaxFaceNameLength - 1)).length) + 1 := by
    lia
  rw [copyFaceName_bytes (clientFaceName_length bytes), clientFaceName,
    overwrite_zero, noFaceName, List.drop_replicate, hrest,
    List.replicate_succ, List.append_assoc, List.cons_append,
    cString_append_zero hfront]

/-- A profile that has been renamed by the client shows the characters of the
name that its request had room for. -/
theorem shownProfile_renamed (p : ProfileArray) (behind : UInt8)
    {name : List Char} (hnul : '\x00' ∉ name) :
    shownProfile { p with
        faceName := copyFaceName (clientFaceName (utf8Bytes name)) behind } =
      { shownProfile p with
        name := utf8DecodeIgnoring
          ((utf8Bytes name).take (ktAppMaxFaceNameLength - 1)) } := by
  rw [shownProfile, clientProfile,
    cString_copyFaceName behind (zero_not_mem_utf8Bytes hnul)]
  rfl

/-- Renaming the profiles with an identifier renames the entries of the list. -/
theorem map_shownProfile_renamed (behind : UInt8) {name : List Char}
    (hnul : '\x00' ∉ name) (faceId : UInt32) (profiles : List ProfileArray) :
    (profiles.map fun p =>
        if p.faceId = faceId then
          { p with
            faceName := copyFaceName (clientFaceName (utf8Bytes name)) behind }
        else p).map shownProfile =
      (profiles.map shownProfile).map fun p =>
        if p.faceId = faceId then
          { p with
            name := utf8DecodeIgnoring
              ((utf8Bytes name).take (ktAppMaxFaceNameLength - 1)) }
        else p := by
  rw [List.map_map, List.map_map]
  apply List.map_congr_left
  intro p _
  have hid : (shownProfile p).faceId = p.faceId := rfl
  simp only [Function.comp_apply, hid]
  split
  · exact shownProfile_renamed p behind hnul
  · rfl

theorem clientResult_updateFaceProfile (retCode : Int)
    (hlow : -2 ^ 31 ≤ retCode) (hhigh : retCode < 2 ^ 31) :
    (clientResult .updateFaceProfile
      (responseHeader .updateFaceProfile retCode)).1 = retCode := by
  have hheader := recvHeader_responseHeader
    (show KtAppCmd.ofCode KtAppCmd.updateFaceProfile.code = _ from rfl)
    hlow hhigh []
  rw [List.append_nil] at hheader
  have hpayload : recvPayload .updateFaceProfile retCode [] =
      some .unset := by
    unfold recvPayload
    split <;> rfl
  rw [clientResult, recvRetCode, hheader, Option.bind_some,
    if_neg (by simp), Option.bind_some, hpayload]
  rfl

/-- What the server writes for an update of the client, and its database behind
it. -/
theorem serveProfileRequest_updateFaceProfile (behind : UInt8)
    (db : ProfileArrays) (faceId : UInt32) (bytes : List UInt8) :
    serveProfileRequest behind db
        (sendRequest (ClientCall.updateFaceProfile faceId bytes).request) =
      some (responseHeader .updateFaceProfile
          (if (db.updateFaceProfile faceId
              (copyFaceName (clientFaceName bytes) behind)).1 then ktAppSuccess
            else ktAppErrorGeneric),
        (db.updateFaceProfile faceId
          (copyFaceName (clientFaceName bytes) behind)).2) := by
  have hkept : ¬ (ClientCall.updateFaceProfile faceId bytes).IsDelete := id
  have hread := handleReqRespCommand_sendRequest hkept []
  rw [List.append_nil] at hread
  rw [serveProfileRequest, hread, Option.bind_some]
  rfl

theorem updateFaceProfile_of_found {behind : UInt8} {s : ProfileState}
    {name : List Char} {db : ProfileArrays}
    (h : s.db.updateFaceProfile faceId
      (copyFaceName (clientFaceName (utf8Bytes name)) behind) = (true, db)) :
    updateFaceProfile behind faceId name s =
      some (ktAppSuccess,
        { db := db
          jsonDb := some (db.profiles.map shownProfile) }) := by
  have hstatus := clientResult_updateFaceProfile ktAppSuccess (by decide)
    (by decide)
  rw [updateFaceProfile, serveProfileRequest_updateFaceProfile, h,
    Option.bind_some]
  simp only [if_true, hstatus, listFaceProfiles_eq, Option.map_some]

theorem updateFaceProfile_of_not_found {behind : UInt8} {s : ProfileState}
    {name : List Char} {db : ProfileArrays}
    (h : s.db.updateFaceProfile faceId
      (copyFaceName (clientFaceName (utf8Bytes name)) behind) = (false, db)) :
    updateFaceProfile behind faceId name s =
      some (ktAppErrorGeneric, { s with db := db }) := by
  have hstatus := clientResult_updateFaceProfile ktAppErrorGeneric (by decide)
    (by decide)
  rw [updateFaceProfile, serveProfileRequest_updateFaceProfile, h,
    Option.bind_some]
  simp only [Bool.false_eq_true, if_false, hstatus]
  rfl

end Update

/-!
## What is listed behind an update
-/

section Listed

/-- A name that the client gives to a face is listed up to its last character
that fits in 254 bytes, and nothing else is listed differently.  For an
identifier that is not in the database the update fails and changes nothing. -/
theorem updateFaceProfile_yields (behind : UInt8) (s : ProfileState)
    (hdistinct : (s.db.profiles.map ProfileArray.faceId).Nodup)
    (faceId : UInt32) (name : List Char) (hnul : '\x00' ∉ name) :
    (faceId ∈ s.db.profiles.map ProfileArray.faceId ->
      exists s' before front,
        updateFaceProfile behind faceId name s = some (ktAppSuccess, s') ∧
        LongestFitting 254 name front ∧
        yieldedProfiles behind s = some before ∧
        before.map ClientProfile.faceId =
          s.db.profiles.map ProfileArray.faceId ∧
        yieldedProfiles behind s' = some (before.map fun p =>
          if p.faceId = faceId then { p with name := front } else p)) ∧
    (faceId ∉ s.db.profiles.map ProfileArray.faceId ->
      updateFaceProfile behind faceId name s =
        some (ktAppErrorGeneric, s)) := by
  constructor
  · intro hmem
    cases hupdate : s.db.updateFaceProfile faceId
        (copyFaceName (clientFaceName (utf8Bytes name)) behind) with
    | mk found db =>
        have hspec := ProfileArrays.updateFaceProfile_of_mem hdistinct hmem
          (copyFaceName (clientFaceName (utf8Bytes name)) behind)
        rw [hupdate] at hspec
        rcases hspec with ⟨rfl, hprofiles⟩
        refine ⟨_, _, _, updateFaceProfile_of_found hupdate,
          utf8DecodeIgnoring_take 254 name, yieldedProfiles_eq behind s, ?_,
          ?_⟩
        · rw [List.map_map]
          rfl
        · rw [yieldedProfiles_eq, hprofiles,
            map_shownProfile_renamed behind hnul]
          rfl
  · intro hmem
    exact updateFaceProfile_of_not_found
      (ProfileArrays.updateFaceProfile_of_not_mem hmem _)

/-- Two profiles without names. -/
def twoProfiles : ProfileState :=
  { db :=
      { profiles :=
          [⟨7, ⟨List.replicate pathMax 0, List.length_replicate⟩⟩,
            ⟨8, ⟨List.replicate pathMax 0, List.length_replicate⟩⟩]
        count_le := by decide }
    jsonDb := none }

theorem updateFaceProfile_yields_twoProfiles :
    (exists s' before front,
      updateFaceProfile 1 8 ['Z', 'o', 'ë'] twoProfiles =
          some (ktAppSuccess, s') ∧
        LongestFitting 254 ['Z', 'o', 'ë'] front ∧
        yieldedProfiles 1 twoProfiles = some before ∧
        before.map ClientProfile.faceId = [7, 8] ∧
        yieldedProfiles 1 s' = some (before.map fun p =>
          if p.faceId = 8 then { p with name := front } else p)) ∧
      updateFaceProfile 1 9 ['Z', 'o', 'ë'] twoProfiles =
        some (ktAppErrorGeneric, twoProfiles) :=
  ⟨(updateFaceProfile_yields 1 twoProfiles (by decide) 8 _ (by decide)).1
      (by decide),
    (updateFaceProfile_yields 1 twoProfiles (by decide) 9 _ (by decide)).2
      (by decide)⟩

end Listed

end KtApp
end GardHub
