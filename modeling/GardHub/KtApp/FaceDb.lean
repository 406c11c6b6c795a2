import GardHub.KtApp.Commands

/-!
# Face database

The face profiles are kept in memory and written to a file, one line a profile:
identifier, colon, name.  The file is read back with a scan that takes a name
up to the end of its line.
-/

namespace GardHub
namespace KtApp

open Foundation

/-- The profiles in memory: `face_profiles` and `face_profile_count`. -/
structure FaceDb where
  profiles : List KtAppFaceProfile
  count_le : profiles.length ≤ ktAppMaxFaceProfilesOnDisk
deriving DecidableEq

/-!
## Reading
-/

/-- The bytes at which `strcspn(face_name, "\r\n")` ends a name. -/
def isLineBreak (c : UInt8) : Bool :=
  c == 13 || c == 10

/-- One pass of the loop of `kt_app_face_db_init`: a profile scanned with
`%u:%255[^\n]`, with its name ended at a line break. -/
def scanFaceProfile (input : List UInt8) :
    Option (KtAppFaceProfile × List UInt8) :=
  (scanUnsigned input).bind fun number =>
    (scanLiteral 58 number.2).bind fun text =>
      (scanUntil (fun c => c == 10) 255 text).map fun name =>
        ({ faceId := number.1
           faceName := FaceName.ofBytes
            ((cString name.1).takeWhile fun c => !isLineBreak c) }, name.2)

/-- The loop of `kt_app_face_db_init`, with room for a number of profiles. -/
def scanFaceProfiles : Nat -> List UInt8 -> List KtAppFaceProfile
  | 0, _ => []
  | room + 1, input =>
      match scanFaceProfile input with
      | none => []
      | some (profile, rest) => profile :: scanFaceProfiles room rest

theorem scanFaceProfiles_length (room : Nat) (input : List UInt8) :
    (scanFaceProfiles room input).length ≤ room := by
  induction room generalizing input with
  | zero =>
      exact le_refl 0
  | succ room ih =>
      rw [scanFaceProfiles]
      cases scanFaceProfile input with
      | none =>
          exact Nat.zero_le _
      | some scanned =>
          exact Nat.succ_le_succ (ih scanned.2)

/-- `kt_app_face_db_init`: the profiles in the file. -/
def ktAppFaceDbInit (file : List UInt8) : FaceDb where
  profiles := scanFaceProfiles ktAppMaxFaceProfilesOnDisk file
  count_le := scanFaceProfiles_length _ file

/-!
## Writing
-/

/-- The line of a profile. -/
def profileLine (profile : KtAppFaceProfile) : List UInt8 :=
  printUnsigned profile.faceId.toNat ++ 58 :: (profile.faceName.bytes ++ [10])

/-- `kt_app_face_db_flush_to_disk`: the file behind it. -/
def ktAppFaceDbFlushToDisk (db : FaceDb) : List UInt8 :=
  db.profiles.flatMap profileLine

/-!
## Changing
-/

/-- Rename the first profile with an identifier; `none` if there is none. -/
def renameProfile (faceId : UInt32) (faceName : FaceName) :
    List KtAppFaceProfile -> Option (List KtAppFaceProfile)
  | [] => none
  | profile :: rest =>
      if profile.faceId = faceId then
        some ({ profile with faceName := faceName } :: rest)
      else
        (renameProfile faceId faceName rest).map (profile :: ·)

theorem renameProfile_length {faceId : UInt32} {faceName : FaceName}
    {profiles renamed : List KtAppFaceProfile}
    (h : renameProfile faceId faceName profiles = some renamed) :
    renamed.length = profiles.length := by
  induction profiles generalizing renamed with
  | nil =>
      cases h
  | cons profile rest ih =>
      rw [renameProfile] at h
      by_cases hid : profile.faceId = faceId
      · rw [if_pos hid] at h
        cases h
        rfl
      · rw [if_neg hid] at h
        rcases Option.map_eq_some_iff.mp h with ⟨tail, htail, rfl⟩
        rw [List.length_cons, List.length_cons, ih htail]

/-- `kt_app_face_db_update_face_profile` -/
def ktAppFaceDbUpdateFaceProfile (db : FaceDb) (faceId : UInt32)
    (faceName : FaceName) : Bool × FaceDb :=
  match hrename : renameProfile faceId faceName db.profiles with
  | none => (false, db)
  | some profiles =>
      (true,
        { profiles := profiles
          count_le := by
            rw [renameProfile_length hrename]
            exact db.count_le })

/-- `kt_app_face_db_add_face_profile`.  A full database refuses even a profile
that it has. -/
def ktAppFaceDbAddFaceProfile (db : FaceDb) (faceId : UInt32)
    (faceName : FaceName) : Bool × FaceDb :=
  if hroom : db.profiles.length < ktAppMaxFaceProfilesOnDisk then
    match ktAppFaceDbUpdateFaceProfile db faceId faceName with
    | (true, db') => (true, db')
    | (false, _) =>
        (true,
          { profiles := db.profiles ++ [{ faceId := faceId, faceName := faceName }]
            count_le := by
              rw [List.length_append]
              exact hroom })
  else (false, db)

/-!
## Lines that are read back
-/

/-- A name that does not end its line early and leaves something to scan. -/
def FaceName.StaysOnLine (name : FaceName) : Prop :=
  name.bytes ≠ [] ∧ forall c, c ∈ name.bytes -> isLineBreak c = false

instance (name : FaceName) : Decidable name.StaysOnLine :=
  inferInstanceAs (Decidable (_ ∧ _))

theorem cString_eq_self {bytes : List UInt8} (h : 0 ∉ bytes) :
    cString bytes = bytes := by
  apply List.takeWhile_eq_self_iff.mpr
  intro c hc
  have hne : c ≠ 0 := by
    rintro rfl
    exact h hc
  simpa using hne

theorem FaceName.ofBytes_bytes (name : FaceName) :
    FaceName.ofBytes name.bytes = name := by
  apply FaceName.ext
  have hle : name.bytes.length ≤ pathMax - 1 := Nat.le_pred_of_lt name.length_lt
  change (cString name.bytes).take (pathMax - 1) = name.bytes
  rw [cString_eq_self name.no_nul, List.take_of_length_le hle]

theorem scanFaceProfile_no_lineBreak {input rest : List UInt8}
    {profile : KtAppFaceProfile}
    (h : scanFaceProfile input = some (profile, rest)) :
    forall c, c ∈ profile.faceName.bytes -> isLineBreak c = false := by
  simp only [scanFaceProfile, Option.bind_eq_some_iff, Option.map_eq_some_iff,
    Prod.mk.injEq] at h
  rcases h with ⟨number, -, text, -, name, -, rfl, -⟩
  intro c hc
  have hname : c ∈ (cString name.1).takeWhile fun c => !isLineBreak c :=
    List.takeWhile_subset _ (List.mem_of_mem_take hc)
  have hgoes := List.mem_takeWhile_imp hname
  simpa using hgoes

/-- Behind white space the line of a profile is scanned up to its end. -/
theorem scanFaceProfile_profileLine {spaces : List UInt8}
    (hspaces : forall c, c ∈ spaces -> isSpace c = true)
    {profile : KtAppFaceProfile} (h : profile.faceName.StaysOnLine)
    (rest : List UInt8) :
    scanFaceProfile (spaces ++ (profileLine profile ++ rest)) =
      some (profile, 10 :: rest) := by
  have hline : profileLine profile ++ rest =
      printUnsigned profile.faceId.toNat ++
        58 :: (profile.faceName.bytes ++ 10 :: rest) := by
    simp [profileLine]
  have hwidth : profile.faceName.bytes.length ≤ 255 :=
    Nat.le_pred_of_lt profile.faceName.length_lt
  have hgoes : forall c, c ∈ profile.faceName.bytes -> (c == 10) = false := by
    intro c hc
    exact (Bool.or_eq_false_iff.mp (h.2 c hc)).2
  have hcut : (cString profile.faceName.bytes).takeWhile
      (fun c => !isLineBreak c) = profile.faceName.bytes := by
    rw [cString_eq_self profile.faceName.no_nul]
    apply List.takeWhile_eq_self_iff.mpr
    intro c hc
    simp [h.2 c hc]
  rw [hline, scanFaceProfile,
    scanUnsigned_printUnsigned hspaces profile.faceId (by decide)]
  simp only [Option.bind_some, scanLiteral, if_true,
    scanUntil_append h.1 hwidth hgoes (beq_self_eq_true 10), Option.map_some,
    hcut, FaceName.ofBytes_bytes]

theorem scanFaceProfile_no_name {spaces : List UInt8}
    (hspaces : forall c, c ∈ spaces -> isSpace c = true)
    {profile : KtAppFaceProfile} (h : profile.faceName.bytes = [])
    (rest : List UInt8) :
    scanFaceProfile (spaces ++ (profileLine profile ++ rest)) = none := by
  have hline : profileLine profile ++ rest =
      printUnsigned profile.faceId.toNat ++ 58 :: (10 :: rest) := by
    simp [profileLine, h]
  rw [hline, scanFaceProfile,
    scanUnsigned_printUnsigned hspaces profile.faceId (by decide)]
  have hstop : scanUntil (fun c => c == 10) 255 (10 :: rest) = none :=
    @scanUntil_stop (fun c => c == 10) 255 10 rfl rest
  simp only [Option.bind_some, scanLiteral, if_true, hstop, Option.map_none]

/-- Lines in front are read, and what follows is read behind white space. -/
theorem scanFaceProfiles_lines (profiles : List KtAppFaceProfile)
    (h : forall profile, profile ∈ profiles -> profile.faceName.StaysOnLine)
    {spaces : List UInt8} (hspaces : forall c, c ∈ spaces -> isSpace c = true)
    {room : Nat} (hroom : profiles.length ≤ room) (rest : List UInt8) :
    exists spaces', (forall c, c ∈ spaces' -> isSpace c = true) ∧
      scanFaceProfiles room (spaces ++ (profiles.flatMap profileLine ++ rest)) =
        profiles ++
          scanFaceProfiles (room - profiles.length) (spaces' ++ rest) := by
  induction profiles generalizing spaces room with
  | nil =>
      exact ⟨spaces, hspaces, by simp⟩
  | cons profile later ih =>
      cases room with
      | zero =>
          cases hroom
      | succ room =>
          have hscan := scanFaceProfile_profileLine hspaces
            (h profile List.mem_cons_self)
            (later.flatMap profileLine ++ rest)
          have hbreak : forall c, c ∈ [(10 : UInt8)] -> isSpace c = true := by
            intro c hc
            rw [List.mem_singleton.mp hc]
            rfl
          rcases ih (fun p hp => h p (List.mem_cons_of_mem _ hp)) hbreak
            (Nat.le_of_succ_le_succ hroom) with ⟨spaces', hspaces', hread⟩
          refine ⟨spaces', hspaces', ?_⟩
          rw [List.flatMap_cons, List.append_assoc, scanFaceProfiles, hscan]
          simp only [List.length_cons, Nat.add_sub_add_right, List.cons_append]
          exact congrArg (profile :: ·) hread

theorem scanFaceProfiles_spaces {spaces : List UInt8}
    (hspaces : forall c, c ∈ spaces -> isSpace c = true) (room : Nat) :
    scanFaceProfiles room spaces = [] := by
  cases room with
  | zero =>
      rfl
  | succ room =>
      rw [scanFaceProfiles, scanFaceProfile, scanUnsigned_spaces hspaces]
      rfl

theorem scanFaceProfiles_no_lineBreak {room : Nat} {input : List UInt8}
    {profile : KtAppFaceProfile} (h : profile ∈ scanFaceProfiles room input) :
    forall c, c ∈ profile.faceName.bytes -> isLineBreak c = false := by
  induction room generalizing input with
  | zero =>
      cases h
  | succ room ih =>
      rw [scanFaceProfiles] at h
      cases hscan : scanFaceProfile input with
      | none =>
          rw [hscan] at h
          cases h
      | some scanned =>
          rw [hscan] at h
          rcases List.mem_cons.mp h with rfl | hlater
          · exact scanFaceProfile_no_lineBreak hscan
          · exact ih hlater

theorem scanFaceProfiles_no_name {front back : List KtAppFaceProfile}
    {profile : KtAppFaceProfile}
    (hfront : forall p, p ∈ front -> p.faceName.StaysOnLine)
    (hprofile : profile.faceName.bytes = []) {room : Nat}
    (hroom : front.length ≤ room) :
    scanFaceProfiles room ((front ++ profile :: back).flatMap profileLine) =
      front := by
  have hnone : forall c, c ∈ ([] : List UInt8) -> isSpace c = true := by
    intro c hc
    cases hc
  rcases scanFaceProfiles_lines front hfront hnone hroom
    (profileLine profile ++ back.flatMap profileLine)
    with ⟨spaces, hspaces, hlines⟩
  have hstop : scanFaceProfiles (room - front.length)
      (spaces ++ (profileLine profile ++ back.flatMap profileLine)) = [] := by
    cases room - front.length with
    | zero =>
        rfl
    | succ room =>
        rw [scanFaceProfiles, scanFaceProfile_no_name hspaces hprofile]
  rw [List.nil_append, hstop, List.append_nil] at hlines
  rw [List.flatMap_append, List.flatMap_cons, hlines]

/-!
## The round trip
-/

/-- Reading a database behind writing it gives the same profiles exactly when
every name stays on its line. -/
theorem ktAppFaceDbInit_flush_iff (db : FaceDb) :
    ktAppFaceDbInit (ktAppFaceDbFlushToDisk db) = db <->
      forall profile, profile ∈ db.profiles ->
        profile.faceName.StaysOnLine := by
  constructor
  · intro h profile hprofile
    have hread : scanFaceProfiles ktAppMaxFaceProfilesOnDisk
        (db.profiles.flatMap profileLine) = db.profiles :=
      congrArg FaceDb.profiles h
    have hbreak : forall p, p ∈ db.profiles ->
        forall c, c ∈ p.faceName.bytes -> isLineBreak c = false := by
      intro p hp
      rw [← hread] at hp
      exact scanFaceProfiles_no_lineBreak hp
    refine ⟨?_, hbreak profile hprofile⟩
    intro hempty
    -- The first profile without a name, and the profiles in front of it.
    have hfound : (db.profiles.find? fun p =>
        p.faceName.bytes = []).isSome = true := by
      rw [List.find?_isSome]
      exact ⟨profile, hprofile, decide_eq_true hempty⟩
    rcases Option.isSome_iff_exists.mp hfound with ⟨first, hfirst⟩
    rcases List.find?_eq_some_iff_append.mp hfirst
      with ⟨hname, front, back, hsplit, hfront⟩
    have hgood : forall p, p ∈ front -> p.faceName.StaysOnLine := by
      intro p hp
      refine ⟨by simpa using hfront p hp, hbreak p ?_⟩
      rw [hsplit]
      exact List.mem_append_left _ hp
    have hcount := db.count_le
    rw [hsplit, List.length_append] at hcount
    rw [hsplit, scanFaceProfiles_no_name hgood (of_decide_eq_true hname)
      (by lia)] at hread
    have hlength := congrArg List.length hread
    rw [List.length_append, List.length_cons] at hlength
    lia
  · intro h
    have hnone : forall c, c ∈ ([] : List UInt8) -> isSpace c = true := by
      intro c hc
      cases hc
    rcases scanFaceProfiles_lines db.profiles h hnone db.count_le []
      with ⟨spaces, hspaces, hread⟩
    rw [List.append_nil, List.nil_append, List.append_nil,
      scanFaceProfiles_spaces hspaces, List.append_nil] at hread
    cases db
    exact FaceDb.mk.injEq _ _ _ _ ▸ hread

/-!
## Databases that are reached
-/

/-- What changes the database: the profile of a generated face, and an update
request with the name as it was received. -/
inductive FaceDbAction where
  | add (faceId : UInt32) (faceName : FaceName)
  | update (faceId : UInt32) (received : List UInt8)

/-- The database behind a change. -/
def FaceDb.change (db : FaceDb) : FaceDbAction -> FaceDb
  | .add faceId faceName => (ktAppFaceDbAddFaceProfile db faceId faceName).2
  | .update faceId received =>
      (ktAppFaceDbUpdateFaceProfile db faceId
        (FaceName.ofBytes (terminateFaceName received))).2

/-- The database that changes lead to from the one in a file. -/
def reachedFaceDb (file : List UInt8) (actions : List FaceDbAction) : FaceDb :=
  actions.foldl FaceDb.change (ktAppFaceDbInit file)

/-- The name that a change gives. -/
def FaceDbAction.faceName : FaceDbAction -> FaceName
  | .add _ faceName => faceName
  | .update _ received => FaceName.ofBytes (terminateFaceName received)

theorem mem_renameProfile {faceId : UInt32} {faceName : FaceName}
    {profiles renamed : List KtAppFaceProfile}
    (h : renameProfile faceId faceName profiles = some renamed)
    {profile : KtAppFaceProfile} (hprofile : profile ∈ renamed) :
    profile.faceName = faceName ∨ profile ∈ profiles := by
  induction profiles generalizing renamed with
  | nil =>
      cases h
  | cons first rest ih =>
      rw [renameProfile] at h
      by_cases hid : first.faceId = faceId
      · rw [if_pos hid] at h
        cases h
        rcases List.mem_cons.mp hprofile with rfl | hmem
        · exact Or.inl rfl
        · exact Or.inr (List.mem_cons_of_mem _ hmem)
      · rw [if_neg hid] at h
        rcases Option.map_eq_some_iff.mp h with ⟨tail, htail, rfl⟩
        rcases List.mem_cons.mp hprofile with rfl | hmem
        · exact Or.inr List.mem_cons_self
        · exact (ih htail hmem).imp_right (List.mem_cons_of_mem _)

theorem mem_ktAppFaceDbUpdateFaceProfile {db : FaceDb} {faceId : UInt32}
    {faceName : FaceName} {profile : KtAppFaceProfile}
    (h : profile ∈ (ktAppFaceDbUpdateFaceProfile db faceId
      faceName).2.profiles) :
    profile.faceName = faceName ∨ profile ∈ db.profiles := by
  unfold ktAppFaceDbUpdateFaceProfile at h
  split at h
  · exact Or.inr h
  · rename_i hrename
    exact mem_renameProfile hrename h

theorem mem_ktAppFaceDbAddFaceProfile {db : FaceDb} {faceId : UInt32}
    {faceName : FaceName} {profile : KtAppFaceProfile}
    (h : profile ∈ (ktAppFaceDbAddFaceProfile db faceId faceName).2.profiles) :
    profile.faceName = faceName ∨ profile ∈ db.profiles := by
  unfold ktAppFaceDbAddFaceProfile at h
  split at h
  · split at h
    · rename_i hupdate
      apply mem_ktAppFaceDbUpdateFaceProfile
      rw [hupdate]
      exact h
    · rcases List.mem_append.mp h with hmem | hmem
      · exact Or.inr hmem
      · rw [List.mem_singleton.mp hmem]
        exact Or.inl rfl
  · exact Or.inr h

theorem FaceDb.mem_change {db : FaceDb} {action : FaceDbAction}
    {profile : KtAppFaceProfile}
    (h : profile ∈ (db.change action).profiles) :
    profile.faceName = action.faceName ∨ profile ∈ db.profiles := by
  cases action with
  | add faceId faceName =>
      exact mem_ktAppFaceDbAddFaceProfile h
  | update faceId received =>
      exact mem_ktAppFaceDbUpdateFaceProfile h

theorem foldl_change_staysOnLine (actions : List FaceDbAction)
    (hactions : forall action, action ∈ actions ->
      action.faceName.StaysOnLine) (db : FaceDb)
    (hdb : forall profile, profile ∈ db.profiles ->
      profile.faceName.StaysOnLine) :
    forall profile, profile ∈ (actions.foldl FaceDb.change db).profiles ->
      profile.faceName.StaysOnLine := by
  apply List.foldlRecOn (motive := fun db : FaceDb => forall profile,
    profile ∈ db.profiles -> profile.faceName.StaysOnLine) actions FaceDb.change hdb
  intro db hdb action haction profile hprofile
  rcases FaceDb.mem_change hprofile with hname | hmem
  · rw [hname]
    exact hactions action haction
  · exact hdb profile hmem

/-- Names that stay on their lines are all that is needed, in the file at first
and in every change. -/
theorem reachedFaceDb_roundTrip_of_names {file : List UInt8}
    {actions : List FaceDbAction}
    (hfile : forall profile, profile ∈ (ktAppFaceDbInit file).profiles ->
      profile.faceName.StaysOnLine)
    (hactions : forall action, action ∈ actions ->
      action.faceName.StaysOnLine) :
    ktAppFaceDbInit (ktAppFaceDbFlushToDisk (reachedFaceDb file actions)) =
      reachedFaceDb file actions :=
  (ktAppFaceDbInit_flush_iff _).mpr
    (foldl_change_staysOnLine actions hactions _ hfile)

/-- A database that was reached is read back as it was written exactly when all
its names stay on their lines. -/
theorem reachedFaceDb_roundTrip_iff (file : List UInt8)
    (actions : List FaceDbAction) :
    ktAppFaceDbInit (ktAppFaceDbFlushToDisk (reachedFaceDb file actions)) =
        reachedFaceDb file actions <->
      forall profile, profile ∈ (reachedFaceDb file actions).profiles ->
        profile.faceName.StaysOnLine :=
  ktAppFaceDbInit_flush_iff _

/-- One profile is renamed to nothing, and both are lost. -/
theorem reachedFaceDb_loses_profiles :
    ktAppFaceDbInit (ktAppFaceDbFlushToDisk (reachedFaceDb []
        [.add 7 defaultFaceName, .add 8 defaultFaceName,
          .update 7 (List.replicate 255 0)])) ≠
      reachedFaceDb []
        [.add 7 defaultFaceName, .add 8 defaultFaceName,
          .update 7 (List.replicate 255 0)] := by
  decide +kernel

end KtApp
end GardHub
