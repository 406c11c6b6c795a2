import GardHub.KtApp.FaceDb

/-!
# Sessions with the face database

The application is started, changes its database, writes it to the file, and is
started again.  A flush writes over the file from the front and cuts it to its
new length at last, so a process that dies in the middle of a flush leaves the
front of the new file and the back of the old one.  What is read at the next
start begins with the profiles whose lines were out.
-/

namespace GardHub
namespace KtApp

open Foundation

/-!
## Sessions
-/

/-- What the threads of the application do with the database: the callback for a
generated face, the command that renames one, and the flush of the shutdown. -/
inductive FaceDbCommand where
  | generateFaceIdDone (faceId : UInt32)
  | updateFaceProfile (faceId : UInt32) (received : List UInt8)
  | flush

/-- Whether the command goes on to flush, and the database in memory. -/
def FaceDbCommand.run (db : FaceDb) : FaceDbCommand -> Bool × FaceDb
  | .generateFaceIdDone faceId =>
      (false, (ktAppFaceDbAddFaceProfile db faceId defaultFaceName).2)
  | .updateFaceProfile faceId received =>
      ktAppFaceDbUpdateFaceProfile db faceId
        (FaceName.ofBytes (terminateFaceName received))
  | .flush => (true, db)

/-- A running application: whether `face_db_file` is open, and the profiles. -/
structure FaceDbSession where
  opened : Bool
  db : FaceDb

/-- The file, and the application if it is running. -/
structure FaceDbWorld where
  file : List UInt8
  session : Option FaceDbSession

/-- What happens: the application is started, with a file that it can open or
not; it carries out a command, and may die when it has written some bytes of the
flush; or it is killed. -/
inductive SessionAction where
  | start (opens : Bool)
  | perform (command : FaceDbCommand) (cut : Option Nat)
  | kill

/-- The file behind a flush that is cut after a number of bytes, or completed. -/
def flushedFile (db : FaceDb) (cut : Option Nat) (file : List UInt8) :
    List UInt8 :=
  match cut with
  | none => ktAppFaceDbFlushToDisk db
  | some written =>
      (ktAppFaceDbFlushToDisk db).take written ++
        file.drop (min written (ktAppFaceDbFlushToDisk db).length)

/-- `kt_app_face_db_init` with a file that cannot be opened. -/
def emptyFaceDb : FaceDb where
  profiles := []
  count_le := Nat.zero_le _

def FaceDbWorld.step (world : FaceDbWorld) : SessionAction -> FaceDbWorld
  | .start opens =>
      match world.session with
      | some _ => world
      | none =>
          let db := if opens then ktAppFaceDbInit world.file else emptyFaceDb
          { world with session := some { opened := opens, db := db } }
  | .perform command cut =>
      match world.session with
      | none => world
      | some session =>
          let result := command.run session.db
          { file :=
              if result.1 && session.opened then
                flushedFile result.2 cut world.file
              else world.file
            session :=
              if cut.isSome then none
              else some { session with db := result.2 } }
  | .kill => { world with session := none }

/-!
## What is kept
-/

/-- The profiles that are safe in the file, and whether they are all that is in
it. -/
structure Kept where
  profiles : List KtAppFaceProfile
  whole : Bool

/-- The profiles whose lines are among the first bytes of a file. -/
def linesWithin : Nat -> List KtAppFaceProfile -> List KtAppFaceProfile
  | _, [] => []
  | written, profile :: rest =>
      if (profileLine profile).length ≤ written then
        profile :: linesWithin (written - (profileLine profile).length) rest
      else []

/-- What a flush keeps: the profiles in front of the first one whose name does
not stay on its line, as far as they were written. -/
def keptBehind (db : FaceDb) : Option Nat -> Kept
  | none =>
      { profiles := db.profiles.takeWhile fun profile =>
          decide profile.faceName.StaysOnLine
        whole := db.profiles.all fun profile =>
          decide profile.faceName.StaysOnLine }
  | some written =>
      { profiles := (linesWithin written db.profiles).takeWhile fun profile =>
          decide profile.faceName.StaysOnLine
        whole := false }

def Kept.step (kept : Kept) (world : FaceDbWorld) : SessionAction -> Kept
  | .start opens =>
      match world.session with
      | some _ => kept
      | none =>
          if opens then
            { profiles := (ktAppFaceDbInit world.file).profiles, whole := true }
          else kept
  | .perform command cut =>
      match world.session with
      | none => kept
      | some session =>
          let result := command.run session.db
          if result.1 && session.opened then keptBehind result.2 cut else kept
  | .kill => kept

/-- The file, the application and what is kept, behind one more action. -/
def sessionStep (state : FaceDbWorld × Kept) (action : SessionAction) :
    FaceDbWorld × Kept :=
  (state.1.step action, state.2.step state.1 action)

/-- Before the first start there is a file, with whatever can be read from it. -/
def sessionStart (file : List UInt8) : FaceDbWorld × Kept :=
  ({ file := file, session := none },
    { profiles := (ktAppFaceDbInit file).profiles, whole := true })

/-!
## Reading it back
-/

/-- The profiles that are kept are the first ones that the file gives. -/
def Restores (file : List UInt8) (kept : Kept) : Prop :=
  kept.profiles <+: (ktAppFaceDbInit file).profiles ∧
    (kept.whole = true -> (ktAppFaceDbInit file).profiles = kept.profiles)

theorem linesWithin_front (written : Nat) (profiles : List KtAppFaceProfile) :
    linesWithin written profiles <+: profiles := by
  induction profiles generalizing written with
  | nil =>
      exact List.prefix_rfl
  | cons profile rest ih =>
      rw [linesWithin]
      by_cases hfits : (profileLine profile).length ≤ written
      · rw [if_pos hfits]
        exact (List.prefix_cons_inj profile).mpr (ih _)
      · rw [if_neg hfits]
        exact List.nil_prefix

/-- The first bytes of the lines are the lines that are out, and a part of the
next one. -/
theorem take_flatMap_profileLine (written : Nat)
    (profiles : List KtAppFaceProfile) :
    exists part, (profiles.flatMap profileLine).take written =
      (linesWithin written profiles).flatMap profileLine ++ part := by
  induction profiles generalizing written with
  | nil =>
      exact ⟨[], by simp [linesWithin]⟩
  | cons profile rest ih =>
      rw [linesWithin]
      by_cases hfits : (profileLine profile).length ≤ written
      · rcases ih (written - (profileLine profile).length) with ⟨part, hpart⟩
        refine ⟨part, ?_⟩
        rw [if_pos hfits, List.flatMap_cons, List.flatMap_cons,
          List.take_append, List.take_of_length_le hfits, hpart,
          List.append_assoc]
      · rw [if_neg hfits]
        exact ⟨_, rfl⟩

/-- A file that begins with lines gives their profiles first. -/
theorem ktAppFaceDbInit_lines {profiles : List KtAppFaceProfile}
    (h : forall profile, profile ∈ profiles -> profile.faceName.StaysOnLine)
    (hcount : profiles.length ≤ ktAppMaxFaceProfilesOnDisk)
    (behind : List UInt8) :
    profiles <+:
      (ktAppFaceDbInit (profiles.flatMap profileLine ++ behind)).profiles := by
  have hnone : forall c, c ∈ ([] : List UInt8) -> isSpace c = true := by
    intro c hc
    cases hc
  rcases scanFaceProfiles_lines profiles h hnone hcount behind
    with ⟨spaces, -, hread⟩
  rw [List.nil_append] at hread
  exact ⟨_, hread.symm⟩

theorem staysOnLine_of_mem_takeWhile {profiles : List KtAppFaceProfile}
    {profile : KtAppFaceProfile}
    (h : profile ∈ profiles.takeWhile fun profile =>
      decide profile.faceName.StaysOnLine) :
    profile.faceName.StaysOnLine :=
  of_decide_eq_true (List.all_eq_true.mp List.all_takeWhile profile h)

/-- Lines that are out are read back up to the first name that does not stay on
its line, whatever follows them. -/
theorem ktAppFaceDbInit_takeWhile {db : FaceDb}
    {profiles : List KtAppFaceProfile} (h : profiles <+: db.profiles)
    (behind : List UInt8) :
    (profiles.takeWhile fun profile =>
        decide profile.faceName.StaysOnLine) <+:
      (ktAppFaceDbInit (profiles.flatMap profileLine ++ behind)).profiles := by
  have hsplit : profiles.flatMap profileLine ++ behind =
      (profiles.takeWhile fun profile =>
        decide profile.faceName.StaysOnLine).flatMap profileLine ++
        ((profiles.dropWhile fun profile =>
          decide profile.faceName.StaysOnLine).flatMap profileLine ++
            behind) := by
    rw [← List.append_assoc, ← List.flatMap_append, List.takeWhile_append_dropWhile]
  rw [hsplit]
  apply ktAppFaceDbInit_lines
  · intro profile hprofile
    exact staysOnLine_of_mem_takeWhile hprofile
  · exact ((List.takeWhile_prefix _).trans h).length_le.trans db.count_le

/-- A flush keeps what it is said to keep, wherever it is cut. -/
theorem flushedFile_restores (db : FaceDb) (cut : Option Nat)
    (file : List UInt8) :
    Restores (flushedFile db cut file) (keptBehind db cut) := by
  cases cut with
  | none =>
      have hfront := ktAppFaceDbInit_takeWhile (List.prefix_refl db.profiles) []
      rw [List.append_nil] at hfront
      refine ⟨hfront, ?_⟩
      intro hwhole
      have hnames : forall profile, profile ∈ db.profiles ->
          profile.faceName.StaysOnLine := by
        simpa [keptBehind] using hwhole
      have hread : ktAppFaceDbInit (ktAppFaceDbFlushToDisk db) = db :=
        (ktAppFaceDbInit_flush_iff db).mpr hnames
      have hall : (db.profiles.takeWhile fun profile =>
          decide profile.faceName.StaysOnLine) = db.profiles :=
        List.takeWhile_eq_self_iff.mpr fun profile hprofile =>
          decide_eq_true (hnames profile hprofile)
      exact (congrArg FaceDb.profiles hread).trans hall.symm
  | some written =>
      rcases take_flatMap_profileLine written db.profiles with ⟨part, hpart⟩
      have hfront := ktAppFaceDbInit_takeWhile
        (linesWithin_front written db.profiles)
        (part ++ file.drop (min written (ktAppFaceDbFlushToDisk db).length))
      rw [← List.append_assoc, ← hpart] at hfront
      exact ⟨hfront, fun hwhole => absurd hwhole Bool.false_ne_true⟩

theorem Restores.step {state : FaceDbWorld × Kept}
    (h : Restores state.1.file state.2) (action : SessionAction) :
    Restores (sessionStep state action).1.file (sessionStep state action).2 := by
  rcases state with ⟨⟨file, session⟩, kept⟩
  cases action with
  | start opens =>
      cases session with
      | some session =>
          exact h
      | none =>
          cases opens with
          | true =>
              exact ⟨List.prefix_rfl, fun _ => rfl⟩
          | false =>
              exact h
  | perform command cut =>
      cases session with
      | none =>
          exact h
      | some session =>
          simp only [sessionStep, FaceDbWorld.step, Kept.step]
          cases hflush : (command.run session.db).1 && session.opened with
          | true =>
              exact flushedFile_restores _ cut file
          | false =>
              exact h
  | kill =>
      exact h

/-- However often the application is started, killed, and cut off in the middle
of a flush, the next start finds the profiles that are kept, in their order and
in front of all others; and it finds nothing else, unless the last flush was cut
off or had a name that does not stay on its line. -/
theorem faceDbSessions_restore (file : List UInt8)
    (actions : List SessionAction) :
    Restores (actions.foldl sessionStep (sessionStart file)).1.file
      (actions.foldl sessionStep (sessionStart file)).2 := by
  apply List.foldlRecOn (motive := fun state : FaceDbWorld × Kept =>
    Restores state.1.file state.2) actions sessionStep
  · exact ⟨List.prefix_rfl, fun _ => rfl⟩
  · intro state hstate action _
    exact hstate.step action

end KtApp
end GardHub
