import GardHub.Foundation.OrderedMap
import GardHub.Foundation.Runs
import GardHub.KtApp.ProfileUpdate

/-!
# The face database as a map

Adding and updating profiles is giving names to identifiers in a finite map that
keeps its order and has room for a number of entries, except where the database
is full.
-/

namespace GardHub
namespace KtApp

open Foundation

/-- `kt_app_face_db_add_face_profile`, which looks for room before it looks for
the profile. -/
def ProfileArrays.addFaceProfile (db : ProfileArrays) (faceId : UInt32)
    (faceName : NameArray) : Bool × ProfileArrays :=
  if hroom : db.profiles.length < ktAppMaxFaceProfilesOnDisk then
    match db.updateFaceProfile faceId faceName with
    | (true, db') => (true, db')
    | (false, _) =>
        (true,
          { profiles := db.profiles ++ [{ faceId := faceId, faceName := faceName }]
            count_le := by
              rw [List.length_append]
              exact hroom })
  else (false, db)

/-- Adding to the arrays is adding to the database that they hold. -/
theorem ProfileArrays.addFaceProfile_faceDb (db : ProfileArrays)
    (faceId : UInt32) (faceName : NameArray) :
    ((db.addFaceProfile faceId faceName).1,
        (db.addFaceProfile faceId faceName).2.faceDb) =
      ktAppFaceDbAddFaceProfile db.faceDb faceId
        (FaceName.ofBytes faceName.bytes) := by
  have hlength : db.faceDb.profiles.length = db.profiles.length :=
    List.length_map _
  have hupdate := db.updateFaceProfile_faceDb faceId faceName
  by_cases hroom : db.profiles.length < ktAppMaxFaceProfilesOnDisk
  · rw [ProfileArrays.addFaceProfile, dif_pos hroom, ktAppFaceDbAddFaceProfile,
      dif_pos (hlength ▸ hroom), ← hupdate]
    cases db.updateFaceProfile faceId faceName with
    | mk returned db' =>
        cases returned with
        | true =>
            rfl
        | false =>
            refine Prod.ext rfl (FaceDb.ext ?_)
            exact List.map_append
  · rw [ProfileArrays.addFaceProfile, dif_neg hroom, ktAppFaceDbAddFaceProfile,
      dif_neg (hlength ▸ hroom)]

inductive FaceDbCall where
  | addFaceProfile (faceId : UInt32) (faceName : NameArray)
  | updateFaceProfile (faceId : UInt32) (faceName : NameArray)

def ProfileArrays.perform (db : ProfileArrays) :
    FaceDbCall -> Bool × ProfileArrays
  | .addFaceProfile faceId faceName => db.addFaceProfile faceId faceName
  | .updateFaceProfile faceId faceName => db.updateFaceProfile faceId faceName

def faceDbStep (db : ProfileArrays) (call : FaceDbCall) :
    Option ProfileArrays :=
  some (db.perform call).2

def ProfileArrays.faceIds (db : ProfileArrays) : List UInt32 :=
  db.profiles.map ProfileArray.faceId

/-!
## The map
-/

/-- Names by identifier. -/
abbrev ProfileMap : Type := OrderedMap UInt32 NameArray

/-- What a call is to do: an identifier that is there gets the name, a new one
is added if there is room for it, and an update of a new one is refused. -/
def ProfileMap.perform (m : ProfileMap) : FaceDbCall -> Bool × ProfileMap
  | .addFaceProfile faceId faceName =>
      if faceId ∈ m.keys ∨ m.keys.length < ktAppMaxFaceProfilesOnDisk then
        (true, m.assign faceId faceName)
      else (false, m)
  | .updateFaceProfile faceId faceName =>
      if faceId ∈ m.keys then (true, m.assign faceId faceName)
      else (false, m)

/-- The profiles are the entries of the map, in its order. -/
def ProfileArrays.Holds (db : ProfileArrays) (m : ProfileMap) : Prop :=
  OrderedMap.Represents ProfileArray.faceId ProfileArray.faceName db.profiles m

/-- A call returns what it returns for the map, and leaves the profiles of what
it leaves of the map. -/
def ActsAsMap (db : ProfileArrays) (call : FaceDbCall) : Prop :=
  forall m, db.Holds m -> (db.perform call).1 = (m.perform call).1 ∧
    (db.perform call).2.Holds (m.perform call).2

/-- A profile that is there already is not added to a full database. -/
def NotFullFor (db : ProfileArrays) : FaceDbCall -> Prop
  | .addFaceProfile faceId _ =>
      db.profiles.length < ktAppMaxFaceProfilesOnDisk ∨ faceId ∉ db.faceIds
  | .updateFaceProfile _ _ => True

instance (db : ProfileArrays) (call : FaceDbCall) :
    Decidable (NotFullFor db call) :=
  match call with
  | .addFaceProfile _ _ => inferInstanceAs (Decidable (_ ∨ _))
  | .updateFaceProfile _ _ => inferInstanceAs (Decidable True)

/-!
## Single calls
-/

section Calls

variable {db : ProfileArrays} {faceId : UInt32} {faceName : NameArray}
  {m : ProfileMap}

theorem ProfileArrays.Holds.length_keys (h : db.Holds m) :
    m.keys.length = db.profiles.length := by
  rw [← h.keys, List.length_map]

theorem ProfileArrays.Holds.faceIds (h : db.Holds m) : db.faceIds = m.keys :=
  h.keys

theorem ProfileArrays.Holds.distinct (h : db.Holds m) : db.faceIds.Nodup := by
  rw [h.faceIds]
  exact m.nodup

theorem ProfileArrays.Holds.update_of_mem (h : db.Holds m)
    (hmem : faceId ∈ m.keys) (faceName : NameArray) :
    (db.updateFaceProfile faceId faceName).1 = true ∧
      (db.updateFaceProfile faceId faceName).2.Holds
        (m.assign faceId faceName) := by
  have hfound : faceId ∈ db.profiles.map ProfileArray.faceId := by
    rw [h.keys]
    exact hmem
  rcases ProfileArrays.updateFaceProfile_of_mem h.distinct hfound faceName
    with ⟨hreturned, hprofiles⟩
  refine ⟨hreturned, ?_⟩
  rw [ProfileArrays.Holds, hprofiles]
  apply OrderedMap.Represents.replace h hmem
  · intro p
    split <;> rfl
  · intro p hp
    rw [if_pos hp]
  · intro p hp
    rw [if_neg hp]

theorem ProfileArrays.Holds.update_of_not_mem (h : db.Holds m)
    (hmem : faceId ∉ m.keys) (faceName : NameArray) :
    db.updateFaceProfile faceId faceName = (false, db) := by
  apply ProfileArrays.updateFaceProfile_of_not_mem
  rw [h.keys]
  exact hmem

theorem ProfileArrays.Holds.add_of_room (h : db.Holds m)
    (hroom : db.profiles.length < ktAppMaxFaceProfilesOnDisk) :
    (db.addFaceProfile faceId faceName).1 = true ∧
      (db.addFaceProfile faceId faceName).2.Holds
        (m.assign faceId faceName) := by
  rw [ProfileArrays.addFaceProfile, dif_pos hroom]
  by_cases hmem : faceId ∈ m.keys
  · have hupdate := h.update_of_mem hmem faceName
    cases hresult : db.updateFaceProfile faceId faceName with
    | mk returned db' =>
        rw [hresult] at hupdate
        rcases hupdate with ⟨rfl, hholds⟩
        exact ⟨rfl, hholds⟩
  · rw [h.update_of_not_mem hmem]
    exact ⟨rfl, OrderedMap.Represents.append h hmem⟩

theorem ProfileArrays.addFaceProfile_of_full
    (hfull : ¬ db.profiles.length < ktAppMaxFaceProfilesOnDisk) :
    db.addFaceProfile faceId faceName = (false, db) := by
  rw [ProfileArrays.addFaceProfile, dif_neg hfull]

theorem ProfileArrays.Holds.perform_distinct (h : db.Holds m)
    (call : FaceDbCall) : (db.perform call).2.faceIds.Nodup := by
  cases call with
  | addFaceProfile faceId faceName =>
      by_cases hroom : db.profiles.length < ktAppMaxFaceProfilesOnDisk
      · exact (h.add_of_room hroom).2.distinct
      · rw [ProfileArrays.perform, ProfileArrays.addFaceProfile_of_full hroom]
        exact h.distinct
  | updateFaceProfile faceId faceName =>
      by_cases hmem : faceId ∈ m.keys
      · exact (h.update_of_mem hmem faceName).2.distinct
      · rw [ProfileArrays.perform, h.update_of_not_mem hmem]
        exact h.distinct

theorem ProfileArrays.Holds.actsAsMap_iff (h : db.Holds m)
    (call : FaceDbCall) : ActsAsMap db call <-> NotFullFor db call := by
  have hlength := h.length_keys
  cases call with
  | addFaceProfile faceId faceName =>
      rw [NotFullFor, h.faceIds]
      constructor
      · intro hacts
        by_contra hnot
        rw [not_or, not_not] at hnot
        rcases hacts m h with ⟨hreturned, -⟩
        rw [ProfileArrays.perform, ProfileArrays.addFaceProfile_of_full hnot.1,
          ProfileMap.perform, if_pos (Or.inl hnot.2)] at hreturned
        cases hreturned
      · intro hgood m' h'
        have hsame : m' = m := OrderedMap.Represents.unique h' h
        subst hsame
        by_cases hroom : db.profiles.length < ktAppMaxFaceProfilesOnDisk
        · have hroom' : faceId ∈ m'.keys ∨
              m'.keys.length < ktAppMaxFaceProfilesOnDisk :=
            Or.inr (hlength ▸ hroom)
          rw [ProfileMap.perform, if_pos hroom']
          exact h'.add_of_room hroom
        · have hnew : faceId ∉ m'.keys := hgood.resolve_left hroom
          have hrefused : ¬ (faceId ∈ m'.keys ∨
              m'.keys.length < ktAppMaxFaceProfilesOnDisk) := by
            rw [hlength, not_or]
            exact ⟨hnew, hroom⟩
          rw [ProfileMap.perform, if_neg hrefused, ProfileArrays.perform,
            ProfileArrays.addFaceProfile_of_full hroom]
          exact ⟨rfl, h'⟩
  | updateFaceProfile faceId faceName =>
      refine iff_of_true ?_ trivial
      intro m' h'
      by_cases hmem : faceId ∈ m'.keys
      · rw [ProfileMap.perform, if_pos hmem]
        exact h'.update_of_mem hmem faceName
      · rw [ProfileMap.perform, if_neg hmem, ProfileArrays.perform,
          h'.update_of_not_mem hmem]
        exact ⟨rfl, h'⟩

end Calls

/-!
## Runs
-/

theorem exists_holds {db : ProfileArrays} (h : db.faceIds.Nodup) :
    exists m, db.Holds m :=
  OrderedMap.exists_represents h

theorem faceDbStep_distinct (db : ProfileArrays) (call : FaceDbCall)
    (db' : ProfileArrays) (h : db.faceIds.Nodup)
    (hstep : faceDbStep db call = some db') : db'.faceIds.Nodup := by
  rcases exists_holds h with ⟨m, hholds⟩
  cases hstep
  exact hholds.perform_distinct call

/-- Whatever is called, identifiers stay distinct and the profiles do not get
more than there is room for.  Every call of a run acts as on a map exactly if no
profile is added to a full database that has it. -/
theorem faceDbCalls_actAsMap_iff (db : ProfileArrays)
    (hdistinct : db.faceIds.Nodup) (calls : List FaceDbCall) :
    (forall db', db' ∈ reachedStates faceDbStep db calls ->
        db'.faceIds.Nodup ∧
          db'.profiles.length ≤ ktAppMaxFaceProfilesOnDisk) ∧
      (RunMeets faceDbStep ActsAsMap db calls <->
        RunMeets faceDbStep NotFullFor db calls) := by
  constructor
  · intro db' hdb'
    have hkept := reachedStates_invariant faceDbStep_distinct hdistinct calls
      db' hdb'
    exact ⟨hkept, db'.count_le⟩
  · apply runMeets_congr_of_invariant
      (fun db' call after hdb' _ => faceDbStep_distinct db' call after hdb')
      ?_ hdistinct
    intro db' call hdb'
    rcases exists_holds hdb' with ⟨m, hholds⟩
    exact hholds.actsAsMap_iff call

def defaultNameArray : NameArray :=
  copyFaceName defaultFaceName.bytes 0

/-- A hundred profiles. -/
def fullFaceDb : ProfileArrays where
  profiles := (List.range 100).map fun i =>
    { faceId := UInt32.ofNat i, faceName := defaultNameArray }
  count_le := by
    rw [List.length_map, List.length_range]
    exact le_rfl

theorem fullFaceDb_distinct : fullFaceDb.faceIds.Nodup := by
  decide +kernel

/-- An update of the database that is full. -/
theorem faceDbCalls_actAsMap_update :
    (forall db', db' ∈ reachedStates faceDbStep fullFaceDb
          [.updateFaceProfile 7 defaultNameArray] ->
        db'.faceIds.Nodup ∧
          db'.profiles.length ≤ ktAppMaxFaceProfilesOnDisk) ∧
      (RunMeets faceDbStep ActsAsMap fullFaceDb
          [.updateFaceProfile 7 defaultNameArray] <->
        RunMeets faceDbStep NotFullFor fullFaceDb
          [.updateFaceProfile 7 defaultNameArray]) :=
  faceDbCalls_actAsMap_iff fullFaceDb fullFaceDb_distinct _

/-- Adding a profile that the full database has is refused. -/
theorem fullFaceDb_refuses :
    ¬ RunMeets faceDbStep ActsAsMap fullFaceDb
        [.addFaceProfile 7 defaultNameArray] ∧
      (fullFaceDb.addFaceProfile 7 defaultNameArray).1 = false ∧
      7 ∈ fullFaceDb.faceIds := by
  have hmem : 7 ∈ fullFaceDb.faceIds := by
    decide +kernel
  have hfull : ¬ fullFaceDb.profiles.length < ktAppMaxFaceProfilesOnDisk := by
    decide
  refine ⟨?_, ?_, hmem⟩
  · rintro ⟨hacts, -⟩
    rcases exists_holds fullFaceDb_distinct with ⟨m, hholds⟩
    have hgood := (hholds.actsAsMap_iff _).mp hacts
    exact hgood.elim hfull fun hnew => hnew hmem
  · rw [ProfileArrays.addFaceProfile_of_full hfull]

end KtApp
end GardHub
