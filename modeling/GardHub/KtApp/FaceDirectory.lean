import GardHub.Foundation.Simulation
import GardHub.KtApp.BoxState
import GardHub.KtApp.FaceDbMap

/-!
# The register of faces

The page saves a name for a face that the camera has been shown, lists the faces,
and labels the faces that are drawn.  Between the page and the database there are
two routes, the client with a file of its own, and the server.  All of it is a
directory of names, of which the labels are taken as it was when the page last
asked for it.
-/

namespace GardHub
namespace KtApp

open Foundation
open Interface

/-!
## The routes
-/

/-- The characters that `str.strip` takes away. -/
def isPythonSpace (c : Char) : Bool :=
  let n := c.toNat
  (0x09 ≤ n && n ≤ 0x0D) || (0x1C ≤ n && n ≤ 0x20) || n = 0x85 || n = 0xA0 ||
    n = 0x1680 || (0x2000 ≤ n && n ≤ 0x200A) || n = 0x2028 || n = 0x2029 ||
    n = 0x202F || n = 0x205F || n = 0x3000

/-- `str.strip` -/
def strip (text : List Char) : List Char :=
  ((text.dropWhile isPythonSpace).reverse.dropWhile isPythonSpace).reverse

/-- The name that `update_face_id_route` saves. -/
def savedName (name : List Char) : List Char :=
  if strip name = [] then unidentified.toList else strip name

/-- What the page gets. -/
inductive PageReply where
  | badRequest
  | failed
  | saved (faceId : Int) (name : List Char)
  | profiles (profiles : List ClientProfile)
  | label (label : String)
  | nothing
deriving DecidableEq

/-- `update_face_id_route`.  An identifier that the field of the request has no
room for raises an exception. -/
def updateFaceIdRoute (behind : UInt8) (faceId : Option Int) (name : List Char)
    (s : ProfileState) : Option (PageReply × ProfileState) :=
  match faceId with
  | none => some (.badRequest, s)
  | some fid =>
      if fid = 0 then some (.badRequest, s)
      else
        (listFaceProfiles behind s).bind fun sync =>
          if sync.1 ≠ ktAppSuccess then some (.failed, sync.2)
          else if fid < 0 ∨ 2 ^ 32 ≤ fid then some (.failed, sync.2)
          else
            (updateFaceProfile behind (UInt32.ofNat fid.toNat) (savedName name)
              sync.2).map fun updated =>
                if updated.1 = ktAppSuccess then
                  (.saved fid (savedName name), updated.2)
                else (.failed, updated.2)

/-- `get_face_profiles` -/
def getFaceProfilesRoute (behind : UInt8) (s : ProfileState) :
    Option (PageReply × ProfileState) :=
  (listFaceProfiles behind s).map fun listed =>
    if listed.1 = ktAppSuccess then
      (.profiles (listed.2.jsonDb.getD []), listed.2)
    else (.failed, listed.2)

/-- `face_ids.json`, as the callback for the boxes reads it. -/
def faceIdsFile (jsonDb : Option (List ClientProfile)) : FaceIds :=
  jsonDb.map fun profiles => profiles.map fun p =>
    some ⟨some p.faceId.toNat, some (String.ofList p.name)⟩

/-- The array that is copied from the literal `"Default"`, and from what lies
behind it. -/
def defaultArray (behind : Nat -> UInt8) : NameArray where
  bytes := defaultFaceName.bytes ++
    0 :: (List.range (pathMax - 8)).map behind
  length_eq := by
    rw [List.length_append, List.length_cons, List.length_map,
      List.length_range]
    rfl

/-- What happens: the App Module reports an identifier, the page saves a name or
asks for the list, a face is drawn, or the page is started again. -/
inductive PageAction where
  | generated (behind : Nat -> UInt8) (faceId : UInt32) (opStatus : Int)
  | updateFaceId (behind : UInt8) (faceId : Option Int) (name : List Char)
  | getFaceProfiles (behind : UInt8)
  | drawFace (faceId : UInt32)
  | startPage

/-- One action after another, each request on a connection that is served to its
end. -/
def pageStep (s : ProfileState) : PageAction -> Option (PageReply × ProfileState)
  | .generated behind faceId opStatus =>
      some (.nothing,
        if opStatus = ktAppSuccess then
          { s with db := (s.db.addFaceProfile faceId (defaultArray behind)).2 }
        else s)
  | .updateFaceId behind faceId name => updateFaceIdRoute behind faceId name s
  | .getFaceProfiles behind => getFaceProfilesRoute behind s
  | .drawFace faceId =>
      some (.label (faceLabel (faceIdsFile s.jsonDb) faceId.toNat), s)
  | .startPage => some (.nothing, { s with jsonDb := none })

/-!
## The directory
-/

/-- Names by identifier. -/
abbrev NameMap : Type := OrderedMap UInt32 (List Char)

/-- The names, and what they were when the page last asked for them. -/
structure FaceDirectory where
  names : NameMap
  seen : Option NameMap

/-- The part of a name that is kept: in front of the first NUL, as many
characters as fit in 254 bytes. -/
def keptName (name : List Char) : List Char :=
  fittingFront 254 (name.takeWhile (· ≠ '\x00'))

def NameMap.profiles (names : NameMap) : List ClientProfile :=
  names.entries.map fun entry => ⟨entry.1, entry.2⟩

/-- What the page is to get. -/
def FaceDirectory.perform (d : FaceDirectory) :
    PageAction -> PageReply × FaceDirectory
  | .generated _ faceId opStatus =>
      (.nothing,
        if opStatus = ktAppSuccess ∧
            d.names.keys.length < ktAppMaxFaceProfilesOnDisk then
          { d with names := d.names.assign faceId "Default".toList }
        else d)
  | .updateFaceId _ faceId name =>
      match faceId with
      | none => (.badRequest, d)
      | some fid =>
          if fid = 0 then (.badRequest, d)
          else if 0 ≤ fid ∧ fid < 2 ^ 32 ∧
              UInt32.ofNat fid.toNat ∈ d.names.keys then
            let names := d.names.assign (UInt32.ofNat fid.toNat)
              (keptName (savedName name))
            (.saved fid (savedName name), { names := names, seen := some names })
          else (.failed, { d with seen := some d.names })
  | .getFaceProfiles _ =>
      (.profiles d.names.profiles, { d with seen := some d.names })
  | .drawFace faceId =>
      (.label (((d.seen.bind fun seen => seen.get faceId).map
        String.ofList).getD unidentified), d)
  | .startPage => (.nothing, { d with seen := none })

/-- The name in an array. -/
def NameArray.shown (a : NameArray) : List Char :=
  utf8DecodeIgnoring (cString a.bytes)

/-- The database shows the names, and the file shows what was seen of them. -/
structure Shows (s : ProfileState) (d : FaceDirectory) : Prop where
  names : OrderedMap.Represents ProfileArray.faceId
    (fun p => p.faceName.shown) s.db.profiles d.names
  seen : s.jsonDb = d.seen.map NameMap.profiles

/-!
## Names in arrays
-/

section Names

/-- A text is cut off at its first NUL, and so is its encoding. -/
theorem cString_utf8Bytes (text : List Char) :
    cString (utf8Bytes text) = utf8Bytes (text.takeWhile (· ≠ '\x00')) := by
  induction text with
  | nil =>
      rfl
  | cons c rest ih =>
      rw [utf8Bytes_cons]
      by_cases hc : c = '\x00'
      · subst hc
        have hnul : String.utf8EncodeChar '\x00' = [0] := by decide
        rw [hnul, List.takeWhile_cons_of_neg (by simp)]
        exact cString_append_zero List.not_mem_nil _
      · have hone : 0 ∉ utf8Bytes [c] :=
          zero_not_mem_utf8Bytes (by simpa using Ne.symm hc)
        have hwhole : forall b, b ∈ String.utf8EncodeChar c ->
            (b != 0) = true := by
          intro b hb
          have hne : b ≠ 0 := by
            rintro rfl
            exact hone (by simpa [utf8Bytes] using hb)
          simpa using hne
        rw [List.takeWhile_cons_of_pos (by simpa using hc), utf8Bytes_cons,
          ← ih]
        exact List.takeWhile_append_of_pos hwhole

/-- The array that a request of the client is copied to has the bytes of the name
up to its first NUL, as far as there is room. -/
theorem cString_copyFaceName_cut (behind : UInt8) (bytes : List UInt8) :
    cString (copyFaceName (clientFaceName bytes) behind).bytes =
      (cString bytes).take (ktAppMaxFaceNameLength - 1) := by
  have hfront : 0 ∉ cString bytes := by
    intro hmem
    have hne := List.mem_takeWhile_imp hmem
    simp at hne
  have hsplit : cString bytes ++ bytes.dropWhile (· != 0) = bytes :=
    List.takeWhile_append_dropWhile
  cases hback : bytes.dropWhile (· != 0) with
  | nil =>
      rw [hback, List.append_nil] at hsplit
      rw [hsplit] at hfront
      rw [cString_copyFaceName behind hfront, hsplit]
  | cons b back =>
      have hb : b = 0 := by
        have hhead := List.head?_dropWhile_not (fun x : UInt8 => x != 0) bytes
        rw [hback] at hhead
        simpa using hhead
      subst hb
      rw [hback] at hsplit
      by_cases hlong : ktAppMaxFaceNameLength - 1 ≤ (cString bytes).length
      · have hsame : clientFaceName bytes = clientFaceName (cString bytes) := by
          conv_lhs => rw [← hsplit]
          rw [clientFaceName, clientFaceName, List.take_append_of_le_length hlong]
        rw [hsame, cString_copyFaceName behind hfront]
      · have hroom : (cString bytes).length < ktAppMaxFaceNameLength - 1 :=
          Nat.lt_of_not_le hlong
        have htake : bytes.take (ktAppMaxFaceNameLength - 1) = cString bytes ++
            0 :: back.take
              (ktAppMaxFaceNameLength - 1 - (cString bytes).length - 1) := by
          conv_lhs => rw [← hsplit]
          rw [List.take_append, List.take_of_length_le hroom.le,
            List.take_cons (Nat.sub_pos_of_lt hroom)]
        rw [copyFaceName_bytes (clientFaceName_length bytes), clientFaceName,
          overwrite_zero, htake, List.append_assoc, List.append_assoc,
          List.cons_append, cString_append_zero hfront,
          List.take_of_length_le hroom.le]

/-- A name of the page is kept up to its first NUL, as far as there is room. -/
theorem shown_copyFaceName (behind : UInt8) (name : List Char) :
    (copyFaceName (clientFaceName (utf8Bytes name)) behind).shown =
      keptName name := by
  rw [NameArray.shown, cString_copyFaceName_cut, cString_utf8Bytes,
    utf8DecodeIgnoring, decodeIgnoring_take _ (le_refl _)]
  rfl

/-- Whatever lies behind the literal, its name is read up to its end. -/
theorem shown_defaultArray (behind : Nat -> UInt8) :
    (defaultArray behind).shown = "Default".toList := by
  have hname : 0 ∉ defaultFaceName.bytes := by decide
  rw [NameArray.shown, defaultArray, cString_append_zero hname]
  decide

end Names

/-!
## Single actions
-/

section Actions

variable {s : ProfileState} {d : FaceDirectory}

/-- The names shown are those of the map that the arrays hold. -/
theorem Shows.exists_holds (h : Shows s d) :
    exists m : ProfileMap, s.db.Holds m ∧ d.names = m.map NameArray.shown := by
  have hdistinct : s.db.faceIds.Nodup := by
    rw [ProfileArrays.faceIds, h.names.keys]
    exact d.names.nodup
  rcases KtApp.exists_holds hdistinct with ⟨m, hm⟩
  exact ⟨m, hm, h.names.unique (OrderedMap.Represents.map NameArray.shown hm)⟩

/-- The list that the client saves is the list of the names. -/
theorem Shows.listed (h : Shows s d) :
    s.db.profiles.map shownProfile = d.names.profiles := by
  rw [NameMap.profiles, h.names.entries, List.map_map]
  rfl

theorem Shows.listFaceProfiles (h : Shows s d) (behind : UInt8) :
    exists s', KtApp.listFaceProfiles behind s = some (ktAppSuccess, s') ∧
      s'.jsonDb = some d.names.profiles ∧
      Shows s' { d with seen := some d.names } := by
  refine ⟨_, listFaceProfiles_eq behind s, ?_, h.names, ?_⟩
  · exact congrArg some h.listed
  · exact congrArg some h.listed

theorem Shows.addFaceProfile (h : Shows s d) (faceId : UInt32)
    (behind : Nat -> UInt8) :
    Shows
      { s with db := (s.db.addFaceProfile faceId (defaultArray behind)).2 }
      (if d.names.keys.length < ktAppMaxFaceProfilesOnDisk then
        { d with names := d.names.assign faceId "Default".toList }
      else d) := by
  rcases h.exists_holds with ⟨m, hm, hnames⟩
  have hlength : d.names.keys.length = s.db.profiles.length := by
    rw [← h.names.keys, List.length_map]
  by_cases hroom : s.db.profiles.length < ktAppMaxFaceProfilesOnDisk
  · have hadded := (@ProfileArrays.Holds.add_of_room _ faceId
      (defaultArray behind) _ hm hroom).2
    rw [if_pos (hlength ▸ hroom), hnames, ← shown_defaultArray behind,
      ← OrderedMap.map_assign]
    exact ⟨OrderedMap.Represents.map NameArray.shown hadded, h.seen⟩
  · rw [if_neg (hlength ▸ hroom), ProfileArrays.addFaceProfile_of_full hroom]
    exact h

/-- A name is saved for an identifier that is there. -/
theorem Shows.updateFaceProfile (h : Shows s d) (behind : UInt8)
    (faceId : UInt32) (name : List Char) :
    exists s',
      KtApp.updateFaceProfile behind faceId name s =
          some (if faceId ∈ d.names.keys then ktAppSuccess
            else ktAppErrorGeneric, s') ∧
        if faceId ∈ d.names.keys then
          Shows s'
            { names := d.names.assign faceId (keptName name)
              seen := some (d.names.assign faceId (keptName name)) }
        else s' = s := by
  rcases h.exists_holds with ⟨m, hm, hnames⟩
  have hkeys : d.names.keys = m.keys := by
    rw [hnames]
    rfl
  by_cases hmem : faceId ∈ d.names.keys
  · have hupdated := hm.update_of_mem (hkeys ▸ hmem)
      (copyFaceName (clientFaceName (utf8Bytes name)) behind)
    cases hresult : s.db.updateFaceProfile faceId
        (copyFaceName (clientFaceName (utf8Bytes name)) behind) with
    | mk found db =>
        rw [hresult] at hupdated
        rcases hupdated with ⟨rfl, hholds⟩
        have hshown := OrderedMap.Represents.map NameArray.shown hholds
        rw [OrderedMap.map_assign, ← hnames, shown_copyFaceName] at hshown
        have hshows : Shows { s with db := db }
            { d with names := d.names.assign faceId (keptName name) } :=
          ⟨hshown, h.seen⟩
        simp only [if_pos hmem, updateFaceProfile_of_found hresult]
        exact ⟨_, rfl, hshown, congrArg some hshows.listed⟩
  · simp only [if_neg hmem]
    exact ⟨s, updateFaceProfile_of_not_found
      (hm.update_of_not_mem (hkeys ▸ hmem) _), rfl⟩

/-- The search through the file finds the first profile with the identifier. -/
theorem findLabel_eq (faceId : UInt32) (profiles : List ClientProfile) :
    findLabel faceId.toNat (profiles.map fun p =>
        some ⟨some p.faceId.toNat, some (String.ofList p.name)⟩) =
      ((profiles.find? fun p => p.faceId = faceId).map
        fun p => String.ofList p.name).getD unidentified := by
  induction profiles with
  | nil =>
      rfl
  | cons p rest ih =>
      rw [List.map_cons, findLabel, List.find?_cons]
      by_cases hid : p.faceId = faceId
      · simp [hid]
      · have hne : (p.faceId.toNat : Int) ≠ faceId.toNat := by
          intro hsame
          exact hid (UInt32.toNat_inj.mp (by exact_mod_cast hsame))
        simp [hid, hne, ih]

/-- A face is labelled with the name that was seen for it. -/
theorem Shows.faceLabel (h : Shows s d) (faceId : UInt32) :
    KtApp.faceLabel (faceIdsFile s.jsonDb) faceId.toNat =
      ((d.seen.bind fun seen => seen.get faceId).map
        String.ofList).getD unidentified := by
  rw [h.seen]
  cases d.seen with
  | none =>
      rfl
  | some seen =>
      have hget := seen.represents_entries.get_eq faceId
      simp only [faceIdsFile, Option.map_some, KtApp.faceLabel, findLabel_eq,
        NameMap.profiles, List.find?_map, Option.bind_some, hget,
        Option.map_map]
      rfl

theorem Shows.updateFaceIdRoute (h : Shows s d) (behind : UInt8)
    (faceId : Option Int) (name : List Char) :
    exists s', KtApp.updateFaceIdRoute behind faceId name s =
        some ((d.perform (.updateFaceId behind faceId name)).1, s') ∧
      Shows s' (d.perform (.updateFaceId behind faceId name)).2 := by
  cases faceId with
  | none =>
      exact ⟨s, rfl, h⟩
  | some fid =>
      by_cases hzero : fid = 0
      · simp only [KtApp.updateFaceIdRoute, FaceDirectory.perform, if_pos hzero]
        exact ⟨s, rfl, h⟩
      · -- The list is refreshed before the name is looked at.
        rcases h.listFaceProfiles behind with ⟨s1, hlist, _, hshows⟩
        simp only [KtApp.updateFaceIdRoute, FaceDirectory.perform,
          if_neg hzero, hlist, Option.bind_some, ne_eq, not_true_eq_false,
          if_false]
        by_cases hrange : fid < 0 ∨ 2 ^ 32 ≤ fid
        · have hno : ¬ (0 ≤ fid ∧ fid < 2 ^ 32 ∧
              UInt32.ofNat fid.toNat ∈ d.names.keys) := by
            lia
          simp only [if_pos hrange, if_neg hno]
          exact ⟨s1, rfl, hshows⟩
        · rcases hshows.updateFaceProfile behind (UInt32.ofNat fid.toNat)
            (savedName name) with ⟨s2, hupdate, hafter⟩
          simp only [if_neg hrange, hupdate, Option.map_some]
          by_cases hmem : UInt32.ofNat fid.toNat ∈ d.names.keys
          · have hyes : 0 ≤ fid ∧ fid < 2 ^ 32 ∧
                UInt32.ofNat fid.toNat ∈ d.names.keys := by
              lia
            rw [if_pos hmem] at hafter
            simp only [if_pos hmem, if_pos hyes]
            exact ⟨s2, rfl, hafter⟩
          · have hno : ¬ (0 ≤ fid ∧ fid < 2 ^ 32 ∧
                UInt32.ofNat fid.toNat ∈ d.names.keys) :=
              fun hall => hmem hall.2.2
            have hfailed : ktAppErrorGeneric ≠ ktAppSuccess := by decide
            rw [if_neg hmem] at hafter
            subst hafter
            simp only [if_neg hmem, if_neg hno, if_neg hfailed]
            exact ⟨s2, rfl, hshows⟩

/-- One action on the database and the file is one on the directory. -/
theorem Shows.step (h : Shows s d) (action : PageAction) :
    exists s', pageStep s action = some ((d.perform action).1, s') ∧
      Shows s' (d.perform action).2 := by
  cases action with
  | generated behind faceId opStatus =>
      refine ⟨_, rfl, ?_⟩
      by_cases hstatus : opStatus = ktAppSuccess
      · have hadded := h.addFaceProfile faceId behind
        simpa only [FaceDirectory.perform, hstatus, true_and, if_true] using
          hadded
      · simpa only [FaceDirectory.perform, hstatus, false_and, if_false] using h
  | getFaceProfiles behind =>
      rcases h.listFaceProfiles behind with ⟨s', hlist, hfile, hshows⟩
      refine ⟨s', ?_, hshows⟩
      rw [pageStep, getFaceProfilesRoute, hlist]
      simp [hfile, FaceDirectory.perform]
  | drawFace faceId =>
      refine ⟨s, ?_, h⟩
      rw [pageStep, h.faceLabel]
      rfl
  | startPage =>
      exact ⟨_, rfl, h.names, rfl⟩
  | updateFaceId behind faceId name =>
      exact h.updateFaceIdRoute behind faceId name

theorem Shows.stepped (h : Shows s d) {action : PageAction} {reply : PageReply}
    {s' : ProfileState} (hstep : pageStep s action = some (reply, s')) :
    reply = (d.perform action).1 ∧ Shows s' (d.perform action).2 := by
  rcases h.step action with ⟨s'', hstep', hshows⟩
  rw [hstep] at hstep'
  cases hstep'
  exact ⟨rfl, hshows⟩

end Actions

/-!
## Runs
-/

end KtApp
end GardHub
