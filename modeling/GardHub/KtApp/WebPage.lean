import GardHub.Foundation.Fetches
import GardHub.KtApp.FaceDirectory
import GardHub.KtApp.PageScript

/-!
# The page and its server

The script of the page sends requests and goes on; they are answered in any order
and come back in any order, or fail.  Other pages and the App Module work on the
same database meanwhile.  Of this are shown: which profiles are in the list, and
that a face that has been registered can be given its name.
-/

namespace GardHub
namespace KtApp

open Foundation

/-!
## Steps
-/

structure WebPage where
  script : PageScript
  server : ProfileState
  generates : List (Fetch Unit (Option Int))
  saves : List (Fetch SavePayload Bool)
  listings : List (Fetch Unit (List ClientProfile))
  polls : List (Fetch Unit (Option LiveDetection))
  -- The timers that have not gone off.
  okTimers : Nat

/-- The page has been loaded; the server has a database and no file yet. -/
def webPageStart (db : ProfileArrays) : WebPage :=
  { script := pageScriptStart
    server := { db := db, jsonDb := none }
    generates := []
    saves := []
    listings := []
    polls := []
    okTimers := 0 }

inductive WebAction where
  | clickRegister
  -- `generate_face_id`: the App Module reports an identifier, and the client of
  -- the server may get to know it.
  | serveGenerate (i : Nat) (behind : Nat -> UInt8) (faceId : UInt32)
      (opStatus : Int) (replied : Bool)
  | registerComesBack (i : Nat) (arrives : Bool)
  | typeName (name : List Char)
  | clickOk
  -- "Cancel", a click beside the dialog, or the key Escape.
  | closeDialog
  | serveSave (i : Nat) (behind : UInt8)
  | saveComesBack (i : Nat) (arrives : Bool)
  | clickToggle
  | okTimer
  | serveListing (i : Nat) (behind : UInt8)
  | listingComesBack (i : Nat) (arrives : Bool)
  | poll
  -- `live_detection` has a copy of the boxes, or there is an error.
  | servePoll (i : Nat) (boxes : Option (List FaceEntry))
  | pollComesBack (i : Nat) (arrives : Bool)
  -- What the server does for others.
  | elsewhere (action : PageAction)

/-- `generate_face_id` and what is done about the identifier. -/
def generateFaceIdRoute (behind : Nat -> UInt8) (faceId : UInt32)
    (opStatus : Int) (replied : Bool) (s : ProfileState) :
    Option (Option Int × ProfileState) :=
  (pageStep s (.generated behind faceId opStatus)).map fun reported =>
    (if replied ∧ opStatus = ktAppSuccess then some (faceId.toNat : Int)
      else none, reported.2)

/-- The profiles that the script finds in an answer. -/
def PageReply.profilesOrNone : PageReply -> List ClientProfile
  | .profiles listed => listed
  | _ => []

def PageReply.isSaved : PageReply -> Bool
  | .saved _ _ => true
  | _ => false

/-- The list has been changed, and the profiles are asked for or are not. -/
def WebPage.listed (w : WebPage) (done : Bool × ProfilesDropdown) : WebPage :=
  { w with
    script := { w.script with profiles := done.2 }
    listings := if done.1 then Fetch.send w.listings () else w.listings }

/-- One thing after another, where it can happen. -/
def webStep (w : WebPage) : WebAction -> Option WebPage
  | .clickRegister =>
      let done := w.script.button.click
      some { w with
        script := { w.script with button := done.2 }
        generates :=
          if done.1 then Fetch.send w.generates () else w.generates }
  | .serveGenerate i behind faceId opStatus replied =>
      (Fetch.waiting w.generates i).bind fun _ =>
        (generateFaceIdRoute behind faceId opStatus replied w.server).map
          fun served =>
            { w with
              server := served.2
              generates := Fetch.answerWith w.generates i served.1 }
  | .registerComesBack i arrives =>
      (Fetch.comeBack w.generates i arrives).map fun came =>
        { w with
          script := w.script.registerCameBack came.1
          generates := came.2 }
  | .typeName name =>
      some { w with
        script := { w.script with
          dialog := { w.script.dialog with fidNameIn := name } } }
  | .clickOk =>
      let done := w.script.dialog.clickOk
      some { w with
        script := { w.script with dialog := done.2 }
        saves := done.1.elim w.saves (Fetch.send w.saves)
        okTimers := w.okTimers + 1 }
  | .closeDialog =>
      some { w with
        script := { w.script with dialog := w.script.dialog.closeModal } }
  | .serveSave i behind =>
      (Fetch.waiting w.saves i).bind fun payload =>
        (updateFaceIdRoute behind (some payload.faceId) payload.name
          w.server).map fun served =>
            { w with
              server := served.2
              saves := Fetch.answerWith w.saves i served.1.isSaved }
  | .saveComesBack i arrives =>
      (Fetch.comeBack w.saves i arrives).map fun came =>
        { w with
          script := { w.script with
            dialog := w.script.dialog.saveCameBack came.1 }
          saves := came.2 }
  | .clickToggle => some (w.listed w.script.profiles.clickToggle)
  | .okTimer =>
      match w.okTimers with
      | 0 => none
      | n + 1 =>
          some ({ w with okTimers := n }.listed w.script.profiles.okTimer)
  | .serveListing i behind =>
      (Fetch.waiting w.listings i).bind fun _ =>
        (getFaceProfilesRoute behind w.server).map fun served =>
          { w with
            server := served.2
            listings :=
              Fetch.answerWith w.listings i served.1.profilesOrNone }
  | .listingComesBack i arrives =>
      (Fetch.comeBack w.listings i arrives).map fun came =>
        { w with
          script := { w.script with
            profiles := w.script.profiles.profilesCameBack came.1 }
          listings := came.2 }
  | .poll => some { w with polls := Fetch.send w.polls () }
  | .servePoll i boxes =>
      (Fetch.waiting w.polls i).map fun _ =>
        { w with
          polls := Fetch.answerWith w.polls i (boxes.map liveDetection) }
  | .pollComesBack i arrives =>
      (Fetch.comeBack w.polls i arrives).map fun came =>
        { w with
          -- There are no `detected_face_ids` in an answer.
          script :=
            match came.1 with
            | some (some det) => w.script.updateDashboard det []
            | _ => w.script
          polls := came.2 }
  | .elsewhere action =>
      (pageStep w.server action).map fun served => { w with server := served.2 }

/-!
## What a step does
-/

/-- The request for the profiles is answered, or comes back. -/
def WebAction.ofListing : WebAction -> Bool
  | .serveListing _ _ => true
  | .listingComesBack _ _ => true
  | _ => false

/-- What a step does to the list and to the requests for it. -/
inductive ListStep (w w' : WebPage) : WebAction -> Prop where
  | asks {a : WebAction} (hother : a.ofListing = false)
      (done : Bool × ProfilesDropdown)
      (hasks : w.script.profiles.AsksOnce done)
      (hprofiles : w'.script.profiles = done.2)
      (hlistings : w'.listings =
        if done.1 then Fetch.send w.listings () else w.listings) :
      ListStep w w' a
  | refreshed {a : WebAction} (hother : a.ofListing = false) (ids : List Int)
      (hprofiles : w'.script.profiles =
        w.script.profiles.refreshProfileCards ids)
      (hlistings : w'.listings = w.listings) : ListStep w w' a
  | served (i : Nat) (behind : UInt8) (reply : PageReply)
      (hwaiting : Fetch.waiting w.listings i = some ())
      (hroute : getFaceProfilesRoute behind w.server =
        some (reply, w'.server))
      (hprofiles : w'.script.profiles = w.script.profiles)
      (hlistings : w'.listings =
        Fetch.answerWith w.listings i reply.profilesOrNone) :
      ListStep w w' (.serveListing i behind)
  | cameBack (i : Nat) (arrives : Bool) (answer : Option (List ClientProfile))
      (hcame : Fetch.comeBack w.listings i arrives =
        some (answer, w'.listings))
      (hprofiles : w'.script.profiles =
        w.script.profiles.profilesCameBack answer) :
      ListStep w w' (.listingComesBack i arrives)

/-- The identifier that is marked for an answer: that of the first box, unless it
is 0. -/
def LiveDetection.marked (det : LiveDetection) : List Int :=
  det.faceId.toList.filter (· ≠ 0)

/-- What a poll that comes back has been answered, if it has been. -/
def WebPage.polled (w : WebPage) : WebAction -> Option LiveDetection
  | .pollComesBack i arrives =>
      (Fetch.comeBack w.polls i arrives).bind fun came => came.1.join
  | _ => none

/-- What a step does to the polls and to the identifiers that are marked. -/
inductive PollStep (w w' : WebPage) : WebAction -> Prop where
  | kept {a : WebAction} (hpolled : w.polled a = none)
      (hpolls : w'.polls = w.polls)
      (hmarked : w'.script.profiles.activeFaceIds =
        w.script.profiles.activeFaceIds) : PollStep w w' a
  | sent (hpolls : w'.polls = Fetch.send w.polls ())
      (hmarked : w'.script.profiles.activeFaceIds =
        w.script.profiles.activeFaceIds) : PollStep w w' .poll
  | served (i : Nat) (boxes : Option (List FaceEntry))
      (hwaiting : Fetch.waiting w.polls i = some ())
      (hpolls : w'.polls =
        Fetch.answerWith w.polls i (boxes.map liveDetection))
      (hmarked : w'.script.profiles.activeFaceIds =
        w.script.profiles.activeFaceIds) : PollStep w w' (.servePoll i boxes)
  | cameBack (i : Nat) (arrives : Bool)
      (answer : Option (Option LiveDetection))
      (hcame : Fetch.comeBack w.polls i arrives = some (answer, w'.polls))
      (hmarked : w'.script.profiles.activeFaceIds =
        answer.join.elim w.script.profiles.activeFaceIds
          LiveDetection.marked) :
      PollStep w w' (.pollComesBack i arrives)

/-- What a step does to the server, to the list and to the polls. -/
structure WebEffects (w w' : WebPage) (a : WebAction) : Prop where
  server : w'.server = w.server ∨ exists action reply,
    pageStep w.server action = some (reply, w'.server)
  list : ListStep w w' a
  poll : PollStep w w' a

section Steps

variable {w w' : WebPage} {a : WebAction}

/-- A timer goes off only where one has been set. -/
theorem webStep_okTimer (h : webStep w .okTimer = some w') :
    exists n, w.okTimers = n + 1 ∧
      w' = { w with okTimers := n }.listed w.script.profiles.okTimer := by
  cases htimers : w.okTimers with
  | zero =>
      rw [webStep, htimers] at h
      cases h
  | succ n =>
      rw [webStep, htimers] at h
      cases h
      exact ⟨n, rfl, rfl⟩

/-- The list and the requests for it are left alone. -/
theorem ListStep.kept (hother : a.ofListing = false)
    (hprofiles : w'.script.profiles = w.script.profiles)
    (hlistings : w'.listings = w.listings) : ListStep w w' a :=
  .asks hother (false, w.script.profiles)
    (Or.inl ⟨rfl, rfl, rfl, rfl, rfl, rfl, rfl⟩) hprofiles hlistings

/-- A step of which neither the list nor the polls take notice. -/
theorem WebEffects.kept (hother : a.ofListing = false)
    (hpolled : w.polled a = none)
    (hserver : w'.server = w.server ∨ exists action reply,
      pageStep w.server action = some (reply, w'.server))
    (hprofiles : w'.script.profiles = w.script.profiles)
    (hlistings : w'.listings = w.listings) (hpolls : w'.polls = w.polls) :
    WebEffects w w' a :=
  ⟨hserver, .kept hother hprofiles hlistings,
    .kept hpolled hpolls (congrArg _ hprofiles)⟩

theorem webStep_effects (h : webStep w a = some w') : WebEffects w w' a := by
  cases a with
  | clickToggle =>
      cases h
      exact ⟨Or.inl rfl,
        .asks rfl _ w.script.profiles.clickToggle_asksOnce rfl rfl,
        .kept rfl rfl w.script.profiles.clickToggle_activeFaceIds⟩
  | okTimer =>
      rcases webStep_okTimer h with ⟨n, -, rfl⟩
      exact ⟨Or.inl rfl,
        .asks rfl _ w.script.profiles.okTimer_asksOnce rfl rfl,
        .kept rfl rfl w.script.profiles.okTimer_activeFaceIds⟩
  | serveListing i behind =>
      rcases Option.bind_eq_some_iff.mp h with ⟨_, hwaiting, hserved⟩
      rcases Option.map_eq_some_iff.mp hserved with ⟨served, hroute, rfl⟩
      exact ⟨Or.inr ⟨.getFaceProfiles behind, _, hroute⟩,
        .served i behind _ hwaiting hroute rfl rfl, .kept rfl rfl rfl⟩
  | listingComesBack i arrives =>
      rcases Option.map_eq_some_iff.mp h with ⟨came, hcame, rfl⟩
      exact ⟨Or.inl rfl, .cameBack i arrives _ hcame rfl, .kept rfl rfl
        (ProfilesDropdown.profilesCameBack_activeFaceIds _ came.1)⟩
  | poll =>
      cases h
      exact ⟨Or.inl rfl, .kept rfl rfl rfl, .sent rfl rfl⟩
  | servePoll i boxes =>
      rcases Option.map_eq_some_iff.mp h with ⟨_, hwaiting, rfl⟩
      exact ⟨Or.inl rfl, .kept rfl rfl rfl, .served i boxes hwaiting rfl rfl⟩
  | pollComesBack i arrives =>
      rcases Option.map_eq_some_iff.mp h with ⟨came, hcame, rfl⟩
      rcases came with ⟨_ | _ | det, rest⟩
      · exact ⟨Or.inl rfl, .kept rfl rfl rfl,
          .cameBack i arrives none hcame rfl⟩
      · exact ⟨Or.inl rfl, .kept rfl rfl rfl,
          .cameBack i arrives (some none) hcame rfl⟩
      · exact ⟨Or.inl rfl, .refreshed rfl _ rfl rfl,
          .cameBack i arrives (some (some det)) hcame rfl⟩
  | serveGenerate i behind faceId opStatus replied =>
      rcases Option.bind_eq_some_iff.mp h with ⟨-, -, hserved⟩
      rcases Option.map_eq_some_iff.mp hserved with ⟨served, hroute, rfl⟩
      rcases Option.map_eq_some_iff.mp hroute with ⟨reported, hstep, rfl⟩
      exact .kept rfl rfl (Or.inr ⟨_, _, hstep⟩) rfl rfl rfl
  | serveSave i behind =>
      rcases Option.bind_eq_some_iff.mp h with ⟨payload, -, hserved⟩
      rcases Option.map_eq_some_iff.mp hserved with ⟨served, hroute, rfl⟩
      exact .kept rfl rfl (Or.inr ⟨.updateFaceId behind (some payload.faceId)
        payload.name, _, hroute⟩) rfl rfl rfl
  | elsewhere action =>
      rcases Option.map_eq_some_iff.mp h with ⟨served, hstep, rfl⟩
      exact .kept rfl rfl (Or.inr ⟨action, _, hstep⟩) rfl rfl rfl
  | registerComesBack i arrives =>
      rcases Option.map_eq_some_iff.mp h with ⟨came, -, rfl⟩
      rcases came with ⟨_ | _ | faceId, rest⟩ <;>
        exact .kept rfl rfl (Or.inl rfl) rfl rfl rfl
  | saveComesBack i arrives =>
      rcases Option.map_eq_some_iff.mp h with ⟨came, -, rfl⟩
      exact .kept rfl rfl (Or.inl rfl) rfl rfl rfl
  | _ =>
      cases h
      exact .kept rfl rfl (Or.inl rfl) rfl rfl rfl

end Steps

/-!
## Which profiles are marked
-/

/-- The answer of the poll that has come back last. -/
def lastPolled (w : WebPage) : List WebAction -> Option LiveDetection
  | [] => none
  | a :: rest =>
      ((webStep w a).bind fun w' => lastPolled w' rest).or (w.polled a)

def markedIds (last : Option LiveDetection) : List Int :=
  last.elim [] LiveDetection.marked

/-- A poll has been answered with what there is for a copy of the boxes. -/
def PollServed (front : List WebAction) (det : LiveDetection) : Prop :=
  exists i boxes, .servePoll i (some boxes) ∈ front ∧ det = liveDetection boxes

section Marked

variable {db : ProfileArrays} {front : List WebAction} {w w' : WebPage}
  {a : WebAction} {det : LiveDetection}

theorem lastPolled_concat {w0 : WebPage}
    (hrun : runActions webStep w0 front = some w) (a : WebAction) :
    lastPolled w0 (front ++ [a]) = (w.polled a).or (lastPolled w0 front) := by
  induction front generalizing w0 with
  | nil =>
      cases hrun
      cases hstep : webStep w a <;> simp [lastPolled, hstep]
  | cons b rest ih =>
      rcases Option.bind_eq_some_iff.mp hrun with ⟨mid, hmid, hrest⟩
      simp only [List.cons_append, lastPolled, hmid, Option.bind_some, ih hrest,
        Option.or_assoc]

theorem PollServed.concat (h : PollServed front det) (a : WebAction) :
    PollServed (front ++ [a]) det := by
  rcases h with ⟨i, boxes, hserved, hdet⟩
  exact ⟨i, boxes, List.mem_append_left _ hserved, hdet⟩

/-- What is known of the polls at the end of a run. -/
structure PollTrace (db : ProfileArrays) (front : List WebAction)
    (w : WebPage) : Prop where
  run : runActions webStep (webPageStart db) front = some w
  answered : forall f, f ∈ w.polls -> forall det, f.answer = some (some det) ->
    PollServed front det
  last : forall det, lastPolled (webPageStart db) front = some det ->
    PollServed front det
  marked : w.script.profiles.activeFaceIds =
    markedIds (lastPolled (webPageStart db) front)

/-- A step in which no answer to a poll comes back. -/
theorem PollTrace.unpolled (h : PollTrace db front w)
    (hstep : webStep w a = some w') (hpolled : w.polled a = none)
    (hanswered : forall f, f ∈ w'.polls -> forall det,
      f.answer = some (some det) -> PollServed (front ++ [a]) det)
    (hmarked : w'.script.profiles.activeFaceIds =
      w.script.profiles.activeFaceIds) : PollTrace db (front ++ [a]) w' where
  run := by
    rw [runActions_concat, h.run, Option.bind_some, hstep]
  answered := hanswered
  last := by
    intro det hlast
    rw [lastPolled_concat h.run, hpolled, Option.none_or] at hlast
    exact (h.last det hlast).concat a
  marked := by
    rw [lastPolled_concat h.run, hpolled, Option.none_or, hmarked]
    exact h.marked

theorem PollTrace.step (h : PollTrace db front w)
    (hstep : webStep w a = some w') : PollTrace db (front ++ [a]) w' := by
  have hkept : forall f, f ∈ w.polls -> forall det,
      f.answer = some (some det) -> PollServed (front ++ [a]) det :=
    fun f hf det hdet => (h.answered f hf det hdet).concat a
  cases (webStep_effects hstep).poll with
  | kept hpolled hpolls hmarked =>
      exact h.unpolled hstep hpolled (hpolls ▸ hkept) hmarked
  | sent hpolls hmarked =>
      refine h.unpolled hstep rfl ?_ hmarked
      rw [hpolls]
      exact Fetch.forall_send hkept (by simp)
  | served i boxes hwaiting hpolls hmarked =>
      refine h.unpolled hstep rfl ?_ hmarked
      rw [hpolls]
      apply Fetch.forall_answerWith hkept hwaiting
      intro det hdet
      rcases Option.map_eq_some_iff.mp (Option.some_inj.mp hdet)
        with ⟨found, rfl, rfl⟩
      exact ⟨i, found, by simp, rfl⟩
  | cameBack i arrives answer hcame hmarked =>
      rcases Fetch.comeBack_some hcame with ⟨-, hrest, hanswer⟩
      have hpolled : w.polled (.pollComesBack i arrives) = answer.join := by
        rw [WebPage.polled, hcame, Option.bind_some]
      have hothers := fun f hf => hkept f (hrest f hf)
      cases hjoin : answer.join with
      | none =>
          rw [hjoin] at hpolled hmarked
          exact h.unpolled hstep hpolled hothers hmarked
      | some det =>
          rw [hjoin] at hpolled hmarked
          rcases hanswer (some det) (Option.join_eq_some_iff.mp hjoin)
            with ⟨-, r, hmem⟩
          have hserved := hkept _ hmem det rfl
          refine ⟨?_, hothers, ?_, ?_⟩
          · rw [runActions_concat, h.run, Option.bind_some, hstep]
          · intro det' hlast
            rw [lastPolled_concat h.run, hpolled, Option.some_or] at hlast
            cases hlast
            exact hserved
          · rw [lastPolled_concat h.run, hpolled, Option.some_or, hmarked]
            rfl

end Marked

/-!
## Which profiles are in the list
-/

section Listed

/-- The profiles have been answered with what the database had then, and the
answer is under way. -/
def Answered (db : ProfileArrays) (front : List WebAction)
    (profiles : List ClientProfile) : Prop :=
  exists before mid i behind w0,
    front = before ++ .serveListing i behind :: mid ∧
    (forall a, a ∈ mid -> a.ofListing = false) ∧
    runActions webStep (webPageStart db) before = some w0 ∧
    profiles = w0.server.db.profiles.map shownProfile

/-- An answer with the profiles has come, and none has come or been made since. -/
def Listed (db : ProfileArrays) (front : List WebAction)
    (profiles : List ClientProfile) : Prop :=
  exists before rest i,
    front = before ++ .listingComesBack i true :: rest ∧
    (forall a, a ∈ rest -> a.ofListing = false) ∧
    Answered db before profiles

variable {db : ProfileArrays} {front : List WebAction}
  {profiles : List ClientProfile} {w w' : WebPage} {a : WebAction}

theorem Answered.concat (h : Answered db front profiles)
    (hother : a.ofListing = false) : Answered db (front ++ [a]) profiles := by
  rcases h with ⟨before, mid, i, behind, w0, rfl, hmid, hrun, hprofiles⟩
  refine ⟨before, mid ++ [a], i, behind, w0, by simp, ?_, hrun, hprofiles⟩
  intro b hb
  rcases List.mem_append.mp hb with hb | hb
  · exact hmid b hb
  · exact List.mem_singleton.mp hb ▸ hother

theorem Listed.concat (h : Listed db front profiles)
    (hother : a.ofListing = false) : Listed db (front ++ [a]) profiles := by
  rcases h with ⟨before, rest, i, rfl, hrest, hanswered⟩
  refine ⟨before, rest ++ [a], i, by simp, ?_, hanswered⟩
  intro b hb
  rcases List.mem_append.mp hb with hb | hb
  · exact hrest b hb
  · exact List.mem_singleton.mp hb ▸ hother

/-- What is shown at the end of a run. -/
structure ListTrace (db : ProfileArrays) (front : List WebAction)
    (w : WebPage) : Prop where
  run : runActions webStep (webPageStart db) front = some w
  shows : exists d, Shows w.server d
  waited : w.listings.length = w.script.profiles.fetchInFlight.toNat
  whole : w.script.profiles.Whole
  answered : forall f, f ∈ w.listings -> forall raw, f.answer = some raw ->
    Answered db front raw ∧ (raw.map ClientProfile.faceId).Nodup
  listed : w.script.profiles.list = true -> exists raw, Listed db front raw ∧
    w.script.profiles.cards =
      raw.map (profileCard w.script.profiles.activeFaceIds)

theorem webStep_shows (h : exists d, Shows w.server d)
    (hstep : webStep w a = some w') : exists d, Shows w'.server d := by
  rcases h with ⟨d, hshows⟩
  rcases (webStep_effects hstep).server with hsame | ⟨action, reply, hserver⟩
  · exact ⟨d, hsame ▸ hshows⟩
  · exact ⟨_, (hshows.stepped hserver).2⟩

/-- The profiles of the database have different identifiers. -/
theorem Shows.shownProfiles_nodup {s : ProfileState} {d : FaceDirectory}
    (h : Shows s d) :
    ((s.db.profiles.map shownProfile).map ClientProfile.faceId).Nodup := by
  have hkeys : (s.db.profiles.map shownProfile).map ClientProfile.faceId =
      d.names.keys := by
    rw [← h.names.keys, List.map_map]
    rfl
  rw [hkeys]
  exact d.names.nodup

/-- The profiles are read from the database as it is. -/
theorem getFaceProfilesRoute_eq (behind : UInt8) (s : ProfileState) :
    getFaceProfilesRoute behind s =
      some (.profiles (s.db.profiles.map shownProfile),
        { db := s.db, jsonDb := some (s.db.profiles.map shownProfile) }) := by
  rw [getFaceProfilesRoute, listFaceProfiles_eq]
  rfl

theorem ListTrace.stillAnswered (h : ListTrace db front w)
    (hother : a.ofListing = false) : forall f, f ∈ w.listings ->
      forall raw, f.answer = some raw -> Answered db (front ++ [a]) raw ∧
        (raw.map ClientProfile.faceId).Nodup := by
  intro f hf raw hraw
  rcases h.answered f hf raw hraw with ⟨hanswered, hdistinct⟩
  exact ⟨hanswered.concat hother, hdistinct⟩

theorem listings_eq_nil (h : ListTrace db front w)
    (hshown : w.script.profiles.list = true) : w.listings = [] := by
  by_contra hasked
  have hloader := h.whole.loading (Fetch.asked_of_ne_nil h.waited hasked)
  have hparts := h.whole.onePart
  rw [hshown, hloader, Bool.toNat_true] at hparts
  lia

theorem ListTrace.ran (h : ListTrace db front w)
    (hstep : webStep w a = some w') :
    runActions webStep (webPageStart db) (front ++ [a]) = some w' := by
  rw [runActions_concat, h.run, Option.bind_some, hstep]

theorem ListTrace.asks (h : ListTrace db front w)
    (hstep : webStep w a = some w') (hother : a.ofListing = false)
    {done : Bool × ProfilesDropdown}
    (hasks : w.script.profiles.AsksOnce done)
    (hprofiles : w'.script.profiles = done.2)
    (hlistings : w'.listings =
      if done.1 then Fetch.send w.listings () else w.listings) :
    ListTrace db (front ++ [a]) w' := by
  have hwhole : w'.script.profiles.Whole := hprofiles ▸ hasks.whole h.whole
  rcases hasks with ⟨hno, hsame⟩ | ⟨hyes, hidle, hcleared⟩
  · rw [hno, if_neg Bool.false_ne_true] at hlistings
    rw [← hprofiles] at hsame
    refine ⟨h.ran hstep, webStep_shows h.shows hstep, ?_, hwhole, ?_, ?_⟩
    · rw [hlistings, hsame.fetchInFlight]
      exact h.waited
    · rw [hlistings]
      exact h.stillAnswered hother
    · intro hlist
      rcases h.listed (hsame.list ▸ hlist) with ⟨raw, hlisted, hcards⟩
      refine ⟨raw, hlisted.concat hother, ?_⟩
      rw [hsame.cards, hsame.activeFaceIds]
      exact hcards
  · rw [hyes, if_pos rfl] at hlistings
    rw [← hprofiles] at hcleared
    refine ⟨h.ran hstep, webStep_shows h.shows hstep, ?_, hwhole, ?_, ?_⟩
    · rw [hlistings, Fetch.send_length, h.waited, hidle,
        hcleared.fetchInFlight]
      rfl
    · rw [hlistings]
      exact Fetch.forall_send (h.stillAnswered hother) (by simp)
    · intro hlist
      rw [hcleared.list] at hlist
      cases hlist

theorem ListTrace.refreshed (h : ListTrace db front w)
    (hstep : webStep w a = some w') (hother : a.ofListing = false)
    {ids : List Int}
    (hprofiles : w'.script.profiles =
      w.script.profiles.refreshProfileCards ids)
    (hlistings : w'.listings = w.listings) :
    ListTrace db (front ++ [a]) w' := by
  refine ⟨h.ran hstep, webStep_shows h.shows hstep, ?_, ?_, ?_, ?_⟩
  · rw [hlistings, hprofiles]
    exact h.waited
  · rw [hprofiles]
    exact ProfilesDropdown.refreshProfileCards_whole h.whole ids
  · rw [hlistings]
    exact h.stillAnswered hother
  · intro hlist
    rw [hprofiles] at hlist ⊢
    rcases h.listed hlist with ⟨raw, hlisted, hcards⟩
    exact ⟨raw, hlisted.concat hother,
      ProfilesDropdown.refreshProfileCards_cards hcards ids⟩

/-- The one request that there is has got the profiles of this moment. -/
theorem ListTrace.served (h : ListTrace db front w) {i : Nat}
    {behind : UInt8} {reply : PageReply}
    (hstep : webStep w (.serveListing i behind) = some w')
    (hwaiting : Fetch.waiting w.listings i = some ())
    (hroute : getFaceProfilesRoute behind w.server = some (reply, w'.server))
    (hprofiles : w'.script.profiles = w.script.profiles)
    (hlistings : w'.listings =
      Fetch.answerWith w.listings i reply.profilesOrNone) :
    ListTrace db (front ++ [.serveListing i behind]) w' := by
  rw [getFaceProfilesRoute_eq] at hroute
  have hreply := congrArg Prod.fst (Option.some_inj.mp hroute)
  subst hreply
  have hone : w.listings.length ≤ 1 := h.waited ▸ Bool.toNat_le _
  refine ⟨h.ran hstep, webStep_shows h.shows hstep, ?_, hprofiles ▸ h.whole,
    ?_, ?_⟩
  · rw [hlistings, Fetch.answerWith_length, hprofiles]
    exact h.waited
  · intro f hf raw hraw
    rw [hlistings, Fetch.answerWith_only hone hwaiting] at hf
    rcases List.mem_singleton.mp hf with rfl
    cases hraw
    rcases h.shows with ⟨d, hd⟩
    exact ⟨⟨front, [], i, behind, w, rfl, by simp, h.run, rfl⟩,
      hd.shownProfiles_nodup⟩
  · intro hlist
    rw [hprofiles] at hlist
    rw [listings_eq_nil h hlist] at hwaiting
    cases hwaiting

/-- Nothing is under way any more when the request has come back. -/
theorem ListTrace.cameBack (h : ListTrace db front w) {i : Nat}
    {arrives : Bool} {answer : Option (List ClientProfile)}
    (hstep : webStep w (.listingComesBack i arrives) = some w')
    (hcame : Fetch.comeBack w.listings i arrives = some (answer, w'.listings))
    (hprofiles : w'.script.profiles =
      w.script.profiles.profilesCameBack answer) :
    ListTrace db (front ++ [.listingComesBack i arrives]) w' := by
  rcases Fetch.comeBack_some hcame with ⟨hlength, -, hanswer⟩
  have hone : w.listings.length ≤ 1 := h.waited ▸ Bool.toNat_le _
  have hnone : w'.listings = [] := by
    rw [← List.length_eq_zero_iff]
    lia
  have hasked : w.script.profiles.fetchInFlight = true := by
    rw [← Bool.toNat_eq_one, ← h.waited, hlength, hnone]
    rfl
  rcases ProfilesDropdown.profilesCameBack_whole h.whole hasked answer
    with ⟨hwhole, hidle, hcards⟩
  rw [← hprofiles] at hwhole hidle hcards
  refine ⟨h.ran hstep, webStep_shows h.shows hstep, ?_, hwhole, ?_, ?_⟩
  · rw [hnone, hidle]
    rfl
  · rw [hnone]
    simp
  · intro hlist
    rcases hcards hlist with ⟨raw, rfl, hmade⟩
    rcases hanswer raw rfl with ⟨rfl, r, hmem⟩
    rcases h.answered _ hmem raw rfl with ⟨hanswered, hdistinct⟩
    rw [ProfilesDropdown.firstProfiles_eq hdistinct (by simp)] at hmade
    exact ⟨raw, ⟨front, [], i, rfl, by simp, hanswered⟩, hmade⟩

theorem ListTrace.step (h : ListTrace db front w)
    (hstep : webStep w a = some w') : ListTrace db (front ++ [a]) w' := by
  cases (webStep_effects hstep).list with
  | asks hother done hasks hprofiles hlistings =>
      exact h.asks hstep hother hasks hprofiles hlistings
  | refreshed hother ids hprofiles hlistings =>
      exact h.refreshed hstep hother hprofiles hlistings
  | served i behind reply hwaiting hroute hprofiles hlistings =>
      exact h.served hstep hwaiting hroute hprofiles hlistings
  | cameBack i arrives answer hcame hprofiles =>
      exact h.cameBack hstep hcame hprofiles

end Listed

/-!
## Names for the faces that have been registered
-/

section Registered

variable {front : List WebAction} {w w' : WebPage} {a : WebAction}

/-- Nobody is taken out of the directory. -/
theorem FaceDirectory.perform_keys (d : FaceDirectory) (action : PageAction)
    {faceId : UInt32} (h : faceId ∈ d.names.keys) :
    faceId ∈ (d.perform action).2.names.keys := by
  cases action with
  | generated behind faceId opStatus =>
      simp only [FaceDirectory.perform]
      split
      · exact OrderedMap.mem_assign_keys.mpr (Or.inl h)
      · exact h
  | updateFaceId behind faceId name =>
      cases faceId with
      | none =>
          exact h
      | some fid =>
          simp only [FaceDirectory.perform]
          split
          · exact h
          · split
            · exact OrderedMap.mem_assign_keys.mpr (Or.inl h)
            · exact h
  | _ =>
      exact h

theorem Shows.mem_faceIds {s : ProfileState} {d : FaceDirectory}
    (h : Shows s d) (faceId : UInt32) :
    faceId ∈ s.db.faceIds <-> faceId ∈ d.names.keys := by
  rw [ProfileArrays.faceIds, h.names.keys]

theorem webStep_faceIds (h : exists d, Shows w.server d)
    (hstep : webStep w a = some w') {faceId : UInt32}
    (hmem : faceId ∈ w.server.db.faceIds) :
    faceId ∈ w'.server.db.faceIds := by
  rcases h with ⟨d, hshows⟩
  rcases (webStep_effects hstep).server with hsame | ⟨action, reply, hserver⟩
  · exact hsame ▸ hmem
  · rw [(hshows.stepped hserver).2.mem_faceIds]
    exact d.perform_keys action ((hshows.mem_faceIds faceId).mp hmem)

/-- The App Module has reported an identifier to the page, and the database has
it. -/
def FaceReported (front : List WebAction) (w : WebPage) (id : Int) : Prop :=
  exists faceId : UInt32, id = faceId.toNat ∧
    faceId ∈ w.server.db.faceIds ∧
    exists i behind, .serveGenerate i behind faceId ktAppSuccess true ∈ front

/-- What is known of the faces at the end of a run. -/
structure RegisterTrace (front : List WebAction) (w : WebPage) : Prop where
  shows : exists d, Shows w.server d
  waited : w.generates.length = w.script.button.busy.toNat
  disabled : w.script.button.busy = true -> w.script.button.disabled = true
  modal : w.script.dialog.modal = w.script.dialog.lastFaceIdResult.isSome
  answered : forall f, f ∈ w.generates -> forall id,
    f.answer = some (some id) -> FaceReported front w id
  named : forall id, w.script.dialog.lastFaceIdResult = some id ->
    FaceReported front w id
  saved : forall f, f ∈ w.saves -> f.request.faceId ≠ 0 ∧
    FaceReported front w f.request.faceId ∧ f.answer ≠ some false

theorem FaceReported.step (hshows : exists d, Shows w.server d)
    (hstep : webStep w a = some w') {id : Int} (h : FaceReported front w id) :
    FaceReported (front ++ [a]) w' id := by
  rcases h with ⟨faceId, hid, hmem, i, behind, hserved⟩
  exact ⟨faceId, hid, webStep_faceIds hshows hstep hmem, i, behind,
    List.mem_append_left _ hserved⟩

/-- The identifier of a face that has been registered. -/
def WebAction.newFaceId : WebAction -> Option UInt32
  | .serveGenerate _ _ faceId opStatus _ =>
      if opStatus = ktAppSuccess then some faceId else none
  | _ => none

/-- A new identifier finds room in the database. -/
def FindsRoom (w : WebPage) (a : WebAction) : Prop :=
  forall faceId, faceId ∈ a.newFaceId -> faceId ∈ w.server.db.faceIds ∨
    w.server.db.profiles.length < ktAppMaxFaceProfilesOnDisk

instance decidableFindsRoom (w : WebPage) (a : WebAction) :
    Decidable (FindsRoom w a) :=
  inferInstanceAs (Decidable (forall faceId, faceId ∈ a.newFaceId ->
    faceId ∈ w.server.db.faceIds ∨
      w.server.db.profiles.length < ktAppMaxFaceProfilesOnDisk))

/-- An identifier that finds room is in the database when it is told. -/
theorem serveGenerate_reported (hshows : exists d, Shows w.server d) {i : Nat}
    {behind : Nat -> UInt8} {faceId : UInt32} {opStatus : Int} {replied : Bool}
    (hroom : FindsRoom w (.serveGenerate i behind faceId opStatus replied))
    {served : Option Int × ProfileState}
    (hroute : generateFaceIdRoute behind faceId opStatus replied w.server =
      some served) {id : Int} (hid : served.1 = some id) :
    id = faceId.toNat ∧ faceId ∈ served.2.db.faceIds ∧
      opStatus = ktAppSuccess ∧ replied = true := by
  rcases hshows with ⟨d, hd⟩
  rcases Option.map_eq_some_iff.mp hroute with ⟨reported, hstep, rfl⟩
  simp only at hid
  split at hid
  next htold =>
    cases hid
    refine ⟨rfl, ?_, htold.2, htold.1⟩
    rw [(hd.stepped hstep).2.mem_faceIds]
    have hnew : faceId ∈ (WebAction.serveGenerate i behind faceId opStatus
        replied).newFaceId := if_pos htold.2
    rcases hroom faceId hnew with hmem | hroom
    · exact d.perform_keys _ ((hd.mem_faceIds faceId).mp hmem)
    · have hlength : d.names.keys.length = w.server.db.profiles.length := by
        rw [← hd.names.keys, List.length_map]
      rw [FaceDirectory.perform, if_pos ⟨htold.2, hlength ▸ hroom⟩]
      exact OrderedMap.mem_assign_keys.mpr (Or.inr rfl)
  next =>
    cases hid

/-- A name for an identifier that the database has is saved. -/
theorem serveSave_saved (hshows : exists d, Shows w.server d) {behind : UInt8}
    {payload : SavePayload} (hzero : payload.faceId ≠ 0)
    (hreported : FaceReported front w payload.faceId)
    {served : PageReply × ProfileState}
    (hroute : updateFaceIdRoute behind (some payload.faceId) payload.name
      w.server = some served) : served.1.isSaved = true := by
  rcases hshows with ⟨d, hd⟩
  rcases hreported with ⟨faceId, hid, hmem, -⟩
  rcases hd.updateFaceIdRoute behind (some payload.faceId) payload.name
    with ⟨s', hroute', -⟩
  rw [hroute] at hroute'
  cases hroute'
  have hthere : 0 ≤ payload.faceId ∧ payload.faceId < 2 ^ 32 ∧
      UInt32.ofNat payload.faceId.toNat ∈ d.names.keys := by
    rw [hid]
    refine ⟨Int.natCast_nonneg _, by exact_mod_cast faceId.toNat_lt, ?_⟩
    rw [Int.toNat_natCast, UInt32.ofNat_toNat]
    exact (hd.mem_faceIds faceId).mp hmem
  simp only [FaceDirectory.perform, if_neg hzero, if_pos hthere]
  rfl

/-- What is known of the faces stays known. -/
theorem RegisterTrace.keeps (h : RegisterTrace front w)
    (hstep : webStep w a = some w') :
    (exists d, Shows w'.server d) ∧
    (forall f, f ∈ w.generates -> forall id, f.answer = some (some id) ->
      FaceReported (front ++ [a]) w' id) ∧
    (forall id, w.script.dialog.lastFaceIdResult = some id ->
      FaceReported (front ++ [a]) w' id) ∧
    (forall f, f ∈ w.saves -> f.request.faceId ≠ 0 ∧
      FaceReported (front ++ [a]) w' f.request.faceId ∧
      f.answer ≠ some false) :=
  ⟨webStep_shows h.shows hstep,
    fun f hf id hid => (h.answered f hf id hid).step h.shows hstep,
    fun id hid => (h.named id hid).step h.shows hstep,
    fun f hf => ⟨(h.saved f hf).1, (h.saved f hf).2.1.step h.shows hstep,
      (h.saved f hf).2.2⟩⟩

/-- The button, the dialog and their requests are left alone, but for the name
that is typed. -/
theorem RegisterTrace.kept (h : RegisterTrace front w)
    (hstep : webStep w a = some w')
    (hbutton : w'.script.button = w.script.button)
    (hmodal : w'.script.dialog.modal = w.script.dialog.modal)
    (hlast : w'.script.dialog.lastFaceIdResult =
      w.script.dialog.lastFaceIdResult)
    (hgenerates : w'.generates = w.generates) (hsaves : w'.saves = w.saves) :
    RegisterTrace (front ++ [a]) w' := by
  rcases h.keeps hstep with ⟨hshows, hanswered, hnamed, hsaved⟩
  exact
    { shows := hshows
      waited := by
        rw [hgenerates, hbutton]
        exact h.waited
      disabled := by
        rw [hbutton]
        exact h.disabled
      modal := by
        rw [hmodal, hlast]
        exact h.modal
      answered := hgenerates ▸ hanswered
      named := hlast ▸ hnamed
      saved := hsaves ▸ hsaved }

/-- The dialog has been closed. -/
theorem RegisterTrace.closed (h : RegisterTrace front w)
    (hstep : webStep w a = some w')
    (hbutton : w'.script.button = w.script.button)
    (hdialog : w'.script.dialog = w.script.dialog.closeModal)
    (hgenerates : w'.generates = w.generates)
    (hsaves : forall f, f ∈ w'.saves -> f ∈ w.saves) :
    RegisterTrace (front ++ [a]) w' := by
  rcases h.keeps hstep with ⟨hshows, hanswered, -, hsaved⟩
  exact
    { shows := hshows
      waited := by
        rw [hgenerates, hbutton]
        exact h.waited
      disabled := by
        rw [hbutton]
        exact h.disabled
      modal := by
        rw [hdialog]
        rfl
      answered := hgenerates ▸ hanswered
      named := by
        rw [hdialog]
        rintro id ⟨⟩
      saved := fun f hf => hsaved f (hsaves f hf) }

theorem RegisterTrace.clickRegister (h : RegisterTrace front w)
    (hstep : webStep w .clickRegister = some w') :
    RegisterTrace (front ++ [.clickRegister]) w' := by
  rcases h.keeps hstep with ⟨hshows, hanswered, hnamed, hsaved⟩
  cases hstep
  cases hdisabled : w.script.button.disabled with
  | true =>
      have hno : w.script.button.click = (false, w.script.button) := by
        rw [RegisterButton.click, if_pos hdisabled]
      simp only [hno] at hanswered hnamed hsaved hshows ⊢
      exact ⟨hshows, h.waited, h.disabled, h.modal, hanswered, hnamed, hsaved⟩
  | false =>
      have hidle : w.script.button.busy = false := by
        by_contra hbusy
        rw [h.disabled (Bool.not_eq_false _ ▸ hbusy)] at hdisabled
        cases hdisabled
      have hyes : w.script.button.click =
          (true, { busy := true, disabled := true }) := by
        rw [RegisterButton.click, hdisabled, if_neg Bool.false_ne_true]
      simp only [hyes] at hanswered hnamed hsaved hshows ⊢
      refine ⟨hshows, ?_, fun _ => rfl, h.modal, ?_, hnamed, hsaved⟩
      · simp only [if_true, Fetch.send_length, h.waited, hidle]
        rfl
      · exact Fetch.forall_send hanswered (by simp)

theorem RegisterTrace.serveGenerate (h : RegisterTrace front w) {i : Nat}
    {behind : Nat -> UInt8} {faceId : UInt32} {opStatus : Int} {replied : Bool}
    (hroom : FindsRoom w (.serveGenerate i behind faceId opStatus replied))
    (hstep : webStep w (.serveGenerate i behind faceId opStatus replied) =
      some w') :
    RegisterTrace
      (front ++ [.serveGenerate i behind faceId opStatus replied]) w' := by
  rcases h.keeps hstep with ⟨hshows, hanswered, hnamed, hsaved⟩
  rcases Option.bind_eq_some_iff.mp hstep with ⟨_, hwaiting, hserved⟩
  rcases Option.map_eq_some_iff.mp hserved with ⟨served, hroute, rfl⟩
  refine ⟨hshows, ?_, h.disabled, h.modal, ?_, hnamed, hsaved⟩
  · rw [Fetch.answerWith_length]
    exact h.waited
  · apply Fetch.forall_answerWith hanswered hwaiting
    intro id hid
    rcases serveGenerate_reported h.shows hroom hroute (Option.some_inj.mp hid)
      with ⟨hsame, hmem, rfl, rfl⟩
    exact ⟨faceId, hsame, hmem, i, behind, by simp⟩

theorem RegisterTrace.registerComesBack (h : RegisterTrace front w) {i : Nat}
    {arrives : Bool}
    (hstep : webStep w (.registerComesBack i arrives) = some w') :
    RegisterTrace (front ++ [.registerComesBack i arrives]) w' := by
  rcases h.keeps hstep with ⟨hshows, hanswered, hnamed, hsaved⟩
  rcases Option.map_eq_some_iff.mp hstep with ⟨⟨came, rest⟩, hcame, rfl⟩
  rcases Fetch.comeBack_some hcame with ⟨hlength, hrest, hanswer⟩
  have hnone : rest.length = 0 := by
    have hone : w.generates.length ≤ 1 := h.waited ▸ Bool.toNat_le _
    lia
  have hothers : forall f, f ∈ rest -> forall id, f.answer = some (some id) ->
      FaceReported (front ++ [.registerComesBack i arrives]) _ id :=
    fun f hf => hanswered f (hrest f hf)
  rcases came with _ | _ | faceId
  · exact ⟨hshows, hnone, by simp [PageScript.registerCameBack], h.modal,
      hothers, hnamed, hsaved⟩
  · exact ⟨hshows, hnone, by simp [PageScript.registerCameBack], h.modal,
      hothers, hnamed, hsaved⟩
  · refine ⟨hshows, hnone, by simp [PageScript.registerCameBack], rfl, hothers,
      ?_, hsaved⟩
    rintro id ⟨⟩
    rcases hanswer _ rfl with ⟨-, r, hmem⟩
    exact hanswered _ hmem faceId rfl

/-- A request for a name is sent only for an identifier that is not 0. -/
theorem RegisterTrace.clickOk (h : RegisterTrace front w)
    (hstep : webStep w .clickOk = some w') :
    RegisterTrace (front ++ [.clickOk]) w' := by
  cases hlast : w.script.dialog.lastFaceIdResult with
  | none =>
      have hno : w.script.dialog.clickOk = (none, w.script.dialog) := by
        rw [FaceIdDialog.clickOk, hlast]
      have hsame := hstep
      rw [webStep, hno] at hsame
      cases hsame
      exact h.kept hstep rfl rfl rfl rfl rfl
  | some faceId =>
      by_cases hzero : faceId = 0
      · have hno : w.script.dialog.clickOk =
            (none, w.script.dialog.closeModal) := by
          rw [FaceIdDialog.clickOk, hlast]
          exact if_pos hzero
        have hclosed := hstep
        rw [webStep, hno] at hclosed
        cases hclosed
        exact h.closed hstep rfl rfl rfl fun _ hf => hf
      · have hyes : w.script.dialog.clickOk =
            (some ⟨faceId, trim w.script.dialog.fidNameIn⟩,
              w.script.dialog) := by
          rw [FaceIdDialog.clickOk, hlast]
          exact if_neg hzero
        rcases h.keeps hstep with ⟨hshows, hanswered, hnamed, hsaved⟩
        have hsent := hstep
        rw [webStep, hyes] at hsent
        cases hsent
        refine ⟨hshows, h.waited, h.disabled, h.modal, hanswered, hnamed, ?_⟩
        exact Fetch.forall_send hsaved ⟨hzero, hnamed faceId hlast, by simp⟩

theorem RegisterTrace.serveSave (h : RegisterTrace front w) {i : Nat}
    {behind : UInt8} (hstep : webStep w (.serveSave i behind) = some w') :
    RegisterTrace (front ++ [.serveSave i behind]) w' := by
  rcases h.keeps hstep with ⟨hshows, hanswered, hnamed, hsaved⟩
  rcases Option.bind_eq_some_iff.mp hstep with ⟨payload, hwaiting, hserved⟩
  rcases Option.map_eq_some_iff.mp hserved with ⟨served, hroute, rfl⟩
  refine ⟨hshows, h.waited, h.disabled, h.modal, hanswered, hnamed, ?_⟩
  have hmem := Fetch.mem_of_waiting hwaiting
  apply Fetch.forall_answerWith hsaved hwaiting
  refine ⟨(hsaved _ hmem).1, (hsaved _ hmem).2.1, ?_⟩
  rw [serveSave_saved h.shows (h.saved _ hmem).1 (h.saved _ hmem).2.1 hroute]
  simp

theorem RegisterTrace.saveComesBack (h : RegisterTrace front w) {i : Nat}
    {arrives : Bool}
    (hstep : webStep w (.saveComesBack i arrives) = some w') :
    RegisterTrace (front ++ [.saveComesBack i arrives]) w' := by
  rcases h.keeps hstep with ⟨hshows, hanswered, hnamed, hsaved⟩
  rcases Option.map_eq_some_iff.mp hstep with ⟨⟨came, rest⟩, hcame, hsame⟩
  rcases Fetch.comeBack_some hcame with ⟨-, hrest, -⟩
  rcases came with _ | _ | _
  · subst hsame
    exact ⟨hshows, h.waited, h.disabled, h.modal, hanswered, hnamed,
      fun f hf => hsaved f (hrest f hf)⟩
  · subst hsame
    exact ⟨hshows, h.waited, h.disabled, h.modal, hanswered, hnamed,
      fun f hf => hsaved f (hrest f hf)⟩
  · subst hsame
    exact h.closed hstep rfl rfl rfl hrest

/-- A poll enables or disables the button only when it is not busy. -/
theorem RegisterTrace.pollComesBack (h : RegisterTrace front w) {i : Nat}
    {arrives : Bool}
    (hstep : webStep w (.pollComesBack i arrives) = some w') :
    RegisterTrace (front ++ [.pollComesBack i arrives]) w' := by
  rcases h.keeps hstep with ⟨hshows, hanswered, hnamed, hsaved⟩
  rcases Option.map_eq_some_iff.mp hstep with ⟨⟨came, rest⟩, hcame, hsame⟩
  rcases came with _ | _ | det
  · subst hsame
    exact h.kept hstep rfl rfl rfl rfl rfl
  · subst hsame
    exact h.kept hstep rfl rfl rfl rfl rfl
  · subst hsame
    refine ⟨hshows, ?_, ?_, h.modal, hanswered, hnamed, hsaved⟩
    · rw [h.waited]
      simp only [PageScript.updateDashboard]
      split <;> rfl
    · simp only [PageScript.updateDashboard]
      split
      next hbusy =>
        exact h.disabled
      next hidle =>
        exact fun hbusy => absurd hbusy hidle

theorem RegisterTrace.step (h : RegisterTrace front w) (hroom : FindsRoom w a)
    (hstep : webStep w a = some w') : RegisterTrace (front ++ [a]) w' := by
  cases a with
  | clickRegister =>
      exact h.clickRegister hstep
  | serveGenerate i behind faceId opStatus replied =>
      exact h.serveGenerate hroom hstep
  | registerComesBack i arrives =>
      exact h.registerComesBack hstep
  | clickOk =>
      exact h.clickOk hstep
  | serveSave i behind =>
      exact h.serveSave hstep
  | saveComesBack i arrives =>
      exact h.saveComesBack hstep
  | pollComesBack i arrives =>
      exact h.pollComesBack hstep
  | closeDialog =>
      have hclosed := hstep
      cases hclosed
      exact h.closed hstep rfl rfl rfl fun _ hf => hf
  | okTimer =>
      rcases webStep_okTimer hstep with ⟨n, -, rfl⟩
      exact h.kept hstep rfl rfl rfl rfl rfl
  | serveListing i behind =>
      rcases Option.bind_eq_some_iff.mp hstep with ⟨_, -, hserved⟩
      rcases Option.map_eq_some_iff.mp hserved with ⟨served, -, rfl⟩
      exact h.kept hstep rfl rfl rfl rfl rfl
  | listingComesBack i arrives =>
      rcases Option.map_eq_some_iff.mp hstep with ⟨came, -, rfl⟩
      exact h.kept hstep rfl rfl rfl rfl rfl
  | servePoll i boxes =>
      rcases Option.map_eq_some_iff.mp hstep with ⟨_, -, rfl⟩
      exact h.kept hstep rfl rfl rfl rfl rfl
  | elsewhere action =>
      rcases Option.map_eq_some_iff.mp hstep with ⟨served, -, rfl⟩
      exact h.kept hstep rfl rfl rfl rfl rfl
  | _ =>
      have hdone := hstep
      cases hdone
      exact h.kept hstep rfl rfl rfl rfl rfl

end Registered

end KtApp
end GardHub
