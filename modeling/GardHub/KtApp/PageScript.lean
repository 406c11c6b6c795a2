import GardHub.KtApp.DrawnBoxes
import GardHub.KtApp.ProfileUpdate

/-!
# The script of the page

What `script.js` does about the faces when somebody clicks, when a timer goes off
and when a request comes back: the button that registers a face, the dialog for
its name, and the list of the profiles with a mark on those in the picture.  A
handler that sends a request says so beside the new state.
-/

namespace GardHub
namespace KtApp

/-!
## What is shown
-/

/-- A card of `clnx-profiles-list`, with its two marks.  `nameHtml` is what
`innerHTML` gets for the name: it is parsed as markup, not shown as text. -/
structure ProfileCard where
  faceId : Int
  nameHtml : List Char
  active : Bool
  indicator : Bool
deriving DecidableEq

/-- The button of class `gen-face-id-btn`. -/
structure RegisterButton where
  busy : Bool
  disabled : Bool
deriving DecidableEq

/-- The dialog of `initFaceId`. -/
structure FaceIdDialog where
  lastFaceIdResult : Option Int
  modal : Bool
  fidIdVal : Option Int
  fidNameIn : List Char
  fidNameRow : Bool
deriving DecidableEq

/-- What `initProfilesDropdown` keeps and shows. -/
structure ProfilesDropdown where
  toggle : Bool
  dropdown : Bool
  loaded : Bool
  fetchInFlight : Bool
  loader : Bool
  empty : Bool
  list : Bool
  countBadge : Option Nat
  hasCount : Bool
  cards : List ProfileCard
  activeFaceIds : List Int
deriving DecidableEq

structure PageScript where
  button : RegisterButton
  dialog : FaceIdDialog
  profiles : ProfilesDropdown
deriving DecidableEq

/-- The page has been loaded. -/
def pageScriptStart : PageScript :=
  { button := { busy := false, disabled := true }
    dialog :=
      { lastFaceIdResult := none
        modal := false
        fidIdVal := none
        fidNameIn := []
        fidNameRow := false }
    profiles :=
      { toggle := false
        dropdown := false
        loaded := false
        fetchInFlight := false
        loader := true
        empty := false
        list := false
        countBadge := none
        hasCount := false
        cards := []
        activeFaceIds := [] } }

/-- What `/api/update_face_id` is asked for. -/
structure SavePayload where
  faceId : Int
  name : List Char
deriving DecidableEq

/-- The characters that `String.prototype.trim` takes away. -/
def isScriptSpace (c : Char) : Bool :=
  let n := c.toNat
  (0x09 ≤ n && n ≤ 0x0D) || n = 0x20 || n = 0xA0 || n = 0x1680 ||
    (0x2000 ≤ n && n ≤ 0x200A) || n = 0x2028 || n = 0x2029 || n = 0x202F ||
    n = 0x205F || n = 0x3000 || n = 0xFEFF

/-- `trim` -/
def trim (text : List Char) : List Char :=
  ((text.dropWhile isScriptSpace).reverse.dropWhile isScriptSpace).reverse

/-!
## The button and the dialog
-/

namespace FaceIdDialog

/-- `openModal`.  A name can be given only with an identifier that is not 0. -/
def openModal (faceId : Int) : FaceIdDialog :=
  { lastFaceIdResult := some faceId
    fidIdVal := some faceId
    fidNameIn := []
    fidNameRow := faceId ≠ 0
    modal := true }

variable (d : FaceIdDialog)

/-- `closeModal` -/
def closeModal : FaceIdDialog :=
  { d with modal := false, lastFaceIdResult := none }

/-- A click on "OK", and the request for the name. -/
def clickOk : Option SavePayload × FaceIdDialog :=
  match d.lastFaceIdResult with
  | none => (none, d)
  | some faceId =>
      if faceId = 0 then (none, d.closeModal)
      else (some ⟨faceId, trim d.fidNameIn⟩, d)

/-- The request for the name has come back. -/
def saveCameBack (answer : Option Bool) : FaceIdDialog :=
  match answer with
  | some true => d.closeModal
  | some false => d
  | none => d

end FaceIdDialog

/-- A click on the button, which a browser does not pass on if it is disabled:
whether a face is to be registered. -/
def RegisterButton.click (b : RegisterButton) : Bool × RegisterButton :=
  if b.disabled then (false, b)
  else (true, { busy := true, disabled := true })

/-- The request of the button has come back with an identifier, with an error, or
not at all. -/
def PageScript.registerCameBack (p : PageScript)
    (answer : Option (Option Int)) : PageScript :=
  let free := { p with button := { busy := false, disabled := false } }
  match answer with
  | some (some faceId) => { free with dialog := .openModal faceId }
  | some none => free
  | none => free

/-!
## The list of the profiles
-/

/-- The filter of `fetchProfiles`, behind the profiles with some identifiers. -/
def firstProfiles (seen : List UInt32) : List ClientProfile ->
    List ClientProfile
  | [] => []
  | p :: rest =>
      if p.faceId ∈ seen then firstProfiles seen rest
      else p :: firstProfiles (p.faceId :: seen) rest

/-- The card of a profile.  Nothing in the name is escaped. -/
def profileCard (activeFaceIds : List Int) (p : ClientProfile) : ProfileCard :=
  let isActive : Bool := (p.faceId.toNat : Int) ∈ activeFaceIds
  { faceId := p.faceId.toNat
    nameHtml := if p.name = [] then "Unnamed".toList else p.name
    active := isActive
    indicator := isActive }

namespace ProfilesDropdown

variable (p : ProfilesDropdown)

/-- `fetchProfiles`, and whether the profiles are asked for. -/
def fetchProfiles : Bool × ProfilesDropdown :=
  if p.fetchInFlight then (false, p)
  else
    (true,
      { p with
        fetchInFlight := true
        loader := true
        empty := false
        list := false
        cards := [] })

/-- The profiles have come: none of them if the server could not get them.  Or
the request has failed. -/
def profilesCameBack (answer : Option (List ClientProfile)) :
    ProfilesDropdown :=
  match answer with
  | none => { p with loader := false, empty := true, fetchInFlight := false }
  | some raw =>
      let profiles := firstProfiles [] raw
      let counted :=
        { p with
          loader := false
          countBadge := some profiles.length
          hasCount := 0 < profiles.length
          fetchInFlight := false }
      if profiles = [] then { counted with empty := true }
      else
        { counted with
          cards := profiles.map (profileCard p.activeFaceIds)
          list := true }

/-- A click on the toggle. -/
def clickToggle : Bool × ProfilesDropdown :=
  let isOpen := !p.toggle
  let p := { p with toggle := isOpen, dropdown := isOpen }
  if isOpen && !p.loaded then { p with loaded := true }.fetchProfiles
  else (false, p)

/-- The timer that is set when "OK" is clicked. -/
def okTimer : Bool × ProfilesDropdown :=
  if p.toggle then p.fetchProfiles
  else (false, { p with loaded := false })

/-- `_refreshProfileCards` -/
def refreshProfileCards (activeIds : List Int) : ProfilesDropdown :=
  { p with
    activeFaceIds := activeIds
    cards := p.cards.map fun card =>
      { card with
        active := card.faceId ∈ activeIds
        indicator := card.faceId ∈ activeIds } }

end ProfilesDropdown

/-!
## What the list looks like
-/

/-- One of the three parts of the list is shown, which is the loader while the
profiles are asked for; there are cards only in the list. -/
structure ProfilesDropdown.Whole (p : ProfilesDropdown) : Prop where
  loading : p.fetchInFlight = true -> p.loader = true
  onePart : p.loader.toNat + p.empty.toNat + p.list.toNat = 1
  noCards : p.list = false -> p.cards = []

/-- The parts and the cards are left as they are. -/
structure ProfilesDropdown.SameParts (p q : ProfilesDropdown) : Prop where
  fetchInFlight : q.fetchInFlight = p.fetchInFlight
  loader : q.loader = p.loader
  empty : q.empty = p.empty
  list : q.list = p.list
  cards : q.cards = p.cards
  activeFaceIds : q.activeFaceIds = p.activeFaceIds

/-- The list has been cleared for the profiles that are to come. -/
structure ProfilesDropdown.Cleared (q : ProfilesDropdown) : Prop where
  fetchInFlight : q.fetchInFlight = true
  loader : q.loader = true
  empty : q.empty = false
  list : q.list = false
  cards : q.cards = []

/-- Either nothing is asked for and nothing changes, or the profiles are asked
for, which they were not before. -/
def ProfilesDropdown.AsksOnce (p : ProfilesDropdown)
    (done : Bool × ProfilesDropdown) : Prop :=
  (done.1 = false ∧ p.SameParts done.2) ∨
    (done.1 = true ∧ p.fetchInFlight = false ∧ done.2.Cleared)

namespace ProfilesDropdown

variable {p q : ProfilesDropdown}

theorem fetchProfiles_asksOnce (p : ProfilesDropdown) :
    p.AsksOnce p.fetchProfiles := by
  rw [fetchProfiles]
  split
  next hinFlight =>
    exact Or.inl ⟨rfl, rfl, rfl, rfl, rfl, rfl, rfl⟩
  next hinFlight =>
    exact Or.inr ⟨rfl, Bool.eq_false_iff.mpr hinFlight, rfl, rfl, rfl, rfl, rfl⟩

/-- The toggle and the flag for what has been loaded are not parts. -/
theorem AsksOnce.of_sameParts {done : Bool × ProfilesDropdown}
    (h : q.AsksOnce done) (hsame : p.SameParts q) : p.AsksOnce done := by
  rcases h with ⟨hno, h⟩ | ⟨hyes, hidle, hcleared⟩
  · exact Or.inl ⟨hno, h.fetchInFlight.trans hsame.fetchInFlight,
      h.loader.trans hsame.loader, h.empty.trans hsame.empty,
      h.list.trans hsame.list, h.cards.trans hsame.cards,
      h.activeFaceIds.trans hsame.activeFaceIds⟩
  · exact Or.inr ⟨hyes, hsame.fetchInFlight ▸ hidle, hcleared⟩

theorem clickToggle_asksOnce (p : ProfilesDropdown) :
    p.AsksOnce p.clickToggle := by
  rw [clickToggle]
  split
  · exact (fetchProfiles_asksOnce _).of_sameParts
      ⟨rfl, rfl, rfl, rfl, rfl, rfl⟩
  · exact Or.inl ⟨rfl, rfl, rfl, rfl, rfl, rfl, rfl⟩

theorem okTimer_asksOnce (p : ProfilesDropdown) : p.AsksOnce p.okTimer := by
  rw [okTimer]
  split
  · exact fetchProfiles_asksOnce p
  · exact Or.inl ⟨rfl, rfl, rfl, rfl, rfl, rfl, rfl⟩

theorem SameParts.whole (hsame : p.SameParts q) (h : p.Whole) : q.Whole where
  loading := by
    rw [hsame.fetchInFlight, hsame.loader]
    exact h.loading
  onePart := by
    rw [hsame.loader, hsame.empty, hsame.list]
    exact h.onePart
  noCards := by
    rw [hsame.list, hsame.cards]
    exact h.noCards

theorem Cleared.whole (h : q.Cleared) : q.Whole where
  loading := fun _ => h.loader
  onePart := by simp [h.loader, h.empty, h.list]
  noCards := fun _ => h.cards

theorem AsksOnce.whole {done : Bool × ProfilesDropdown} (h : p.AsksOnce done)
    (hp : p.Whole) : done.2.Whole := by
  rcases h with ⟨-, hsame⟩ | ⟨-, -, hcleared⟩
  · exact hsame.whole hp
  · exact hcleared.whole

/-- Nobody is left out if the identifiers are all different. -/
theorem firstProfiles_eq {seen : List UInt32} {profiles : List ClientProfile}
    (hdistinct : (profiles.map ClientProfile.faceId).Nodup)
    (hnew : forall p, p ∈ profiles -> p.faceId ∉ seen) :
    firstProfiles seen profiles = profiles := by
  induction profiles generalizing seen with
  | nil =>
      rfl
  | cons p rest ih =>
      rw [List.map_cons, List.nodup_cons] at hdistinct
      rw [firstProfiles, if_neg (hnew p List.mem_cons_self)]
      congr 1
      apply ih hdistinct.2
      intro q hq hmem
      rcases List.mem_cons.mp hmem with hsame | hseen
      · exact hdistinct.1 (hsame ▸ List.mem_map_of_mem hq)
      · exact hnew q (List.mem_cons_of_mem p hq) hseen

/-- Of an answer that has been waited for, a list is made if there is anybody in
it. -/
theorem profilesCameBack_whole (h : p.Whole) (hwaited : p.fetchInFlight = true)
    (answer : Option (List ClientProfile)) :
    (p.profilesCameBack answer).Whole ∧
      (p.profilesCameBack answer).fetchInFlight = false ∧
      ((p.profilesCameBack answer).list = true -> exists raw,
        answer = some raw ∧
          (p.profilesCameBack answer).cards =
            (firstProfiles [] raw).map
              (profileCard (p.profilesCameBack answer).activeFaceIds)) := by
  have hparts := h.onePart
  rw [h.loading hwaited, Bool.toNat_true] at hparts
  have hempty : p.empty = false := Bool.toNat_eq_zero.mp (by lia)
  have hlist : p.list = false := Bool.toNat_eq_zero.mp (by lia)
  have hcards := h.noCards hlist
  cases answer with
  | none =>
      exact ⟨⟨by simp [profilesCameBack], by simp [profilesCameBack, hlist],
        fun _ => hcards⟩, rfl, by simp [profilesCameBack, hlist]⟩
  | some raw =>
      simp only [profilesCameBack]
      split
      · exact ⟨⟨by simp, by simp [hlist], fun _ => hcards⟩, rfl,
          by simp [hlist]⟩
      · exact ⟨⟨by simp, by simp [hempty], by simp⟩, rfl,
          fun _ => ⟨raw, rfl, rfl⟩⟩

theorem fetchProfiles_activeFaceIds (p : ProfilesDropdown) :
    p.fetchProfiles.2.activeFaceIds = p.activeFaceIds := by
  rw [fetchProfiles]
  split <;> rfl

theorem clickToggle_activeFaceIds (p : ProfilesDropdown) :
    p.clickToggle.2.activeFaceIds = p.activeFaceIds := by
  rw [clickToggle]
  split
  · exact fetchProfiles_activeFaceIds _
  · rfl

theorem okTimer_activeFaceIds (p : ProfilesDropdown) :
    p.okTimer.2.activeFaceIds = p.activeFaceIds := by
  rw [okTimer]
  split
  · exact fetchProfiles_activeFaceIds p
  · rfl

theorem profilesCameBack_activeFaceIds (p : ProfilesDropdown)
    (answer : Option (List ClientProfile)) :
    (p.profilesCameBack answer).activeFaceIds = p.activeFaceIds := by
  cases answer with
  | none =>
      rfl
  | some raw =>
      simp only [profilesCameBack]
      split <;> rfl

theorem refreshProfileCards_whole (h : p.Whole) (ids : List Int) :
    (p.refreshProfileCards ids).Whole where
  loading := h.loading
  onePart := h.onePart
  noCards := fun hlist => by
    rw [refreshProfileCards, h.noCards hlist]
    rfl

theorem refreshProfileCards_cards {profiles : List ClientProfile}
    (h : p.cards = profiles.map (profileCard p.activeFaceIds))
    (ids : List Int) :
    (p.refreshProfileCards ids).cards = profiles.map (profileCard ids) := by
  rw [refreshProfileCards, h, List.map_map]
  rfl

end ProfilesDropdown

/-!
## The poll
-/

/-- The identifiers in the picture, with `detected_face_ids`, which the server
does not send. -/
def activeIds (faceId : Option Int) (detectedFaceIds : List Int) : List Int :=
  detectedFaceIds.foldl
    (fun ids id => if id ≠ 0 ∧ id ∉ ids then ids ++ [id] else ids)
    (faceId.toList.filter (· ≠ 0))

/-- `updateDashboard`, where `/api/live_detection` has answered.  The button is
left alone while its request is under way. -/
def PageScript.updateDashboard (p : PageScript) (det : LiveDetection)
    (detectedFaceIds : List Int) : PageScript :=
  { p with
    button :=
      if p.button.busy then p.button
      else { p.button with disabled := !det.canRegisterFace }
    profiles := p.profiles.refreshProfileCards
      (activeIds det.faceId detectedFaceIds) }

end KtApp
end GardHub
