import GardHub.Foundation.ListObjects
import GardHub.Foundation.Runs
import GardHub.KtApp.EventStream

/-!
# The boxes that are drawn

The listener calls back for one face after another and hands a frame over when
the last of them has come.  Another thread clears what is drawn when nothing has
come for a second.  Whoever draws takes a copy.
-/

namespace GardHub
namespace KtApp

open Foundation

/-! ## The entry of a face -/

/-- An entry of `face_ids.json`, what is read of it. -/
structure Profile where
  faceId : Option Int
  name : Option String

/-- The contents of `face_ids.json`: none if it cannot be read.  What is no
dictionary ends the search like an error. -/
abbrev FaceIds := Option (List (Option Profile))

def unidentified : String := "Unidentified Person"

def findLabel (faceId : Int) : List (Option Profile) -> String
  | [] => unidentified
  | none :: _ => unidentified
  | some profile :: rest =>
      if profile.faceId = some faceId then profile.name.getD unidentified
      else findLabel faceId rest

/-- `label` -/
def faceLabel (profiles : FaceIds) (faceId : Int) : String :=
  match profiles with
  | none => unidentified
  | some found => findLabel faceId found

/-- `face_entry` -/
structure FaceEntry where
  faceId : Int
  ideal : Int
  label : String
  x1 : Int
  y1 : Int
  x2 : Int
  y2 : Int
  icons : List Bool
deriving DecidableEq

/-- The entry for what the callback gets and finds in the file. -/
def faceEntry (profiles : FaceIds) (data : EventData) : FaceEntry :=
  { faceId := data.faceId
    ideal := data.ideal
    label := faceLabel profiles data.faceId
    x1 := data.left
    y1 := data.top
    x2 := data.right
    y2 := data.bottom
    icons := [data.glasses ≠ 0, data.gloves ≠ 0, data.hat ≠ 0] }

/-! ## The threads -/

/-- The calls of the callback for a frame. -/
def frameEvents (faces : List EventData) : List FaceEvent :=
  if faces = [] then [emptyFrameEvent]
  else faces.mapIdx fun i data => ⟨data, faces.length, i + 1⟩

/-- Where the listener is, with the calls of the frame that are still to come. -/
inductive ListenerAt where
  | calling (events : List FaceEvent)
  -- The last face has been accumulated, but not committed.
  | committing (events : List FaceEvent)
  -- The frame has been committed, but the time has not been taken.
  | stamping (events : List FaceEvent)

structure BoxState where
  lists : ListHeap FaceEntry
  bboxState : Nat
  bboxAccumulator : Nat
  lastEventTime : ℚ
  listener : ListenerAt
  -- `_bbox_generator_worker` has found the boxes stale.
  clearing : Bool

/-- The module has been loaded, and the threads have been started. -/
def boxStart : BoxState :=
  { lists := ⟨[[], []]⟩
    bboxState := 0
    bboxAccumulator := 1
    lastEventTime := 0
    listener := .calling []
    clearing := false }

/-- What a reader gets: `list(_bbox_state)` under the lock. -/
def copyBoxes (s : BoxState) : List FaceEntry :=
  s.lists.get s.bboxState

inductive BoxAction where
  -- The listener has read a frame.
  | frame (faces : List EventData)
  -- `ipc_event_callback` with `face_count == 0`, under the lock.
  | emptyFrame
  -- `ipc_event_callback` up to the accumulation.
  | accumulate (profiles : FaceIds)
  -- `_bbox_state = list(_bbox_accumulator)`, under the lock.
  | commit
  | stamp (now : ℚ)
  -- An exception, or the end of the connection.
  | reconnect
  -- The condition of `_bbox_generator_worker`.
  | check (now : ℚ)
  -- `_bbox_state.clear()`, under the lock.
  | clear

def bboxStaleTimeout : ℚ := 1

/-- A step of one of the threads, where it is its turn. -/
def boxStep (s : BoxState) : BoxAction -> Option BoxState
  | .frame faces =>
      match s.listener with
      | .calling [] => some { s with listener := .calling (frameEvents faces) }
      | _ => none
  | .emptyFrame =>
      match s.listener with
      | .calling (event :: rest) =>
          if event.faceCount = 0 then
            some { s with
              lists := (s.lists.make []).make []
              bboxState := s.lists.size
              bboxAccumulator := s.lists.size + 1
              listener := .calling rest }
          else none
      | _ => none
  | .accumulate profiles =>
      match s.listener with
      | .calling (event :: rest) =>
          if event.faceCount = 0 then none
          else
            let entry := faceEntry profiles event.data
            let listener :=
              if event.faceIndex = event.faceCount then ListenerAt.committing rest
              else .calling rest
            if event.faceIndex = 1 then
              some { s with
                lists := s.lists.make [entry]
                bboxAccumulator := s.lists.size
                listener := listener }
            else
              some { s with
                lists := s.lists.append s.bboxAccumulator entry
                listener := listener }
      | _ => none
  | .commit =>
      match s.listener with
      | .committing rest =>
          some { s with
            lists := s.lists.make (s.lists.get s.bboxAccumulator)
            bboxState := s.lists.size
            listener := .stamping rest }
      | _ => none
  | .stamp now =>
      match s.listener with
      | .stamping rest => some { s with lastEventTime := now, listener := .calling rest }
      | _ => none
  | .reconnect => some { s with listener := .calling [] }
  | .check now =>
      if s.clearing then none
      else
        some { s with
          clearing := s.lastEventTime ≠ 0 ∧ now - s.lastEventTime > bboxStaleTimeout }
  | .clear =>
      if s.clearing then
        some { s with lists := s.lists.clear s.bboxState, clearing := false }
      else none

/-! ## What a copy is to be -/

/-- What has happened, seen from outside: the faces of the frame that the
listener has read and what the calls for them have found in the file, and the
same for the frame that was completed last. -/
structure Observed where
  faces : List EventData
  files : List FaceIds
  completedFaces : List EventData
  completedFiles : List FaceIds

def observedStart : Observed :=
  ⟨[], [], [], []⟩

/-- A frame is completed by the last of its calls. -/
def observe (o : Observed) : BoxAction -> Observed
  | .frame faces => { o with faces := faces, files := [] }
  | .emptyFrame => { o with completedFaces := [], completedFiles := [] }
  | .accumulate profiles => { o with files := o.files ++ [profiles] }
  | .commit => { o with completedFaces := o.faces, completedFiles := o.files }
  | _ => o

/-- A list is empty, or has an entry for every face of the frame that was
completed last, in their order. -/
def WholeFrame (o : Observed) (boxes : List FaceEntry) : Prop :=
  boxes = [] ∨
    (o.completedFiles.length = o.completedFaces.length ∧
      boxes = List.zipWith faceEntry o.completedFiles o.completedFaces)

def watchedStep (w : BoxState × Observed) (a : BoxAction) :
    Option (BoxState × Observed) :=
  (boxStep w.1 a).map fun s => (s, observe w.2 a)

/-! ## The calls of a frame -/

/-- The calls that are to come when some of the faces have been through. -/
def callsFrom (faces : List EventData) (done : Nat) : List FaceEvent :=
  (frameEvents faces).drop done

/-- A pass of the listener makes the calls for some faces. -/
theorem listenerPass_frameEvents {stream : Type}
    {recvExact : Nat -> stream -> Option (List UInt8 × stream)} {sock rest : stream}
    {events : List FaceEvent} (h : listenerPass recvExact sock = some (events, rest)) :
    exists faces, events = frameEvents faces := by
  rcases Option.bind_eq_some_iff.mp h with ⟨header, _, hpass⟩
  dsimp only at hpass
  split at hpass
  next =>
    cases hpass
    exact ⟨[], rfl⟩
  next hcount =>
    rcases Option.map_eq_some_iff.mp hpass with ⟨payload, _, hevents⟩
    cases hevents
    refine ⟨(List.range (leValue header.1)).map fun i =>
      eventData ktAppFaceDataFields payload.1 (i * structSize ktAppFaceDataFields), ?_⟩
    rw [frameEvents, if_neg (by rwa [List.map_eq_nil_iff, List.range_eq_nil]),
      List.length_map, List.length_range]
    apply List.ext_getElem
    · rw [List.length_map, List.length_mapIdx, List.length_map]
    · intro i hi hi'
      rw [List.getElem_map, List.getElem_mapIdx, List.getElem_map, List.getElem_range]

theorem callsFrom_empty {event : FaceEvent} {rest : List FaceEvent} {done : Nat}
    (h : event :: rest = callsFrom [] done) :
    event.faceCount = 0 ∧ rest = [] := by
  cases done with
  | zero =>
      cases h
      exact ⟨rfl, rfl⟩
  | succ done =>
      cases done <;> cases h

theorem callsFrom_cons {faces : List EventData} {event : FaceEvent}
    {rest : List FaceEvent} {done : Nat} (hfaces : faces ≠ [])
    (h : event :: rest = callsFrom faces done) :
    exists hlt : done < faces.length,
      event = ⟨faces[done], faces.length, done + 1⟩ ∧
        rest = callsFrom faces (done + 1) := by
  rw [callsFrom, frameEvents, if_neg hfaces] at h
  have hlt : done < faces.length := by
    by_contra hge
    rw [List.drop_eq_nil_of_le (by rw [List.length_mapIdx]; lia)] at h
    cases h
  rw [List.drop_eq_getElem_cons (by rw [List.length_mapIdx]; exact hlt)] at h
  refine ⟨hlt, ?_, ?_⟩
  · rw [(List.cons.inj h).1, List.getElem_mapIdx]
  · rw [(List.cons.inj h).2, callsFrom, frameEvents, if_neg hfaces]

theorem callsFrom_length {faces : List EventData} (hfaces : faces ≠ []) :
    callsFrom faces faces.length = [] := by
  rw [callsFrom, frameEvents, if_neg hfaces]
  exact List.drop_eq_nil_of_le (by rw [List.length_mapIdx])

theorem zipWith_entry {files : List FaceIds} {faces : List EventData}
    (hlt : files.length < faces.length) (profiles : FaceIds) :
    List.zipWith faceEntry (files ++ [profiles]) faces =
      List.zipWith faceEntry files faces ++
        [faceEntry profiles faces[files.length]] := by
  induction files generalizing faces with
  | nil =>
      cases faces with
      | nil =>
          cases hlt
      | cons face later =>
          rfl
  | cons file files ih =>
      cases faces with
      | nil =>
          cases hlt
      | cons face later =>
          rw [List.cons_append, List.zipWith_cons_cons, List.zipWith_cons_cons,
            ih (Nat.lt_of_succ_lt_succ hlt)]
          rfl

/-! ## The invariant -/

/-- The entries of the frame so far. -/
def Observed.entries (o : Observed) : List FaceEntry :=
  List.zipWith faceEntry o.files o.faces

/-- How far the listener is with a frame, and what it has accumulated. -/
def UnderWay (o : Observed) (accumulated : List FaceEntry) : ListenerAt -> Prop
  | .calling [] => True
  | .calling (event :: rest) =>
      event :: rest = callsFrom o.faces o.files.length ∧
        (0 < o.files.length -> accumulated = o.entries)
  | .committing rest =>
      rest = [] ∧ o.files.length = o.faces.length ∧ accumulated = o.entries
  | .stamping rest => rest = []

theorem underWay_calling {o : Observed} {accumulated : List FaceEntry}
    {events : List FaceEvent} (hevents : events = callsFrom o.faces o.files.length)
    (haccumulated : 0 < o.files.length -> accumulated = o.entries) :
    UnderWay o accumulated (.calling events) := by
  cases events with
  | nil =>
      trivial
  | cons event rest =>
      exact ⟨hevents, haccumulated⟩

/-- The list that is drawn is a whole frame, and not the one that grows. -/
structure Consistent (w : BoxState × Observed) : Prop where
  stateMade : w.1.bboxState < w.1.lists.size
  accumulatorMade : w.1.bboxAccumulator < w.1.lists.size
  apart : w.1.bboxState ≠ w.1.bboxAccumulator
  whole : WholeFrame w.2 (copyBoxes w.1)
  underWay : UnderWay w.2 (w.1.lists.get w.1.bboxAccumulator) w.1.listener

theorem consistent_start : Consistent (boxStart, observedStart) :=
  ⟨by decide, by decide, by decide, Or.inl rfl, trivial⟩

section Steps

variable {s s' : BoxState} {o : Observed}

theorem consistent_frame {faces : List EventData} (h : Consistent (s, o))
    (hstep : boxStep s (.frame faces) = some s') :
    Consistent (s', observe o (.frame faces)) := by
  rw [boxStep] at hstep
  split at hstep
  next hlistener =>
    cases hstep
    exact ⟨h.stateMade, h.accumulatorMade, h.apart, h.whole,
      underWay_calling rfl (fun hpos => absurd hpos (Nat.lt_irrefl 0))⟩
  next =>
    cases hstep

theorem consistent_emptyFrame (h : Consistent (s, o))
    (hstep : boxStep s .emptyFrame = some s') :
    Consistent (s', observe o .emptyFrame) := by
  rw [boxStep] at hstep
  split at hstep
  next event rest hlistener =>
    split at hstep
    next hzero =>
      cases hstep
      have hunder := h.underWay
      rw [hlistener] at hunder
      have hrest : rest = [] := by
        by_cases hfaces : o.faces = []
        · exact (callsFrom_empty (hfaces ▸ hunder.1)).2
        · rcases callsFrom_cons hfaces hunder.1 with ⟨hlt, rfl, _⟩
          have hpos : 0 < o.faces.length := List.length_pos_of_ne_nil hfaces
          lia
      refine ⟨?_, ?_, ?_, Or.inl ?_, ?_⟩
      · simp only [ListHeap.size_make]
        lia
      · simp only [ListHeap.size_make]
        lia
      · exact (Nat.lt_succ_self _).ne
      · have hmade : s.lists.size < (s.lists.make []).size := by
          rw [ListHeap.size_make]
          lia
        exact (ListHeap.get_make_old hmade).trans ListHeap.get_make_new
      · rw [hrest]
        trivial
    next =>
      cases hstep
  next =>
    cases hstep

/-- The listener behind the call for a face. -/
theorem underWay_accumulated {faces : List EventData} {files : List FaceIds}
    {completedFaces : List EventData} {completedFiles : List FaceIds}
    {profiles : FaceIds} {accumulated : List FaceEntry} {event : FaceEvent}
    {rest : List FaceEvent} (hfaces : faces ≠ [])
    (hevents : event :: rest = callsFrom faces files.length)
    (haccumulated : accumulated =
      List.zipWith faceEntry (files ++ [profiles]) faces) :
    UnderWay ⟨faces, files ++ [profiles], completedFaces, completedFiles⟩ accumulated
      (if event.faceIndex = event.faceCount then .committing rest else .calling rest) := by
  rcases callsFrom_cons hfaces hevents with ⟨hlt, rfl, hrest⟩
  split
  next hlast =>
    have hlength : files.length + 1 = faces.length := hlast
    refine ⟨?_, ?_, haccumulated⟩
    · rw [hrest, hlength, callsFrom_length hfaces]
    · rw [List.length_append]
      exact hlength
  next =>
    apply underWay_calling
    · rw [List.length_append]
      exact hrest
    · intro _
      exact haccumulated

theorem consistent_accumulate {profiles : FaceIds} (h : Consistent (s, o))
    (hstep : boxStep s (.accumulate profiles) = some s') :
    Consistent (s', observe o (.accumulate profiles)) := by
  rw [boxStep] at hstep
  split at hstep
  next event rest hlistener =>
    split at hstep
    next =>
      cases hstep
    next hcount =>
      have hunder := h.underWay
      rw [hlistener] at hunder
      have hfaces : o.faces ≠ [] := by
        intro hnil
        exact hcount (callsFrom_empty (hnil ▸ hunder.1)).1
      rcases callsFrom_cons hfaces hunder.1 with ⟨hlt, hevent, -⟩
      have hindex : event.faceIndex = o.files.length + 1 := by rw [hevent]
      have hentry := zipWith_entry hlt profiles
      simp only at hstep
      split at hstep
      next hfirst =>
        -- The first face starts a list of its own.
        have hfiles : o.files = [] := List.eq_nil_of_length_eq_zero (by lia)
        cases hstep
        refine ⟨?_, ?_, h.stateMade.ne, ?_, ?_⟩
        · rw [ListHeap.size_make]
          exact Nat.lt_succ_of_lt h.stateMade
        · rw [ListHeap.size_make]
          exact Nat.lt_succ_self _
        · change WholeFrame _ ((s.lists.make _).get s.bboxState)
          rw [ListHeap.get_make_old h.stateMade]
          exact h.whole
        · apply underWay_accumulated hfaces hunder.1
          rw [hentry, hevent, ListHeap.get_make_new]
          simp only [hfiles, List.zipWith_nil_left, List.nil_append, List.length_nil]
      next hlater =>
        have hpos : 0 < o.files.length := by lia
        cases hstep
        refine ⟨?_, ?_, h.apart, ?_, ?_⟩
        · rw [ListHeap.size_append]
          exact h.stateMade
        · rw [ListHeap.size_append]
          exact h.accumulatorMade
        · change WholeFrame _ ((s.lists.put s.bboxAccumulator _).get s.bboxState)
          rw [ListHeap.get_put_other h.apart]
          exact h.whole
        · apply underWay_accumulated hfaces hunder.1
          rw [hentry, hevent, ListHeap.append, ListHeap.get_put_self h.accumulatorMade,
            hunder.2 hpos]
          rfl
  next =>
    cases hstep

/-- A copy of the frame is drawn from now on, and the frame is whole. -/
theorem copyBoxes_commit (h : Consistent (s, o)) (hstep : boxStep s .commit = some s') :
    o.files.length = o.faces.length ∧ copyBoxes s' = o.entries := by
  rw [boxStep] at hstep
  split at hstep
  next rest hlistener =>
    cases hstep
    have hunder := h.underWay
    rw [hlistener] at hunder
    refine ⟨hunder.2.1, ?_⟩
    change (s.lists.make _).get s.lists.size = _
    rw [ListHeap.get_make_new]
    exact hunder.2.2
  next =>
    cases hstep

theorem consistent_commit (h : Consistent (s, o))
    (hstep : boxStep s .commit = some s') : Consistent (s', observe o .commit) := by
  have hwhole : WholeFrame (observe o .commit) (copyBoxes s') :=
    Or.inr (copyBoxes_commit h hstep)
  rw [boxStep] at hstep
  split at hstep
  next rest hlistener =>
    cases hstep
    have hunder := h.underWay
    rw [hlistener] at hunder
    refine ⟨?_, ?_, h.accumulatorMade.ne', hwhole, hunder.1⟩
    · rw [ListHeap.size_make]
      exact Nat.lt_succ_self _
    · rw [ListHeap.size_make]
      exact Nat.lt_succ_of_lt h.accumulatorMade
  next =>
    cases hstep

/-- What is drawn is another list than the one that grows. -/
theorem consistent_clear (h : Consistent (s, o))
    (hstep : boxStep s .clear = some s') : Consistent (s', observe o .clear) := by
  rw [boxStep] at hstep
  split at hstep
  next =>
    cases hstep
    refine ⟨?_, ?_, h.apart, Or.inl ?_, ?_⟩
    · rw [ListHeap.size_clear]
      exact h.stateMade
    · rw [ListHeap.size_clear]
      exact h.accumulatorMade
    · exact ListHeap.get_put_self h.stateMade
    · change UnderWay o ((s.lists.put s.bboxState []).get s.bboxAccumulator) s.listener
      rw [ListHeap.get_put_other h.apart.symm]
      exact h.underWay
  next =>
    cases hstep

theorem consistent_stamp {now : ℚ} (h : Consistent (s, o))
    (hstep : boxStep s (.stamp now) = some s') :
    Consistent (s', observe o (.stamp now)) := by
  rw [boxStep] at hstep
  split at hstep
  next rest hlistener =>
    cases hstep
    have hunder := h.underWay
    rw [hlistener] at hunder
    refine ⟨h.stateMade, h.accumulatorMade, h.apart, h.whole, ?_⟩
    rw [hunder]
    trivial
  next =>
    cases hstep

theorem consistent_check {now : ℚ} (h : Consistent (s, o))
    (hstep : boxStep s (.check now) = some s') :
    Consistent (s', observe o (.check now)) := by
  rw [boxStep] at hstep
  split at hstep
  next =>
    cases hstep
  next =>
    cases hstep
    exact ⟨h.stateMade, h.accumulatorMade, h.apart, h.whole, h.underWay⟩

end Steps

theorem watchedStep_consistent (w : BoxState × Observed) (a : BoxAction)
    (w' : BoxState × Observed) (h : Consistent w) (hstep : watchedStep w a = some w') :
    Consistent w' := by
  rcases w with ⟨s, o⟩
  rcases Option.map_eq_some_iff.mp hstep with ⟨s', hs', rfl⟩
  cases a with
  | frame faces =>
      exact consistent_frame h hs'
  | emptyFrame =>
      exact consistent_emptyFrame h hs'
  | accumulate profiles =>
      exact consistent_accumulate h hs'
  | commit =>
      exact consistent_commit h hs'
  | stamp now =>
      exact consistent_stamp h hs'
  | reconnect =>
      cases hs'
      exact ⟨h.stateMade, h.accumulatorMade, h.apart, h.whole, trivial⟩
  | check now =>
      exact consistent_check h hs'
  | clear =>
      exact consistent_clear h hs'

/-- Whenever a reader takes its copy, in whatever order the threads take their
steps, it has nothing or a whole frame: the one that was completed last. -/
theorem copyBoxes_wholeFrame (actions : List BoxAction) :
    forall w, w ∈ (boxStart, observedStart) ::
        reachedStates watchedStep (boxStart, observedStart) actions ->
      WholeFrame w.2 (copyBoxes w.1) := by
  intro w hw
  rcases List.mem_cons.mp hw with rfl | hreached
  · exact consistent_start.whole
  · exact (reachedStates_invariant watchedStep_consistent consistent_start actions w
      hreached).whole

/-- A frame with one face, which is committed, and the first call for another one
that is cut short. -/
def oneFaceRun : List BoxAction :=
  [.frame [⟨7, 10, -1, 30, 40, 1, 0, 1, 1⟩], .accumulate (some [some ⟨some 7, some "User 7"⟩]),
    .commit, .stamp 5, .frame [⟨8, 0, 0, 9, 9, 0, 0, 0, 0⟩, ⟨0, 1, 1, 5, 5, 0, 0, 0, 0⟩],
    .accumulate none, .reconnect]

theorem copyBoxes_wholeFrame_oneFace :
    exists w, w ∈ reachedStates watchedStep (boxStart, observedStart) oneFaceRun ∧
      WholeFrame w.2 (copyBoxes w.1) ∧
      copyBoxes w.1 = [⟨7, 1, "User 7", 10, -1, 30, 40, [false, true, true]⟩] := by
  have hlast : (reachedStates watchedStep (boxStart, observedStart) oneFaceRun)[6]? =
      some _ := rfl
  have hmem := List.mem_of_getElem? hlast
  exact ⟨_, hmem, copyBoxes_wholeFrame oneFaceRun _ (List.mem_cons_of_mem _ hmem), rfl⟩

end KtApp
end GardHub
