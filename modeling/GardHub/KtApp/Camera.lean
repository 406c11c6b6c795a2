import GardHub.Foundation.Lists
import GardHub.Foundation.Runs

/-!
# Starting and stopping a camera

Pages of the browser start and stop a camera while generators read frames from
it.  Whoever stops it tells the generators to leave, waits until none is counted
any more, and releases the camera.
-/

namespace GardHub
namespace KtApp

open Foundation

/-! ## The threads -/

inductive CameraStatus where
  | stopped
  | running
  | error
deriving DecidableEq

/-- Where a call of `start_camera` or `stop_camera` is. -/
inductive CallAt where
  -- `start_camera` has cleared the flag.
  | cleared
  -- `start_camera` has reset the counter.
  | reset
  -- `stop_camera` has set the flag, and waits.
  | waiting
  -- `stop_camera` has seen that there is no generator.
  | sawZero
  -- `stop_camera` has waited for too long.
  | timedOut
  | returned
deriving DecidableEq

/-- Where a generator is that has entered. -/
inductive GeneratorAt where
  -- At the top of its loop, or behind the `sleep` in it: before the two looks at
  -- the flag.
  | looping
  | slept
  -- It is going to take the stream.
  | passed
  -- It reads from the stream, or has yielded what it has read.
  | reading
  -- In its `finally`.
  | leaving
  | left
deriving DecidableEq

/-- The context of a camera, and the threads that work with it. -/
structure Camera where
  stopFlag : Bool
  activeGenerators : Int
  -- Whether `camera_stream` is an open camera.
  cameraStream : Bool
  cameraStatus : CameraStatus
  calls : List CallAt
  generators : List GeneratorAt

/-- `setup_camera` -/
def setUpCamera : Camera :=
  { stopFlag := false
    activeGenerators := 0
    cameraStream := false
    cameraStatus := .stopped
    calls := []
    generators := [] }

/-- What becomes of the attempt to open the camera. -/
inductive OpenOutcome where
  | opened
  | notOpened
  | raised

/-- A step of one of the threads; what stands under a lock is one step. -/
inductive CameraAction where
  | startClear
  | startReset (call : Nat)
  | startOpen (call : Nat) (outcome : OpenOutcome)
  | stopSet
  | stopLook (call : Nat)
  | stopTimeout (call : Nat)
  | stopRelease (call : Nat)
  | generatorEnter
  | generatorLook (generator : Nat)
  | generatorTake (generator : Nat)
  | generatorNext (generator : Nat)
  | generatorQuit (generator : Nat)
  | generatorLeave (generator : Nat)

/-- Let a call go on. -/
def Camera.callTo (s : Camera) (call : Nat) (next : CallAt) : Camera :=
  { s with calls := s.calls.set call next }

/-- Let a generator go on. -/
def Camera.generatorTo (s : Camera) (generator : Nat) (next : GeneratorAt) : Camera :=
  { s with generators := s.generators.set generator next }

def cameraStep (s : Camera) : CameraAction -> Option Camera
  | .startClear =>
      some { s with stopFlag := false, calls := s.calls ++ [.cleared] }
  | .startReset call =>
      if s.calls[call]? = some .cleared then
        some { s.callTo call .reset with activeGenerators := 0 }
      else none
  | .startOpen call outcome =>
      if s.calls[call]? = some .reset then
        let s := s.callTo call .returned
        if s.cameraStream then some s
        else
          match outcome with
          | .opened => some { s with cameraStream := true, cameraStatus := .running }
          | .notOpened => some { s with cameraStatus := .error }
          | .raised => some s
      else none
  | .stopSet =>
      some { s with stopFlag := true, calls := s.calls ++ [.waiting] }
  | .stopLook call =>
      if s.calls[call]? = some .waiting then
        if s.activeGenerators = 0 then some (s.callTo call .sawZero) else some s
      else none
  | .stopTimeout call =>
      if s.calls[call]? = some .waiting then
        let s := s.callTo call .timedOut
        if s.activeGenerators > 0 then some { s with activeGenerators := 0 } else some s
      else none
  | .stopRelease call =>
      if s.calls[call]? = some .sawZero ∨ s.calls[call]? = some .timedOut then
        let s := s.callTo call .returned
        if s.cameraStream then
          some { s with cameraStream := false, cameraStatus := .stopped }
        else some s
      else none
  | .generatorEnter =>
      some { s with
        activeGenerators := s.activeGenerators + 1
        generators := s.generators ++ [.looping] }
  | .generatorLook generator =>
      match s.generators[generator]? with
      | some .looping =>
          some (s.generatorTo generator (if s.stopFlag then .leaving else .slept))
      | some .slept =>
          some (s.generatorTo generator (if s.stopFlag then .leaving else .passed))
      | _ => none
  | .generatorTake generator =>
      if s.generators[generator]? = some .passed then
        if s.cameraStatus = .running ∧ s.cameraStream then
          some (s.generatorTo generator .reading)
        else some (s.generatorTo generator .leaving)
      else none
  | .generatorNext generator =>
      if s.generators[generator]? = some .reading then
        some (s.generatorTo generator .looping)
      else none
  | .generatorQuit generator =>
      -- A `break`, an exception, or the reader of the frames has gone.
      match s.generators[generator]? with
      | none | some .leaving | some .left => none
      | some _ => some (s.generatorTo generator .leaving)
  | .generatorLeave generator =>
      if s.generators[generator]? = some .leaving then
        some { s.generatorTo generator .left with
          activeGenerators := max 0 (s.activeGenerators - 1) }
      else none

/-! ## What is to hold -/

def GeneratorAt.isInside (place : GeneratorAt) : Bool :=
  place ≠ .left

/-- The number of generators that have entered and not left. -/
def Camera.inside (s : Camera) : Nat :=
  s.generators.countP GeneratorAt.isInside

/-- The counter counts the generators, and a call that has seen 0 and goes on to
release the camera finds no generator that reads from it. -/
structure WaitsForGenerators (s : Camera) : Prop where
  counted : s.activeGenerators = s.inside
  unused : .sawZero ∈ s.calls -> .reading ∉ s.generators

instance (s : Camera) : Decidable (WaitsForGenerators s) :=
  decidable_of_iff (s.activeGenerators = s.inside ∧
      (.sawZero ∈ s.calls -> .reading ∉ s.generators))
    ⟨fun h => ⟨h.1, h.2⟩, fun h => ⟨h.1, h.2⟩⟩

/-- The steps that keep this: the counter is reset while there is no generator
to count, and no generator takes the stream from a call that is going to release
it. -/
def CountIsKept (s : Camera) : CameraAction -> Prop
  | .startReset _ => s.inside = 0
  | .stopTimeout _ => s.inside = 0
  | .generatorTake _ =>
      s.cameraStatus = .running -> s.cameraStream = true -> .sawZero ∉ s.calls
  | _ => True

/-- A call of `stop_camera` between setting the flag and its release, unless it
has waited for too long. -/
def CallAt.isStopping (call : CallAt) : Bool :=
  call = .waiting ∨ call = .sawZero

/-- The same in terms of the calls: no `start_camera` takes the flag back from a
`stop_camera`, or resets the counter of generators that run. -/
def StartsApart (s : Camera) : CameraAction -> Prop
  | .startClear => forall call, call ∈ s.calls -> call.isStopping = false
  | .startReset _ => s.inside = 0
  | .stopTimeout _ => s.inside = 0
  | _ => True

instance : forall (s : Camera) (a : CameraAction), Decidable (StartsApart s a)
  | s, .startClear =>
      inferInstanceAs (Decidable (forall call, call ∈ s.calls -> call.isStopping = false))
  | s, .startReset _ => inferInstanceAs (Decidable (s.inside = 0))
  | s, .stopTimeout _ => inferInstanceAs (Decidable (s.inside = 0))
  | _, .startOpen _ _ | _, .stopSet | _, .stopLook _ | _, .stopRelease _
  | _, .generatorEnter | _, .generatorLook _ | _, .generatorTake _
  | _, .generatorNext _ | _, .generatorQuit _ | _, .generatorLeave _ => isTrue trivial

/-! ## One step -/

section Step

variable {s s' : Camera}

theorem inside_generatorTo {generator : Nat} {place : GeneratorAt} (next : GeneratorAt)
    (hplace : s.generators[generator]? = some place) :
    (s.generatorTo generator next).inside + (if place.isInside then 1 else 0) =
      s.inside + (if next.isInside then 1 else 0) :=
  countP_set_add next hplace

theorem reading_of_generatorTo {generator : Nat} {next : GeneratorAt}
    (h : .reading ∈ (s.generatorTo generator next).generators) :
    .reading ∈ s.generators ∨ .reading = next :=
  List.mem_or_eq_of_mem_set h

theorem inside_pos_of_reading (h : .reading ∈ s.generators) : 0 < s.inside :=
  List.countP_pos_iff.mpr ⟨.reading, h, rfl⟩

theorem WaitsForGenerators.generatorTo {generator : Nat} {place next : GeneratorAt}
    (h : WaitsForGenerators s) (hplace : s.generators[generator]? = some place)
    (hinside : place.isInside = true) (hnext : next.isInside = true)
    (hread : next = .reading -> .sawZero ∉ s.calls) :
    WaitsForGenerators (s.generatorTo generator next) where
  counted := by
    have hcount := inside_generatorTo next hplace
    rw [if_pos hinside, if_pos hnext] at hcount
    change s.activeGenerators = _
    rw [h.counted]
    lia
  unused := by
    intro hzero hreading
    rcases reading_of_generatorTo hreading with hold | hnew
    · exact h.unused hzero hold
    · exact hread hnew.symm hzero

/-- A call has gone on, and has left the counter at a value.  The flag and the
generators are what they were. -/
structure GoneOn (s : Camera) (call : Nat) (next : CallAt) (counter : Int)
    (s' : Camera) : Prop where
  flag : s'.stopFlag = s.stopFlag
  counter : s'.activeGenerators = counter
  calls : s'.calls = s.calls.set call next
  generators : s'.generators = s.generators

theorem startReset_goneOn {call : Nat}
    (hstep : cameraStep s (.startReset call) = some s') :
    GoneOn s call .reset 0 s' := by
  rw [cameraStep] at hstep
  split at hstep <;> cases hstep
  exact ⟨rfl, rfl, rfl, rfl⟩

theorem startOpen_goneOn {call : Nat} {outcome : OpenOutcome}
    (hstep : cameraStep s (.startOpen call outcome) = some s') :
    GoneOn s call .returned s.activeGenerators s' := by
  rw [cameraStep] at hstep
  split at hstep
  next =>
    dsimp only at hstep
    split at hstep
    next =>
      cases hstep
      exact ⟨rfl, rfl, rfl, rfl⟩
    next =>
      cases outcome <;> cases hstep <;> exact ⟨rfl, rfl, rfl, rfl⟩
  next =>
    cases hstep

theorem stopTimeout_goneOn {call : Nat}
    (hstep : cameraStep s (.stopTimeout call) = some s') :
    GoneOn s call .timedOut (min 0 s.activeGenerators) s' := by
  rw [cameraStep] at hstep
  split at hstep
  next =>
    dsimp only at hstep
    split at hstep
    next hpos =>
      cases hstep
      exact ⟨rfl, (min_eq_left hpos.le).symm, rfl, rfl⟩
    next hnone =>
      cases hstep
      exact ⟨rfl, (min_eq_right (not_lt.mp hnone)).symm, rfl, rfl⟩
  next =>
    cases hstep

theorem stopRelease_goneOn {call : Nat}
    (hstep : cameraStep s (.stopRelease call) = some s') :
    GoneOn s call .returned s.activeGenerators s' := by
  rw [cameraStep] at hstep
  split at hstep
  next =>
    dsimp only at hstep
    split at hstep <;> cases hstep <;> exact ⟨rfl, rfl, rfl, rfl⟩
  next =>
    cases hstep

/-- A call that has not just seen 0 keeps the count exactly if it leaves the
counter at it. -/
theorem waits_goneOn {call : Nat} {next : CallAt} {counter : Int}
    (h : WaitsForGenerators s) (hnext : next ≠ .sawZero)
    (hgone : GoneOn s call next counter s') :
    WaitsForGenerators s' <-> counter = s.inside := by
  have hinside : s'.inside = s.inside := by
    rw [Camera.inside, hgone.generators]
    rfl
  constructor
  · intro hwaits
    rw [← hgone.counter, ← hinside]
    exact hwaits.counted
  · intro hcounter
    constructor
    · rw [hgone.counter, hinside]
      exact hcounter
    · rw [hgone.calls, hgone.generators]
      intro hzero
      rcases List.mem_or_eq_of_mem_set hzero with hold | hnew
      · exact h.unused hold
      · exact absurd hnew.symm hnext

theorem WaitsForGenerators.newCall {call : CallAt} (h : WaitsForGenerators s)
    (flag : Bool) (hcall : call ≠ .sawZero) :
    WaitsForGenerators { s with stopFlag := flag, calls := s.calls ++ [call] } where
  counted := h.counted
  unused := by
    intro hzero
    rcases List.mem_append.mp hzero with hold | hnew
    · exact h.unused hold
    · exact absurd (List.mem_singleton.mp hnew).symm hcall

theorem waits_startClear (h : WaitsForGenerators s)
    (hstep : cameraStep s .startClear = some s') : WaitsForGenerators s' := by
  cases hstep
  exact h.newCall false (by decide)

theorem waits_stopSet (h : WaitsForGenerators s)
    (hstep : cameraStep s .stopSet = some s') : WaitsForGenerators s' := by
  cases hstep
  exact h.newCall true (by decide)

theorem waits_startReset {call : Nat} (h : WaitsForGenerators s)
    (hstep : cameraStep s (.startReset call) = some s') :
    WaitsForGenerators s' <-> s.inside = 0 := by
  rw [waits_goneOn h (by decide) (startReset_goneOn hstep)]
  lia

theorem waits_startOpen {call : Nat} {outcome : OpenOutcome}
    (h : WaitsForGenerators s)
    (hstep : cameraStep s (.startOpen call outcome) = some s') :
    WaitsForGenerators s' :=
  (waits_goneOn h (by decide) (startOpen_goneOn hstep)).mpr h.counted

/-- A call that sees 0 sees that nobody is left. -/
theorem waits_stopLook {call : Nat} (h : WaitsForGenerators s)
    (hstep : cameraStep s (.stopLook call) = some s') : WaitsForGenerators s' := by
  rw [cameraStep] at hstep
  split at hstep
  next =>
    split at hstep
    next hzero =>
      cases hstep
      refine ⟨h.counted, ?_⟩
      intro _ hreading
      have hpos : 0 < s.inside := inside_pos_of_reading hreading
      have hcounted := h.counted
      lia
    next =>
      cases hstep
      exact h
  next =>
    cases hstep

theorem waits_stopTimeout {call : Nat} (h : WaitsForGenerators s)
    (hstep : cameraStep s (.stopTimeout call) = some s') :
    WaitsForGenerators s' <-> s.inside = 0 := by
  rw [waits_goneOn h (by decide) (stopTimeout_goneOn hstep), h.counted]
  lia

theorem waits_stopRelease {call : Nat} (h : WaitsForGenerators s)
    (hstep : cameraStep s (.stopRelease call) = some s') : WaitsForGenerators s' :=
  (waits_goneOn h (by decide) (stopRelease_goneOn hstep)).mpr h.counted

theorem waits_generatorEnter (h : WaitsForGenerators s)
    (hstep : cameraStep s .generatorEnter = some s') : WaitsForGenerators s' := by
  cases hstep
  constructor
  · have hcounted := h.counted
    change s.activeGenerators + 1 = ((s.generators ++ [_]).countP GeneratorAt.isInside : Nat)
    rw [List.countP_append, hcounted]
    rfl
  · intro hzero hreading
    apply h.unused hzero
    simpa using hreading

theorem WaitsForGenerators.looks {generator : Nat} {place onward : GeneratorAt}
    (h : WaitsForGenerators s) (hplace : s.generators[generator]? = some place)
    (hinside : place.isInside = true) (honward : onward.isInside = true)
    (hread : onward ≠ .reading) :
    WaitsForGenerators
      (s.generatorTo generator (if s.stopFlag then .leaving else onward)) := by
  split
  · exact h.generatorTo hplace hinside rfl (fun hnext => by cases hnext)
  · exact h.generatorTo hplace hinside honward (fun hnext => absurd hnext hread)

theorem waits_generatorLook {generator : Nat} (h : WaitsForGenerators s)
    (hstep : cameraStep s (.generatorLook generator) = some s') :
    WaitsForGenerators s' := by
  rw [cameraStep] at hstep
  split at hstep
  next hplace =>
    cases hstep
    exact h.looks hplace rfl rfl (by decide)
  next hplace =>
    cases hstep
    exact h.looks hplace rfl rfl (by decide)
  next =>
    cases hstep

/-- A generator that gets the stream must not get it from a call that is going
to release it. -/
theorem waits_generatorTake {generator : Nat} (h : WaitsForGenerators s)
    (hstep : cameraStep s (.generatorTake generator) = some s') :
    WaitsForGenerators s' <->
      (s.cameraStatus = .running -> s.cameraStream = true -> .sawZero ∉ s.calls) := by
  rw [cameraStep] at hstep
  split at hstep
  next hplace =>
    split at hstep
    next htakes =>
      cases hstep
      have hreading : .reading ∈ (s.generatorTo generator .reading).generators := by
        have hlt := (List.getElem?_eq_some_iff.mp hplace).1
        exact List.mem_set hlt .reading
      constructor
      · intro hwaits _ _ hzero
        exact hwaits.unused hzero hreading
      · intro hfree
        exact h.generatorTo hplace rfl rfl (fun _ => hfree htakes.1 htakes.2)
    next hturned =>
      cases hstep
      apply iff_of_true
      · exact h.generatorTo hplace rfl rfl (fun hnext => by cases hnext)
      · intro hrunning hstream
        exact absurd ⟨hrunning, hstream⟩ hturned
  next =>
    cases hstep

theorem waits_generatorNext {generator : Nat} (h : WaitsForGenerators s)
    (hstep : cameraStep s (.generatorNext generator) = some s') :
    WaitsForGenerators s' := by
  rw [cameraStep] at hstep
  split at hstep
  next hplace =>
    cases hstep
    exact h.generatorTo hplace rfl rfl (fun hnext => by cases hnext)
  next =>
    cases hstep

theorem waits_generatorQuit {generator : Nat} (h : WaitsForGenerators s)
    (hstep : cameraStep s (.generatorQuit generator) = some s') :
    WaitsForGenerators s' := by
  rw [cameraStep] at hstep
  split at hstep
  next => cases hstep
  next => cases hstep
  next => cases hstep
  next place hleaving hleft hplace =>
    cases hstep
    have hinside : place.isInside = true := by
      simpa [GeneratorAt.isInside] using hleft
    exact h.generatorTo hplace hinside rfl (fun hnext => by cases hnext)

theorem waits_generatorLeave {generator : Nat} (h : WaitsForGenerators s)
    (hstep : cameraStep s (.generatorLeave generator) = some s') :
    WaitsForGenerators s' := by
  rw [cameraStep] at hstep
  split at hstep
  next hplace =>
    cases hstep
    have hcount := inside_generatorTo .left hplace
    have hcounted := h.counted
    constructor
    · change max 0 (s.activeGenerators - 1) = ((s.generatorTo generator .left).inside : Int)
      simp only [GeneratorAt.isInside] at hcount
      rw [hcounted]
      simp at hcount
      lia
    · intro hzero hreading
      rcases reading_of_generatorTo hreading with hold | hnew
      · exact h.unused hzero hold
      · cases hnew
  next =>
    cases hstep

end Step

/-- A step keeps the count and the waiting exactly under its condition. -/
theorem cameraStep_waits_iff (s : Camera) (a : CameraAction) (s' : Camera)
    (h : WaitsForGenerators s) (hstep : cameraStep s a = some s') :
    WaitsForGenerators s' <-> CountIsKept s a := by
  cases a with
  | startClear => exact iff_true_intro (waits_startClear h hstep)
  | startReset call => exact waits_startReset h hstep
  | startOpen call outcome => exact iff_true_intro (waits_startOpen h hstep)
  | stopSet => exact iff_true_intro (waits_stopSet h hstep)
  | stopLook call => exact iff_true_intro (waits_stopLook h hstep)
  | stopTimeout call => exact waits_stopTimeout h hstep
  | stopRelease call => exact iff_true_intro (waits_stopRelease h hstep)
  | generatorEnter => exact iff_true_intro (waits_generatorEnter h hstep)
  | generatorLook generator => exact iff_true_intro (waits_generatorLook h hstep)
  | generatorTake generator => exact waits_generatorTake h hstep
  | generatorNext generator => exact iff_true_intro (waits_generatorNext h hstep)
  | generatorQuit generator => exact iff_true_intro (waits_generatorQuit h hstep)
  | generatorLeave generator => exact iff_true_intro (waits_generatorLeave h hstep)

/-! ## Calls that do not overlap -/

/-- A generator that is not on its way to the stream. -/
def GeneratorAt.isAway (place : GeneratorAt) : Bool :=
  place = .looping ∨ place = .leaving ∨ place = .left

/-- The flag stands as long as a call needs it, and keeps the generators off
that have entered since a call saw 0. -/
structure HeldOff (s : Camera) : Prop where
  flag : forall call, call ∈ s.calls -> call.isStopping = true -> s.stopFlag = true
  away : .sawZero ∈ s.calls ->
    forall place, place ∈ s.generators -> place.isAway = true

section Apart

variable {s s' : Camera}

theorem HeldOff.callTo {call : Nat} {next : CallAt} (h : HeldOff s)
    (hnext : next.isStopping = false) : HeldOff (s.callTo call next) where
  flag := by
    intro other hother hstopping
    rcases List.mem_or_eq_of_mem_set hother with hold | rfl
    · exact h.flag other hold hstopping
    · rw [hnext] at hstopping
      cases hstopping
  away := by
    intro hzero
    rcases List.mem_or_eq_of_mem_set hzero with hold | rfl
    · exact h.away hold
    · cases hnext

theorem HeldOff.generatorTo {generator : Nat} {next : GeneratorAt} (h : HeldOff s)
    (hnext : .sawZero ∈ s.calls -> next.isAway = true) :
    HeldOff (s.generatorTo generator next) where
  flag := h.flag
  away := by
    intro hzero place hplace
    rcases List.mem_or_eq_of_mem_set hplace with hold | rfl
    · exact h.away hzero place hold
    · exact hnext hzero

theorem away_of_inside {place : GeneratorAt} (hnone : s.inside = 0)
    (hplace : place ∈ s.generators) : place.isAway = true := by
  have hleft := List.countP_eq_zero.mp hnone place hplace
  cases place <;> simp_all [GeneratorAt.isInside, GeneratorAt.isAway]

theorem heldOff_startClear (hgood : StartsApart s .startClear)
    (hstep : cameraStep s .startClear = some s') : HeldOff s' := by
  have hnone : forall call, call ∈ s.calls ++ [.cleared] -> call.isStopping = false := by
    intro call hcall
    rcases List.mem_append.mp hcall with hold | hnew
    · exact hgood call hold
    · rw [List.mem_singleton.mp hnew]
      rfl
  cases hstep
  constructor
  · intro call hcall hstopping
    rw [hnone call hcall] at hstopping
    cases hstopping
  · intro hzero
    cases hnone _ hzero

theorem heldOff_stopSet (h : HeldOff s) (hstep : cameraStep s .stopSet = some s') :
    HeldOff s' := by
  cases hstep
  refine ⟨fun _ _ _ => rfl, ?_⟩
  intro hzero
  exact h.away (by simpa using hzero)

theorem heldOff_stopLook {call : Nat} (hwaits : WaitsForGenerators s) (h : HeldOff s)
    (hstep : cameraStep s (.stopLook call) = some s') : HeldOff s' := by
  rw [cameraStep] at hstep
  split at hstep
  next hcall =>
    have hwaiting : .waiting ∈ s.calls := List.mem_of_getElem? hcall
    split at hstep
    next hzero =>
      cases hstep
      have hnone : s.inside = 0 := by
        have hcounted := hwaits.counted
        lia
      exact ⟨fun _ _ _ => h.flag _ hwaiting rfl,
        fun _ _ hplace => away_of_inside hnone hplace⟩
    next =>
      cases hstep
      exact h
  next =>
    cases hstep

/-- A generator that looks at the flag while a call has seen 0 is sent away. -/
theorem HeldOff.looks {generator : Nat} {onward : GeneratorAt} (h : HeldOff s) :
    HeldOff (s.generatorTo generator (if s.stopFlag then .leaving else onward)) := by
  apply h.generatorTo
  intro hzero
  rw [if_pos (h.flag _ hzero rfl)]
  rfl

theorem heldOff_generatorLook {generator : Nat} (h : HeldOff s)
    (hstep : cameraStep s (.generatorLook generator) = some s') : HeldOff s' := by
  rw [cameraStep] at hstep
  split at hstep
  next =>
    cases hstep
    exact h.looks
  next =>
    cases hstep
    exact h.looks
  next =>
    cases hstep

theorem countIsKept_take {generator : Nat} (h : HeldOff s)
    (hstep : cameraStep s (.generatorTake generator) = some s') : .sawZero ∉ s.calls := by
  intro hzero
  rw [cameraStep] at hstep
  split at hstep
  next hplace =>
    cases h.away hzero _ (List.mem_of_getElem? hplace)
  next =>
    cases hstep

theorem heldOff_generatorTake {generator : Nat} (h : HeldOff s)
    (hstep : cameraStep s (.generatorTake generator) = some s') : HeldOff s' := by
  have hfree := countIsKept_take h hstep
  rw [cameraStep] at hstep
  split at hstep
  next =>
    split at hstep
    all_goals
      cases hstep
      exact h.generatorTo (fun hzero => absurd hzero hfree)
  next =>
    cases hstep

theorem heldOff_call {call : Nat} {next : CallAt} {counter : Int} (h : HeldOff s)
    (hnext : next.isStopping = false) (hgone : GoneOn s call next counter s') :
    HeldOff s' := by
  have hcall : HeldOff (s.callTo call next) := h.callTo hnext
  constructor
  · rw [hgone.flag, hgone.calls]
    exact hcall.flag
  · rw [hgone.generators, hgone.calls]
    exact hcall.away

theorem heldOff_step {a : CameraAction} (hwaits : WaitsForGenerators s) (h : HeldOff s)
    (hgood : StartsApart s a) (hstep : cameraStep s a = some s') : HeldOff s' := by
  cases a with
  | startClear =>
      exact heldOff_startClear hgood hstep
  | stopSet =>
      exact heldOff_stopSet h hstep
  | stopLook call =>
      exact heldOff_stopLook hwaits h hstep
  | generatorLook generator =>
      exact heldOff_generatorLook h hstep
  | generatorTake generator =>
      exact heldOff_generatorTake h hstep
  | startReset call =>
      exact heldOff_call h rfl (startReset_goneOn hstep)
  | startOpen call outcome =>
      exact heldOff_call h rfl (startOpen_goneOn hstep)
  | stopTimeout call =>
      exact heldOff_call h rfl (stopTimeout_goneOn hstep)
  | stopRelease call =>
      exact heldOff_call h rfl (stopRelease_goneOn hstep)
  | generatorEnter =>
      cases hstep
      refine ⟨h.flag, ?_⟩
      intro hzero place hplace
      rcases List.mem_append.mp hplace with hold | hnew
      · exact h.away hzero place hold
      · rw [List.mem_singleton.mp hnew]
        rfl
  | generatorNext generator =>
      rw [cameraStep] at hstep
      split at hstep
      next =>
        cases hstep
        exact h.generatorTo (fun _ => rfl)
      next =>
        cases hstep
  | generatorQuit generator =>
      rw [cameraStep] at hstep
      split at hstep
      next => cases hstep
      next => cases hstep
      next => cases hstep
      next =>
        cases hstep
        exact h.generatorTo (fun _ => rfl)
  | generatorLeave generator =>
      rw [cameraStep] at hstep
      split at hstep
      next =>
        cases hstep
        have hleft : HeldOff (s.generatorTo generator .left) := h.generatorTo (fun _ => rfl)
        exact ⟨hleft.flag, hleft.away⟩
      next =>
        cases hstep

end Apart

/-! ## Whole runs -/

theorem waits_setUpCamera : WaitsForGenerators setUpCamera :=
  ⟨rfl, fun hzero => absurd hzero List.not_mem_nil⟩

theorem heldOff_setUpCamera : HeldOff setUpCamera :=
  ⟨fun _ hcall => absurd hcall List.not_mem_nil,
    fun hzero => absurd hzero List.not_mem_nil⟩

theorem countIsKept_of_startsApart {s : Camera} {a : CameraAction} {s' : Camera}
    (h : HeldOff s) (hgood : StartsApart s a) (hstep : cameraStep s a = some s') :
    CountIsKept s a := by
  cases a with
  | startReset call => exact hgood
  | stopTimeout call => exact hgood
  | generatorTake generator => exact fun _ _ => countIsKept_take h hstep
  | _ => trivial

theorem waits_of_startsApart (actions : List CameraAction)
    (hmeets : RunMeets cameraStep StartsApart setUpCamera actions) :
    forall s, s ∈ reachedStates cameraStep setUpCamera actions ->
      WaitsForGenerators s := by
  have hstep : forall s a s', WaitsForGenerators s ∧ HeldOff s -> StartsApart s a ->
      cameraStep s a = some s' -> WaitsForGenerators s' ∧ HeldOff s' := by
    intro s a s' h hgood hnext
    have hkept := countIsKept_of_startsApart h.2 hgood hnext
    exact ⟨(cameraStep_waits_iff s a s' h.1 hnext).mpr hkept,
      heldOff_step h.1 h.2 hgood hnext⟩
  intro s hs
  exact (reachedStates_of_meets hstep ⟨waits_setUpCamera, heldOff_setUpCamera⟩
    actions hmeets s hs).1

/-- In whatever order the threads take their steps, the generators are counted
and waited for in all states of a run exactly if no step resets the counter of
generators that run, and none takes the stream behind the back of a call that
has seen 0.  That `start_camera` and `stop_camera` do not overlap is enough for
the latter. -/
theorem camera_waits_iff (actions : List CameraAction) :
    ((forall s, s ∈ reachedStates cameraStep setUpCamera actions ->
        WaitsForGenerators s) <->
      RunMeets cameraStep CountIsKept setUpCamera actions) ∧
    (RunMeets cameraStep StartsApart setUpCamera actions ->
      forall s, s ∈ reachedStates cameraStep setUpCamera actions ->
        WaitsForGenerators s) :=
  ⟨reachedStates_all_iff cameraStep_waits_iff waits_setUpCamera actions,
    waits_of_startsApart actions⟩

/-- The camera is started, read from by a generator, and stopped. -/
def orderlyRun : List CameraAction :=
  [.startClear, .startReset 0, .startOpen 0 .opened, .generatorEnter, .generatorLook 0,
    .generatorLook 0, .generatorTake 0, .generatorNext 0, .stopSet, .stopLook 1,
    .generatorLook 0, .generatorLeave 0, .stopLook 1, .stopRelease 1]

theorem camera_waits_orderly :
    forall s, s ∈ reachedStates cameraStep setUpCamera orderlyRun ->
      WaitsForGenerators s :=
  (camera_waits_iff orderlyRun).2 (by decide)

/-- A second page starts the camera that a generator reads from, and stops it. -/
def secondStart : List CameraAction :=
  [.startClear, .startReset 0, .startOpen 0 .opened, .generatorEnter, .generatorLook 0,
    .generatorLook 0, .generatorTake 0, .startClear, .startReset 1, .startOpen 1 .opened,
    .stopSet, .stopLook 2]

/-- The call sees 0 and is going to release the camera that is read from. -/
theorem camera_secondStart_releases :
    (¬ forall s, s ∈ reachedStates cameraStep setUpCamera secondStart ->
        WaitsForGenerators s) ∧
      exists s, s ∈ reachedStates cameraStep setUpCamera secondStart ∧
        .sawZero ∈ s.calls ∧ .reading ∈ s.generators ∧
        (cameraStep s (.stopRelease 2)).map (fun s' => (s.cameraStream, s'.cameraStream)) =
          some (true, false) := by
  decide

end KtApp
end GardHub
