import GardHub.KtApp.DispatcherRun

/-!
# The freed context

The exit command frees the context in the middle of a pass.  Behind that, the
command itself and the loop around it use the context once more.
-/

namespace GardHub
namespace KtApp

open Foundation
open Dal
open KtLib
open Hub

variable {device app : Type}

/-!
## Traces
-/

/-- Behind the release of the context no field is touched and no pass starts. -/
def UntouchedAfterFree (trace : List ContextEvent) : Prop :=
  forall front back, trace = front ++ .freed :: back ->
    .iteration ∉ back ∧ forall field, .touched field ∉ back

/-- The exit command does not get through `Kt_Fini`. -/
def KeepsContext (port : Port device) (s : DispatcherRun device app) :
    DispatcherAction device -> Prop
  | .idle (some command) =>
      command.cmd = .exit ->
        DispatcherRun.exitLib port command.finiStacks s.lib = none
  | _ => True

theorem untouchedAfterFree_of_not_mem {trace : List ContextEvent}
    (h : .freed ∉ trace) : UntouchedAfterFree trace := by
  intro front back htrace
  rw [htrace] at h
  exact absurd (List.mem_append_right _ List.mem_cons_self) h

theorem not_untouchedAfterFree (front back : List ContextEvent)
    (field : KtField) :
    ¬ UntouchedAfterFree (front ++ .freed :: .touched field :: back) := by
  intro h
  exact (h front _ rfl).2 field List.mem_cons_self

theorem UntouchedAfterFree.of_append {trace later : List ContextEvent}
    (h : UntouchedAfterFree (trace ++ later)) : UntouchedAfterFree trace := by
  intro front back htrace
  have hall := h front (back ++ later) (by rw [htrace]; simp)
  constructor
  · intro hmem
    exact hall.1 (List.mem_append_left _ hmem)
  · intro field hmem
    exact hall.2 field (List.mem_append_left _ hmem)

theorem freed_not_mem_touched (fields : List KtField) :
    .freed ∉ fields.map ContextEvent.touched := by
  simp

/-!
## Steps
-/

section Steps

variable {port : Port device} {s s' : DispatcherRun device app}

/-- A step that leaves the context allocated. -/
def Extends (s s' : DispatcherRun device app) : Prop :=
  exists events, s'.trace = s.trace ++ events ∧ .freed ∉ events

/-- A step that frees the context and writes to it behind that. -/
def FreesAndTouches (s s' : DispatcherRun device app) : Prop :=
  exists fields : List KtField, s'.trace =
    s.trace ++ (fields.map ContextEvent.touched ++
      [.freed, .touched .kcStopDispatcherLoop])

theorem extends_touch (s : DispatcherRun device app) (fields : List KtField) :
    Extends s (s.touch fields) :=
  ⟨_, rfl, freed_not_mem_touched fields⟩

theorem Extends.trans {s'' : DispatcherRun device app} (h : Extends s s')
    (h' : Extends s' s'') : Extends s s'' := by
  rcases h with ⟨events, htrace, hfreed⟩
  rcases h' with ⟨events', htrace', hfreed'⟩
  refine ⟨events ++ events', ?_, ?_⟩
  · rw [htrace', htrace, List.append_assoc]
  · rw [List.mem_append]
    rintro (hmem | hmem)
    · exact hfreed hmem
    · exact hfreed' hmem

theorem Extends.of_trace_eq {s'' : DispatcherRun device app}
    (h : Extends s s') (hsame : s''.trace = s'.trace) : Extends s s'' := by
  rcases h with ⟨events, htrace, hfreed⟩
  exact ⟨events, hsame.trans htrace, hfreed⟩

theorem extends_iterate (s : DispatcherRun device app) :
    Extends s s.iterate :=
  ⟨[.iteration], rfl, by simp⟩

theorem extends_callLib (s : DispatcherRun device app)
    (call : KtCall × CallStack) : Extends s (s.callLib port call) := by
  apply (extends_touch s (ktCallFields call.1)).of_trace_eq
  unfold DispatcherRun.callLib
  dsimp only
  split
  · rfl
  · split <;> rfl

theorem executeExit_cases (s : DispatcherRun device app)
    (finiStacks : FiniStacks) :
    (DispatcherRun.exitLib port finiStacks s.lib = none ∧
        Extends s (s.executeExit port finiStacks)) ∨
      (DispatcherRun.exitLib port finiStacks s.lib ≠ none ∧
        FreesAndTouches s (s.executeExit port finiStacks)) := by
  have hlib : (s.touch (ktFiniFields s.features)).lib = s.lib := rfl
  cases hexit : DispatcherRun.exitLib port finiStacks s.lib with
  | none =>
      refine Or.inl ⟨rfl, ?_⟩
      apply (extends_touch s (ktFiniFields s.features)).of_trace_eq
      simp only [DispatcherRun.executeExit, hlib, hexit]
  | some lib =>
      refine Or.inr ⟨by simp, ktFiniFields s.features, ?_⟩
      simp only [DispatcherRun.executeExit, hlib, hexit]
      simp [DispatcherRun.touch]

theorem idle_cases (s : DispatcherRun device app)
    (command : Option TakenCommand) :
    (KeepsContext port s (.idle command) ∧
        Extends s (s.idle port command)) ∨
      (¬ KeepsContext port s (.idle command) ∧
        FreesAndTouches s (s.idle port command)) := by
  have htouch := extends_touch s [.kcCfg]
  cases command with
  | none =>
      exact Or.inl ⟨trivial, htouch⟩
  | some command =>
      by_cases hexit : command.cmd = .exit
      · have hidle : s.idle port (some command) =
            (s.touch [.kcCfg]).executeExit port command.finiStacks := by
          simp only [DispatcherRun.idle, DispatcherRun.executeCmd, hexit]
        rw [hidle]
        rcases executeExit_cases (s.touch [.kcCfg]) command.finiStacks with
          ⟨hnone, hextends⟩ | ⟨hsome, fields, htrace⟩
        · exact Or.inl ⟨fun _ => hnone, htouch.trans hextends⟩
        · refine Or.inr ⟨fun hkeeps => hsome (hkeeps hexit),
            .kcCfg :: fields, ?_⟩
          rw [htrace]
          simp [DispatcherRun.touch]
      · refine Or.inl ⟨fun h => absurd h hexit, htouch.trans ?_⟩
        show Extends (s.touch [.kcCfg])
          ((s.touch [.kcCfg]).executeCmd port command)
        unfold DispatcherRun.executeCmd
        split
        · exact extends_callLib _ _
        · exact extends_callLib _ _
        · exact extends_callLib _ _
        · exact extends_callLib _ _
        · exact absurd ‹_› hexit
        · exact ⟨[], (List.append_nil _).symm, List.not_mem_nil⟩

/-- A step either leaves the context allocated, or it is an exit command, which
frees it and then writes to it. -/
theorem dispatcherStep_cases {action : DispatcherAction device}
    (h : dispatcherStep port s action = some s') :
    (KeepsContext port s action ∧ Extends s s') ∨
      (¬ KeepsContext port s action ∧ FreesAndTouches s s') := by
  cases action with
  | enter =>
      rw [dispatcherStep] at h
      split at h
      · cases h
        have htouch := extends_touch s [.kcStopDispatcherLoop]
        exact Or.inl ⟨trivial, htouch.trans (extends_iterate _)⟩
      · cases h
  | gard work =>
      rw [dispatcherStep] at h
      split at h
      · cases h
        exact Or.inl ⟨trivial, extends_touch s _⟩
      · cases h
  | idle command =>
      rw [dispatcherStep] at h
      split at h
      · cases h
        exact idle_cases s command
      · cases h
  | test leftover =>
      rw [dispatcherStep] at h
      split at h
      · cases h
        have htouch := extends_touch s [.kcStopDispatcherLoop]
        refine Or.inl ⟨trivial, ?_⟩
        unfold DispatcherRun.testLoop
        dsimp only
        split
        · exact htouch
        · exact htouch.trans (extends_iterate _)
      · cases h
  | stop request =>
      cases h
      refine Or.inl ⟨trivial, ?_⟩
      cases request with
      | shouldExit =>
          exact ⟨[], (List.append_nil _).symm, List.not_mem_nil⟩
      | stopDispatcher =>
          exact extends_touch s [.kcStopDispatcherLoop]

theorem Extends.freed_mem_iff (h : Extends s s') :
    .freed ∈ s'.trace <-> .freed ∈ s.trace := by
  rcases h with ⟨events, htrace, hfreed⟩
  rw [htrace, List.mem_append, or_iff_left hfreed]

/-- A step keeps the context allocated exactly when it is not an exit command
that frees it. -/
theorem dispatcherStep_allocated_iff (port : Port device)
    (s s' : DispatcherRun device app) (action : DispatcherAction device)
    (hs : ContextEvent.freed ∉ s.trace)
    (h : dispatcherStep port s action = some s') :
    ContextEvent.freed ∉ s'.trace <-> KeepsContext port s action := by
  rcases dispatcherStep_cases h with
    ⟨hkeeps, hextends⟩ | ⟨hfrees, fields, htrace⟩
  · simp [hextends.freed_mem_iff, hs, hkeeps]
  · simp [htrace, hfrees]

theorem dispatcherStep_touches (port : Port device)
    (s s' : DispatcherRun device app) (action : DispatcherAction device)
    (hs : .freed ∈ s.trace -> ¬ UntouchedAfterFree s.trace)
    (h : dispatcherStep port s action = some s') :
    .freed ∈ s'.trace -> ¬ UntouchedAfterFree s'.trace := by
  intro hfreed huntouched
  rcases dispatcherStep_cases h with ⟨-, hextends⟩ | ⟨-, fields, htrace⟩
  · have hbefore := hs (hextends.freed_mem_iff.mp hfreed)
    rcases hextends with ⟨events, htrace, -⟩
    rw [htrace] at huntouched
    exact hbefore huntouched.of_append
  · rw [htrace, ← List.append_assoc] at huntouched
    exact not_untouchedAfterFree _ [] _ huntouched

end Steps

/-!
## Runs
-/

/-- A run leaves the freed context alone exactly when no exit command in it gets
through `Kt_Fini`. -/
theorem ktRunDispatcher_untouched_iff (port : Port device)
    (lib : KtLibrary device app) (actions : List (DispatcherAction device)) :
    (forall s, s ∈ reachedStates (dispatcherStep port) (dispatcherStart lib)
        actions -> UntouchedAfterFree s.trace) <->
      RunMeets (dispatcherStep port) (KeepsContext port) (dispatcherStart lib)
        actions := by
  have hstart : ContextEvent.freed ∉ (dispatcherStart lib).trace :=
    List.not_mem_nil
  have htouches := reachedStates_invariant
    (fun s action s' => dispatcherStep_touches port s s' action)
    (fun hfreed => absurd hfreed hstart) actions
  have hallocated := reachedStates_all_iff
    (fun s action s' => dispatcherStep_allocated_iff port s s' action)
    hstart actions
  rw [← hallocated]
  constructor
  · intro h s hs hfreed
    exact htouches s hs hfreed (h s hs)
  · intro h s hs
    exact untouchedAfterFree_of_not_mem (h s hs)

/-- A library with nothing switched on. -/
def openLibrary : KtLibrary ByteStream Unit :=
  { ktCtxt := some
      { ops := ktInitialised (readyGard none) (streamLine [])
        metaBuffers := []
        qrBuffers := [] }
    ledger := Ledger.empty
    released := [] }

/-- An exit command in the first pass. -/
def exitAtOnce : List (DispatcherAction ByteStream) :=
  [.enter, .gard failedCheck,
    .idle (some ⟨.exit, zeroStack, ⟨zeroStack, zeroStack⟩⟩), .test false]

/-- What has happened to the context in front of its release. -/
def beforeRelease : List ContextEvent :=
  [.touched .kcStopDispatcherLoop, .iteration, .touched .kcGardHandle,
    .touched .kcCfg] ++
      (ktFiniFields ⟨false, false, false⟩).map ContextEvent.touched

/-- The exit command writes to the freed context, and the test of the loop reads
it. -/
theorem ktRunDispatcher_usesFreed :
    ¬ forall s, s ∈ reachedStates (dispatcherStep streamPort)
        (dispatcherStart openLibrary) exitAtOnce ->
      UntouchedAfterFree s.trace := by
  intro h
  have hlast := h _ (List.mem_of_getLast? rfl)
  exact not_untouchedAfterFree beforeRelease
    [.touched .kcStopDispatcherLoop, .iteration] .kcStopDispatcherLoop hlast

end KtApp
end GardHub
