import GardHub.KtApp.FreedContext

/-!
# Requests for the end

A thread asks for the end with `should_exit` or with `Kt_StopDispatcher`.  The
loop looks only at the flag that the latter sets, and clears it when it is
entered.
-/

namespace GardHub
namespace KtApp

open Foundation
open Dal
open KtLib

variable {device app : Type}

/-!
## Honoured requests
-/

/-- A step of the main thread. -/
def DispatcherAction.isMain : DispatcherAction device -> Bool
  | .stop _ => false
  | _ => true

/-- From here on the dispatcher starts at most one more pass, and after three
steps of the main thread it is left, unless an assertion has failed.  Runs in
which the context is freed are left out. -/
def Honoured (port : Port device) (s : DispatcherRun device app) : Prop :=
  forall later s', RunMeets (dispatcherStep port) (KeepsContext port) s later ->
    runActions (dispatcherStep port) s later = some s' ->
    s'.iterations ≤ s.iterations + 1 ∧
      (3 ≤ later.countP DispatcherAction.isMain ->
        s'.main = .returned ∨ s'.main = .asserted)

/-- The main thread is not in the loop any more, or it is in the loop with an
allocated context, and the flag is set or is set now. -/
def StopsLoop (s : DispatcherRun device app) (request : StopRequest) : Prop :=
  s.main = .returned ∨ s.main = .asserted ∨
    (s.inLoop = true ∧ .freed ∉ s.trace ∧
      (request = .stopDispatcher ∨ s.stopDispatcherLoop = true))

/-- The number of steps that the main thread can still take in a pass. -/
def DispatcherThread.rank : DispatcherThread -> Nat
  | .outside => 4
  | .executing => 3
  | .idling => 2
  | .testing => 1
  | .returned | .asserted => 0

/-- The loop is left, or will be at the end of the pass. -/
structure Ending (s : DispatcherRun device app) : Prop where
  entered : s.main ≠ .outside
  stopping : s.inLoop = true ->
    .freed ∉ s.trace ∧ s.stopDispatcherLoop = true

section Ending

variable {port : Port device} {s s' : DispatcherRun device app}

theorem inLoop_iff : s.inLoop = true <->
    s.main = .executing ∨ s.main = .idling ∨ s.main = .testing := by
  simp [DispatcherRun.inLoop]

theorem iterations_touch (s : DispatcherRun device app)
    (fields : List KtField) : (s.touch fields).iterations = s.iterations := by
  have hnone : (fields.map ContextEvent.touched).count .iteration = 0 := by
    rw [List.count_eq_zero]
    simp
  rw [DispatcherRun.iterations, DispatcherRun.touch, List.count_append, hnone,
    Nat.add_zero, DispatcherRun.iterations]

theorem iterations_iterate (s : DispatcherRun device app) :
    s.iterate.iterations = s.iterations + 1 := by
  simp [DispatcherRun.iterate, DispatcherRun.iterations]

/-- What a callback leaves that does not free the context. -/
structure Idled (s s' : DispatcherRun device app) : Prop where
  main : s'.main = .testing ∨ s'.main = .asserted
  iterations : s'.iterations = s.iterations
  flag : s'.stopDispatcherLoop = s.stopDispatcherLoop

theorem idled_callLib (s : DispatcherRun device app)
    (call : KtCall × CallStack) : Idled s (s.callLib port call) := by
  have htouch := iterations_touch s (ktCallFields call.1)
  unfold DispatcherRun.callLib
  dsimp only
  split
  · exact ⟨Or.inr rfl, htouch, rfl⟩
  · split
    · exact ⟨Or.inr rfl, htouch, rfl⟩
    · exact ⟨Or.inl rfl, htouch, rfl⟩

theorem idled_executeExit (s : DispatcherRun device app)
    {finiStacks : FiniStacks}
    (h : DispatcherRun.exitLib port finiStacks s.lib = none) :
    Idled s (s.executeExit port finiStacks) := by
  have hlib : (s.touch (ktFiniFields s.features)).lib = s.lib := rfl
  have htouch := iterations_touch s (ktFiniFields s.features)
  simp only [DispatcherRun.executeExit, hlib, h]
  exact ⟨Or.inr rfl, htouch, rfl⟩

theorem idled_idle (s : DispatcherRun device app)
    {command : Option TakenCommand}
    (hkeeps : KeepsContext port s (.idle command)) :
    Idled s (s.idle port command) := by
  have htouch := iterations_touch s [.kcCfg]
  cases command with
  | none =>
      exact ⟨Or.inl rfl, htouch, rfl⟩
  | some command =>
      have hcommand : Idled (s.touch [.kcCfg])
          ((s.touch [.kcCfg]).executeCmd port command) := by
        unfold DispatcherRun.executeCmd
        split
        · exact idled_callLib _ _
        · exact idled_callLib _ _
        · exact idled_callLib _ _
        · exact idled_callLib _ _
        · exact idled_executeExit _ (hkeeps ‹_›)
        · exact ⟨Or.inl rfl, rfl, rfl⟩
      exact ⟨hcommand.main, hcommand.iterations.trans htouch, hcommand.flag⟩

theorem Ending.of_extends (hfreed : .freed ∉ s.trace) (hextends : Extends s s')
    (hentered : s'.main ≠ .outside) (hflag : s'.stopDispatcherLoop = true) :
    Ending s' :=
  ⟨hentered, fun _ => ⟨mt hextends.freed_mem_iff.mp hfreed, hflag⟩⟩

theorem executeGard_main (s : DispatcherRun device app)
    (work : GardWork device) :
    (s.executeGard work).main = .asserted ∨
      (s.executeGard work).main = .idling := by
  unfold DispatcherRun.executeGard
  dsimp only
  split
  · exact Or.inl rfl
  · exact Or.inr rfl

/-- The loop test ends a loop whose flag is set and whose context is still
there. -/
theorem testLoop_of_flag (hfreed : .freed ∉ s.trace)
    (hflag : s.stopDispatcherLoop = true) (leftover : Bool) :
    s.testLoop leftover =
      { s.touch [.kcStopDispatcherLoop] with main := .returned } := by
  have hallocated : (s.touch [.kcStopDispatcherLoop]).freed = false := by
    simp [DispatcherRun.freed, DispatcherRun.touch, hfreed]
  apply if_pos
  rw [DispatcherRun.readStopLoop, hallocated]
  exact hflag

/-- A step of a loop that is to end starts no pass, and the main thread comes
closer to the end of this one. -/
theorem Ending.step (h : Ending s) {action : DispatcherAction device}
    (hkeeps : KeepsContext port s action)
    (hstep : dispatcherStep port s action = some s') :
    Ending s' ∧ s'.iterations = s.iterations ∧
      s'.main.rank + (if action.isMain then 1 else 0) ≤ s.main.rank := by
  have hextends : Extends s s' := by
    rcases dispatcherStep_cases hstep with ⟨-, hextends⟩ | ⟨hfrees, -⟩
    · exact hextends
    · exact absurd hkeeps hfrees
  cases action with
  | enter =>
      rw [dispatcherStep] at hstep
      split at hstep
      · exact absurd ‹_› h.entered
      · cases hstep
  | gard work =>
      rw [dispatcherStep] at hstep
      split at hstep
      · next hmain =>
        rcases h.stopping (inLoop_iff.mpr (Or.inl hmain)) with ⟨hfreed, hflag⟩
        cases hstep
        have htouch := iterations_touch s (.kcGardHandle :: work.fields)
        have hmain' := executeGard_main s work
        refine ⟨Ending.of_extends hfreed hextends ?_ hflag, htouch, ?_⟩
        · rcases hmain' with hmain' | hmain' <;> simp [hmain']
        · rcases hmain' with hmain' | hmain' <;>
            simp [hmain, hmain', DispatcherThread.rank, DispatcherAction.isMain]
      · cases hstep
  | idle command =>
      rw [dispatcherStep] at hstep
      split at hstep
      · next hmain =>
        rcases h.stopping (inLoop_iff.mpr (Or.inr (Or.inl hmain)))
          with ⟨hfreed, hflag⟩
        cases hstep
        have hidled := idled_idle s hkeeps
        refine ⟨Ending.of_extends hfreed hextends ?_ (hidled.flag.trans hflag),
          hidled.iterations, ?_⟩
        · rcases hidled.main with hmain' | hmain' <;> simp [hmain']
        · rcases hidled.main with hmain' | hmain' <;>
            simp [hmain, hmain', DispatcherThread.rank, DispatcherAction.isMain]
      · cases hstep
  | test leftover =>
      rw [dispatcherStep] at hstep
      split at hstep
      · next hmain =>
        rcases h.stopping (inLoop_iff.mpr (Or.inr (Or.inr hmain)))
          with ⟨hfreed, hflag⟩
        cases hstep
        have htouch := iterations_touch s [.kcStopDispatcherLoop]
        have htest := testLoop_of_flag hfreed hflag leftover
        rw [htest] at hextends ⊢
        refine ⟨Ending.of_extends hfreed hextends (by simp) hflag, htouch, ?_⟩
        simp [hmain, DispatcherThread.rank, DispatcherAction.isMain]
      · cases hstep
  | stop request =>
      cases hstep
      cases request with
      | shouldExit =>
          exact ⟨⟨h.entered, h.stopping⟩, rfl, le_refl _⟩
      | stopDispatcher =>
          refine ⟨⟨h.entered, ?_⟩, iterations_touch s _, le_refl _⟩
          intro hin
          exact ⟨mt hextends.freed_mem_iff.mp (h.stopping hin).1, rfl⟩

theorem Ending.run (h : Ending s) {later : List (DispatcherAction device)}
    (hmeets : RunMeets (dispatcherStep port) (KeepsContext port) s later)
    (hrun : runActions (dispatcherStep port) s later = some s') :
    Ending s' ∧ s'.iterations = s.iterations ∧
      s'.main.rank + later.countP DispatcherAction.isMain ≤ s.main.rank := by
  induction later generalizing s with
  | nil =>
      cases hrun
      exact ⟨h, rfl, le_refl _⟩
  | cons action rest ih =>
      rcases Option.bind_eq_some_iff.mp hrun with ⟨mid, hmid, hrest⟩
      rw [RunMeets, hmid] at hmeets
      rcases h.step hmeets.1 hmid with ⟨hending, hiterations, hrank⟩
      rcases ih hending hmeets.2 hrest with ⟨hending', hiterations', hrank'⟩
      refine ⟨hending', hiterations'.trans hiterations, ?_⟩
      rw [List.countP_cons]
      lia

theorem honoured_of_ending (h : Ending s) (hrank : s.main.rank ≤ 3) :
    Honoured port s := by
  intro later s' hmeets hrun
  rcases h.run hmeets hrun with ⟨hending, hiterations, hrank'⟩
  refine ⟨by lia, ?_⟩
  intro hsteps
  have hzero : s'.main.rank = 0 := by lia
  cases hmain : s'.main with
  | returned =>
      exact Or.inl rfl
  | asserted =>
      exact Or.inr rfl
  | _ =>
      rw [hmain] at hzero
      cases hzero

end Ending

/-!
## Requests that get lost
-/

section Endless

variable {port : Port device} {s s' : DispatcherRun device app}

/-- A run leads from one state to another and does not free the context. -/
def Leads (port : Port device) (s s' : DispatcherRun device app) : Prop :=
  exists later,
    RunMeets (dispatcherStep port) (KeepsContext port) s later ∧
      runActions (dispatcherStep port) s later = some s'

theorem leads_refl (s : DispatcherRun device app) : Leads port s s :=
  ⟨[], trivial, rfl⟩

theorem Leads.of_step {mid : DispatcherRun device app}
    {action : DispatcherAction device}
    (hstep : dispatcherStep port s action = some mid)
    (hkeeps : KeepsContext port s action) (h : Leads port mid s') :
    Leads port s s' := by
  rcases h with ⟨later, hmeets, hrun⟩
  refine ⟨action :: later, ?_, ?_⟩
  · rw [RunMeets, hstep]
    exact ⟨hkeeps, hmeets⟩
  · rw [runActions, hstep]
    exact hrun

theorem Leads.trans {mid : DispatcherRun device app} (h : Leads port s mid)
    (h' : Leads port mid s') : Leads port s s' := by
  rcases h with ⟨later, hmeets, hrun⟩
  induction later generalizing s with
  | nil =>
      cases hrun
      exact h'
  | cons action rest ih =>
      rcases Option.bind_eq_some_iff.mp hrun with ⟨next, hnext, hrest⟩
      rw [RunMeets, hnext] at hmeets
      exact (ih hmeets.2 hrest).of_step hnext hmeets.1

/-- The test of the loop may find that it is to go on. -/
def GoesOn (s : DispatcherRun device app) : Prop :=
  .freed ∈ s.trace ∨ s.stopDispatcherLoop = false

/-- A run leads to another pass. -/
def StartsPass (port : Port device) (s : DispatcherRun device app) : Prop :=
  exists s', Leads port s s' ∧ s'.main = .executing ∧ GoesOn s' ∧
    s'.iterations = s.iterations + 1

theorem GoesOn.touch (h : GoesOn s) (fields : List KtField) :
    GoesOn (s.touch fields) := by
  rcases h with hfreed | hflag
  · exact Or.inl (List.mem_append_left _ hfreed)
  · exact Or.inr hflag

theorem GoesOn.readStopLoop (h : GoesOn s) : s.readStopLoop false = false := by
  rcases h with hfreed | hflag
  · simp [DispatcherRun.readStopLoop, DispatcherRun.freed, hfreed]
  · simp [DispatcherRun.readStopLoop, hflag]

theorem startsPass_of_testing (h : GoesOn s) (hmain : s.main = .testing) :
    StartsPass port s := by
  have hgoes := h.touch [.kcStopDispatcherLoop]
  have hstep : dispatcherStep port s (.test false) =
      some (s.touch [.kcStopDispatcherLoop]).iterate := by
    simp [dispatcherStep, hmain, DispatcherRun.testLoop, hgoes.readStopLoop]
  refine ⟨_, (leads_refl _).of_step hstep trivial, rfl, ?_, ?_⟩
  · rcases hgoes with hfreed | hflag
    · exact Or.inl (List.mem_append_left _ hfreed)
    · exact Or.inr hflag
  · rw [iterations_iterate, iterations_touch]

theorem StartsPass.of_step {mid : DispatcherRun device app}
    {action : DispatcherAction device} (h : StartsPass port mid)
    (hstep : dispatcherStep port s action = some mid)
    (hkeeps : KeepsContext port s action)
    (hiterations : mid.iterations = s.iterations) : StartsPass port s := by
  rcases h with ⟨s', hleads, hmain, hgoes, hcount⟩
  exact ⟨s', hleads.of_step hstep hkeeps, hmain, hgoes,
    by rw [hcount, hiterations]⟩

theorem startsPass_of_idling (h : GoesOn s) (hmain : s.main = .idling) :
    StartsPass port s := by
  have hstep : dispatcherStep port s (.idle none) =
      some { s.touch [.kcCfg] with main := .testing } := by
    simp [dispatcherStep, hmain, DispatcherRun.idle]
  have hgoes : GoesOn { s.touch [.kcCfg] with main := .testing } :=
    h.touch [.kcCfg]
  exact (startsPass_of_testing hgoes rfl).of_step hstep trivial
    (iterations_touch s _)

theorem startsPass_of_executing (h : GoesOn s) (hmain : s.main = .executing) :
    StartsPass port s := by
  have hstep : dispatcherStep port s (.gard failedCheck) =
      some (s.executeGard failedCheck) := by
    simp [dispatcherStep, hmain]
  have hgoes : GoesOn (s.executeGard failedCheck) := h.touch [.kcGardHandle]
  exact (startsPass_of_idling hgoes rfl).of_step hstep trivial
    (iterations_touch s _)

theorem startsPass_of_inLoop (h : GoesOn s) (hin : s.inLoop = true) :
    StartsPass port s := by
  rcases inLoop_iff.mp hin with hmain | hmain | hmain
  · exact startsPass_of_executing h hmain
  · exact startsPass_of_idling h hmain
  · exact startsPass_of_testing h hmain

theorem startsPass_of_outside (hmain : s.main = .outside) :
    StartsPass port s := by
  have hstep : dispatcherStep port s .enter =
      some { s.touch [.kcStopDispatcherLoop] with
        stopDispatcherLoop := false }.iterate := by
    simp [dispatcherStep, hmain]
  refine ⟨_, (leads_refl _).of_step hstep trivial, rfl, Or.inr rfl, ?_⟩
  rw [iterations_iterate]
  exact congrArg (· + 1) (iterations_touch s _)

/-- If one more pass can be started, then so can two. -/
theorem StartsPass.not_honoured (h : StartsPass port s) : ¬ Honoured port s := by
  rcases h with ⟨mid, hleads, hmain, hgoes, hcount⟩
  rcases startsPass_of_executing hgoes hmain with ⟨s', hleads', -, -, hcount'⟩
  rcases hleads.trans hleads' with ⟨later, hmeets, hrun⟩
  intro hhonoured
  have hle := (hhonoured later s' hmeets hrun).1
  lia

end Endless

/-!
## Requests in a run
-/

section Requests

variable {port : Port device}

theorem honoured_request_iff (s : DispatcherRun device app)
    (request : StopRequest) :
    Honoured port (s.request request) <-> StopsLoop s request := by
  have hmain : (s.request request).main = s.main := by
    cases request <;> rfl
  have hin : (s.request request).inLoop = s.inLoop := by
    rw [DispatcherRun.inLoop, hmain, DispatcherRun.inLoop]
  have hfreed : .freed ∈ (s.request request).trace <-> .freed ∈ s.trace := by
    cases request with
    | shouldExit =>
        rfl
    | stopDispatcher =>
        exact (extends_touch s _).freed_mem_iff
  have hflag : (s.request request).stopDispatcherLoop = true <->
      request = .stopDispatcher ∨ s.stopDispatcherLoop = true := by
    cases request <;> simp [DispatcherRun.request]
  constructor
  · intro h
    by_contra hnot
    rw [StopsLoop, not_or, not_or] at hnot
    rcases hnot with ⟨hreturned, hasserted, hloop⟩
    apply StartsPass.not_honoured _ h
    by_cases hinside : s.inLoop = true
    · apply startsPass_of_inLoop _ (hin.trans hinside)
      rw [GoesOn, hfreed, ← Bool.not_eq_true, hflag]
      by_contra hgoes
      rw [not_or, not_not] at hgoes
      exact hloop ⟨hinside, hgoes.1, hgoes.2⟩
    · apply startsPass_of_outside
      rw [inLoop_iff] at hinside
      rw [hmain]
      cases hthread : s.main <;> simp_all
  · intro h
    apply honoured_of_ending
    · constructor
      · rw [hmain]
        rintro houtside
        simp [StopsLoop, houtside, DispatcherRun.inLoop] at h
      · rw [hin]
        intro hinside
        rw [hfreed, hflag]
        rcases h with hreturned | hasserted | ⟨-, hloop⟩
        · simp [DispatcherRun.inLoop, hreturned] at hinside
        · simp [DispatcherRun.inLoop, hasserted] at hinside
        · exact hloop
    · rw [hmain]
      rcases h with hreturned | hasserted | ⟨hinside, -⟩
      · simp [hreturned, DispatcherThread.rank]
      · simp [hasserted, DispatcherThread.rank]
      · rcases inLoop_iff.mp hinside with hthread | hthread | hthread <;>
          simp [hthread, DispatcherThread.rank]

/-- Whatever run is in front of it, a request is honoured exactly when it stops
the loop: the loop is left already, or it is running on an allocated context and
its own flag is set. -/
theorem ktRunDispatcher_stops_iff (port : Port device)
    (lib : KtLibrary device app) (front : List (DispatcherAction device))
    (request : StopRequest) :
    (forall s, runActions (dispatcherStep port) (dispatcherStart lib) front =
        some s -> Honoured port (s.request request)) <->
      forall s, runActions (dispatcherStep port) (dispatcherStart lib) front =
        some s -> StopsLoop s request := by
  apply forall₂_congr
  intro s _
  exact honoured_request_iff s request

/-- Two passes in which the checks read nothing. -/
def quietPasses : List (DispatcherAction device) :=
  [.gard failedCheck, .idle none, .test false,
    .gard failedCheck, .idle none, .test false]

/-- With `should_exit` set in the loop, two more passes are started, and with
`Kt_StopDispatcher` called in front of it, three. -/
theorem ktRunDispatcher_missesRequests :
    (¬ forall s, runActions (dispatcherStep streamPort)
        (dispatcherStart openLibrary) [.enter] = some s ->
          Honoured streamPort (s.request .shouldExit)) ∧
      ¬ forall s, runActions (dispatcherStep streamPort)
        (dispatcherStart openLibrary) [] = some s ->
          Honoured streamPort (s.request .stopDispatcher) := by
  constructor
  · intro h
    have hpasses := h _ rfl quietPasses _
      ⟨trivial, trivial, trivial, trivial, trivial, trivial, trivial⟩ rfl
    exact absurd hpasses.1 (by decide)
  · intro h
    have hpasses := h _ rfl (.enter :: quietPasses) _
      ⟨trivial, trivial, trivial, trivial, trivial, trivial, trivial, trivial⟩
      rfl
    exact absurd hpasses.1 (by decide)

end Requests

end KtApp
end GardHub
