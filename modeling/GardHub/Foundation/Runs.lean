import Mathlib

/-!
# Runs of partial step functions

A system that takes actions one after another, where an action may have no
outcome.  The states of a run are those in which an action has ended; a run
stops at the first action without an outcome.
-/

namespace GardHub
namespace Foundation

variable {state action : Type}

/-- The states a run passes through, in order. -/
def reachedStates (step : state -> action -> Option state) :
    state -> List action -> List state
  | _, [] => []
  | s, a :: rest =>
      match step s a with
      | none => []
      | some s' => s' :: reachedStates step s' rest

/-- Every action of a run that has an outcome meets a condition on the state
before it. -/
def RunMeets (step : state -> action -> Option state)
    (good : state -> action -> Prop) : state -> List action -> Prop
  | _, [] => True
  | s, a :: rest =>
      match step s a with
      | none => True
      | some s' => good s a ∧ RunMeets step good s' rest

/-- The state in which a run ends, if every action has an outcome. -/
def runActions (step : state -> action -> Option state) :
    state -> List action -> Option state
  | s, [] => some s
  | s, a :: rest => (step s a).bind fun s' => runActions step s' rest

variable {step : state -> action -> Option state}
  {good : state -> action -> Prop} {inv : state -> Prop}

instance decidableRunMeets [forall s a, Decidable (good s a)] :
    forall s actions, Decidable (RunMeets step good s actions)
  | _, [] => isTrue trivial
  | s, a :: rest =>
      match hnext : step s a with
      | none => isTrue (by simp [RunMeets, hnext])
      | some s' =>
          have : Decidable (RunMeets step good s' rest) :=
            decidableRunMeets s' rest
          decidable_of_iff (good s a ∧ RunMeets step good s' rest)
            (by simp [RunMeets, hnext])

theorem runMeets_of_forall (h : forall s a, good s a) (s : state)
    (actions : List action) : RunMeets step good s actions := by
  induction actions generalizing s with
  | nil =>
      trivial
  | cons a rest ih =>
      cases hnext : step s a with
      | none =>
          simp [RunMeets, hnext]
      | some s' =>
          simp [RunMeets, hnext, h, ih]

theorem runMeets_of_mem (s : state) {actions : List action}
    (h : forall a, a ∈ actions -> forall s, good s a) :
    RunMeets step good s actions := by
  induction actions generalizing s with
  | nil =>
      trivial
  | cons a rest ih =>
      have hrest := fun s' => ih s' fun b hb => h b (List.mem_cons_of_mem _ hb)
      cases hnext : step s a with
      | none =>
          simp [RunMeets, hnext]
      | some s' =>
          simp only [RunMeets, hnext]
          exact ⟨h a List.mem_cons_self s, hrest s'⟩

theorem runMeets_congr {good' : state -> action -> Prop}
    (h : forall s a, good s a <-> good' s a) (s : state)
    (actions : List action) :
    RunMeets step good s actions <-> RunMeets step good' s actions := by
  induction actions generalizing s with
  | nil =>
      rfl
  | cons a rest ih =>
      cases hnext : step s a with
      | none =>
          simp [RunMeets, hnext]
      | some s' =>
          simp [RunMeets, hnext, h, ih]

/-- Conditions that agree as long as an invariant holds, which steps that meet
them keep. -/
theorem runMeets_congr_of_invariant {good' : state -> action -> Prop}
    (hstep : forall s a s', inv s -> good s a -> step s a = some s' -> inv s')
    (h : forall s a, inv s -> (good s a <-> good' s a)) {s : state}
    (hs : inv s) (actions : List action) :
    RunMeets step good s actions <-> RunMeets step good' s actions := by
  induction actions generalizing s with
  | nil =>
      rfl
  | cons a rest ih =>
      cases hnext : step s a with
      | none =>
          simp [RunMeets, hnext]
      | some s' =>
          simp only [RunMeets, hnext, ← h s a hs]
          constructor
          · rintro ⟨hgood, hrest⟩
            exact ⟨hgood, (ih (hstep s a s' hs hgood hnext)).mp hrest⟩
          · rintro ⟨hgood, hrest⟩
            exact ⟨hgood, (ih (hstep s a s' hs hgood hnext)).mpr hrest⟩

/-- An invariant that one step keeps exactly under a condition is kept by a
whole run exactly when every step of the run meets the condition. -/
theorem reachedStates_all_iff
    (hstep : forall s a s', inv s -> step s a = some s' ->
      (inv s' <-> good s a)) {s : state} (hs : inv s) (actions : List action) :
    (forall s', s' ∈ reachedStates step s actions -> inv s') <->
      RunMeets step good s actions := by
  induction actions generalizing s with
  | nil =>
      simp [reachedStates, RunMeets]
  | cons a rest ih =>
      cases hnext : step s a with
      | none =>
          simp [reachedStates, RunMeets, hnext]
      | some s' =>
          simp only [reachedStates, RunMeets, hnext, List.forall_mem_cons]
          constructor
          · intro h
            exact ⟨(hstep s a s' hs hnext).mp h.left,
              (ih h.left).mp h.right⟩
          · intro h
            have hinv : inv s' := (hstep s a s' hs hnext).mpr h.left
            exact ⟨hinv, (ih hinv).mpr h.right⟩

/-- An invariant that every step keeps holds in all states of a run. -/
theorem reachedStates_invariant
    (hstep : forall s a s', inv s -> step s a = some s' -> inv s')
    {s : state} (hs : inv s) (actions : List action) :
    forall s', s' ∈ reachedStates step s actions -> inv s' := by
  induction actions generalizing s with
  | nil =>
      intro s' hmem
      cases hmem
  | cons a rest ih =>
      intro s' hmem
      cases hnext : step s a with
      | none =>
          rw [reachedStates, hnext] at hmem
          cases hmem
      | some mid =>
          have hmid : inv mid := hstep s a mid hs hnext
          rw [reachedStates, hnext] at hmem
          rcases List.mem_cons.mp hmem with rfl | hlater
          · exact hmid
          · exact ih hmid s' hlater

/-- An invariant that every good step keeps holds in all states of a run whose
steps are good. -/
theorem reachedStates_of_meets
    (hstep : forall s a s', inv s -> good s a -> step s a = some s' -> inv s')
    {s : state} (hs : inv s) (actions : List action)
    (hmeets : RunMeets step good s actions) :
    forall s', s' ∈ reachedStates step s actions -> inv s' := by
  induction actions generalizing s with
  | nil =>
      intro s' hmem
      cases hmem
  | cons a rest ih =>
      cases hnext : step s a with
      | none =>
          intro s' hmem
          rw [reachedStates, hnext] at hmem
          cases hmem
      | some mid =>
          rw [RunMeets, hnext] at hmeets
          have hmid : inv mid := hstep s a mid hs hmeets.1 hnext
          intro s' hmem
          rw [reachedStates, hnext] at hmem
          rcases List.mem_cons.mp hmem with rfl | hlater
          · exact hmid
          · exact ih hmid hmeets.2 s' hlater

/-- A run keeps an invariant as long as its steps are good.  If the first other
step leads to states that are never left again, the run ends among them exactly
when one of its steps was not good. -/
theorem runActions_meets_or {trapped : state -> Prop}
    (hgood : forall s a s', inv s -> good s a -> step s a = some s' -> inv s')
    (hleave : forall s a s', inv s -> ¬ good s a -> step s a = some s' ->
      trapped s')
    (htrapped : forall s a s', trapped s -> step s a = some s' -> trapped s')
    {s s' : state} (hs : inv s) {actions : List action}
    (hrun : runActions step s actions = some s') :
    (RunMeets step good s actions ∧ inv s') ∨
      (¬ RunMeets step good s actions ∧ trapped s') := by
  have hstay : forall (rest : List action) (mid : state), trapped mid ->
      runActions step mid rest = some s' -> trapped s' := by
    intro rest
    induction rest with
    | nil =>
        intro mid hmid hend
        cases hend
        exact hmid
    | cons a later ih =>
        intro mid hmid hend
        rcases Option.bind_eq_some_iff.mp hend with ⟨next, hnext, hlater⟩
        exact ih next (htrapped mid a next hmid hnext) hlater
  induction actions generalizing s with
  | nil =>
      cases hrun
      exact Or.inl ⟨trivial, hs⟩
  | cons a rest ih =>
      rcases Option.bind_eq_some_iff.mp hrun with ⟨mid, hmid, hrest⟩
      have hmeets : RunMeets step good s (a :: rest) <->
          good s a ∧ RunMeets step good mid rest := by
        simp [RunMeets, hmid]
      by_cases ha : good s a
      · rcases ih (hgood s a mid hs ha hmid) hrest with hall | hsome
        · exact Or.inl ⟨hmeets.mpr ⟨ha, hall.1⟩, hall.2⟩
        · exact Or.inr ⟨fun h => hsome.1 (hmeets.mp h).2, hsome.2⟩
      · exact Or.inr ⟨fun h => ha (hmeets.mp h).1,
          hstay rest mid (hleave s a mid hs ha hmid) hrest⟩

theorem runActions_concat (s : state) (actions : List action) (a : action) :
    runActions step s (actions ++ [a]) =
      (runActions step s actions).bind fun s' => step s' a := by
  induction actions generalizing s with
  | nil =>
      simp [runActions]
  | cons b rest ih =>
      simp [runActions, ih, Option.bind_assoc]

/-!
## Two machines
-/

section Related

variable {state' : Type} {step' : state' -> action -> Option state'}
  {related : state -> state' -> Prop}

/-- Two machines that stay related under every action, and stop at the same
ones, do so over whole runs. -/
theorem runActions_rel
    (h : forall s s' a, related s s' ->
      Option.Rel related (step s a) (step' s' a))
    (actions : List action) {s : state} {s' : state'} (hs : related s s') :
    Option.Rel related (runActions step s actions)
      (runActions step' s' actions) := by
  induction actions generalizing s s' with
  | nil =>
      exact .some hs
  | cons a rest ih =>
      have hstep := h s s' a hs
      rw [runActions, runActions]
      generalize step s a = next at hstep
      generalize step' s' a = next' at hstep
      cases hstep with
      | none =>
          exact .none
      | some hnext =>
          exact ih hnext

end Related

end Foundation
end GardHub
