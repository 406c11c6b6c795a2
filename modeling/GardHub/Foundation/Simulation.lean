import Mathlib

/-!
# Simulation of machines with outputs

A machine takes actions one after another and gives an output for each; an
action may have no outcome.  A specification is a machine on abstract states
that always has one.  When a relation between the two kinds of states is kept
by every action, the machine gives the outputs of its specification.
-/

namespace GardHub
namespace Foundation

variable {state abstract action output : Type}

/-- The outputs of a run, and the state in which it ends. -/
def runOutputs (step : state -> action -> Option (output × state)) :
    state -> List action -> Option (List output × state)
  | s, [] => some ([], s)
  | s, a :: rest =>
      match step s a with
      | none => none
      | some (out, s') =>
          (runOutputs step s' rest).map fun tail => (out :: tail.1, tail.2)

/-- The outputs a specification demands, and the state in which it ends. -/
def specOutputs (spec : abstract -> action -> output × abstract) :
    abstract -> List action -> List output × abstract
  | t, [] => ([], t)
  | t, a :: rest =>
      let tail := specOutputs spec (spec t a).2 rest
      ((spec t a).1 :: tail.1, tail.2)

/-- Every action of a run is allowed where the specification takes it. -/
def SpecAllows (spec : abstract -> action -> output × abstract)
    (allowed : abstract -> action -> Prop) : abstract -> List action -> Prop
  | _, [] => True
  | t, a :: rest => allowed t a ∧ SpecAllows spec allowed (spec t a).2 rest

/-- Related states stay related, and the outputs are those of the
specification. -/
def Simulates (step : state -> action -> Option (output × state))
    (spec : abstract -> action -> output × abstract)
    (allowed : abstract -> action -> Prop)
    (related : state -> abstract -> Prop) : Prop :=
  forall s t a, related s t -> allowed t a ->
    exists s', step s a = some ((spec t a).1, s') ∧ related s' (spec t a).2

variable {step : state -> action -> Option (output × state)}
  {spec : abstract -> action -> output × abstract}
  {allowed : abstract -> action -> Prop} {related : state -> abstract -> Prop}

theorem runOutputs_cons_of_some {s s' : state} {a : action} {out : output}
    (rest : List action) (h : step s a = some (out, s')) :
    runOutputs step s (a :: rest) =
      (runOutputs step s' rest).map fun tail => (out :: tail.1, tail.2) := by
  rw [runOutputs, h]

/-- A simulation carries over to whole runs. -/
theorem Simulates.run (h : Simulates step spec allowed related) {s : state}
    {t : abstract} (hrelated : related s t) {actions : List action}
    (hallowed : SpecAllows spec allowed t actions) :
    exists s', runOutputs step s actions =
        some ((specOutputs spec t actions).1, s') ∧
      related s' (specOutputs spec t actions).2 := by
  induction actions generalizing s t with
  | nil =>
      exact ⟨s, rfl, hrelated⟩
  | cons a rest ih =>
      rcases h s t a hrelated hallowed.1 with ⟨mid, hstep, hmid⟩
      rcases ih hmid hallowed.2 with ⟨s', hrun, hs'⟩
      refine ⟨s', ?_, hs'⟩
      rw [runOutputs_cons_of_some rest hstep, hrun]
      rfl

theorem specOutputs_rename {renamed : Type} (rename : output -> renamed)
    (t : abstract) (actions : List action) :
    specOutputs (fun t a => (rename (spec t a).1, (spec t a).2)) t actions =
      ((specOutputs spec t actions).1.map rename,
        (specOutputs spec t actions).2) := by
  induction actions generalizing t with
  | nil =>
      rfl
  | cons a rest ih =>
      simp only [specOutputs, ih, List.map_cons]

theorem specAllows_of_forall (h : forall t a, allowed t a) (t : abstract)
    (actions : List action) : SpecAllows spec allowed t actions := by
  induction actions generalizing t with
  | nil =>
      trivial
  | cons a rest ih =>
      exact ⟨h t a, ih _⟩

/-- A run is also allowed under conditions that hold along the way. -/
theorem SpecAllows.mono {allowed' : abstract -> action -> Prop}
    (inv : abstract -> List action -> Prop)
    (hkeeps : forall t a rest, inv t (a :: rest) -> allowed t a ->
      allowed' t a ∧ inv (spec t a).2 rest)
    {t : abstract} {actions : List action} (hinv : inv t actions)
    (h : SpecAllows spec allowed t actions) :
    SpecAllows spec allowed' t actions := by
  induction actions generalizing t with
  | nil =>
      trivial
  | cons a rest ih =>
      rcases hkeeps t a rest hinv h.1 with ⟨ha, hrest⟩
      exact ⟨ha, ih hrest h.2⟩

end Foundation
end GardHub
