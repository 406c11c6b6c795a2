import Mathlib

/-!
# Scripts of fallible operations

A script is a finite list of operations performed one after another on a state.
An operation either succeeds with a reply or fails, and in both cases leaves a
state behind.  A run stops at the first operation that fails.
-/

namespace GardHub
namespace Foundation

variable {op reply state : Type}

/-- What a run of a script left behind: the replies of the operations that
succeeded, whether none failed, and the last state. -/
structure ScriptRun (reply state : Type) where
  replies : List reply
  finished : Bool
  final : state

/-- Perform the operations of a script in order. -/
def runScript (perform : op -> state -> Option reply × state) :
    List op -> state -> ScriptRun reply state
  | [], s => { replies := [], finished := true, final := s }
  | o :: rest, s =>
      match perform o s with
      | (none, s') => { replies := [], finished := false, final := s' }
      | (some r, s') =>
          let tail := runScript perform rest s'
          { tail with replies := r :: tail.replies }

variable {perform : op -> state -> Option reply × state}

@[simp] theorem runScript_nil (s : state) :
    runScript perform [] s = { replies := [], finished := true, final := s } :=
  rfl

theorem runScript_cons_of_none {o : op} {s s' : state} (rest : List op)
    (h : perform o s = (none, s')) :
    runScript perform (o :: rest) s =
      { replies := [], finished := false, final := s' } := by
  simp [runScript, h]

theorem runScript_cons_of_some {o : op} {s s' : state} {r : reply}
    (rest : List op) (h : perform o s = (some r, s')) :
    runScript perform (o :: rest) s =
      { replies := r :: (runScript perform rest s').replies
        finished := (runScript perform rest s').finished
        final := (runScript perform rest s').final } := by
  simp [runScript, h]

@[simp] theorem runScript_singleton (o : op) (s : state) :
    runScript perform [o] s =
      { replies := (perform o s).1.toList
        finished := (perform o s).1.isSome
        final := (perform o s).2 } := by
  cases hstep : perform o s with
  | mk result s' =>
      cases result with
      | none =>
          simp [runScript_cons_of_none _ hstep]
      | some r =>
          simp [runScript_cons_of_some _ hstep]

theorem runScript_cons_finished_iff (o : op) (rest : List op) (s : state) :
    (runScript perform (o :: rest) s).finished = true <->
      (perform o s).1.isSome = true ∧
        (runScript perform rest (perform o s).2).finished = true := by
  cases hstep : perform o s with
  | mk result s' =>
      cases result with
      | none =>
          simp [runScript_cons_of_none _ hstep]
      | some r =>
          simp [runScript_cons_of_some _ hstep]

theorem runScript_cons_of_finished {o : op} {rest : List op} {s : state}
    (h : (runScript perform (o :: rest) s).finished = true) :
    exists r s', perform o s = (some r, s') ∧
      (runScript perform rest s').finished = true ∧
      runScript perform (o :: rest) s =
        { replies := r :: (runScript perform rest s').replies
          finished := true
          final := (runScript perform rest s').final } := by
  cases hstep : perform o s with
  | mk result s' =>
      cases result with
      | none =>
          rw [runScript_cons_of_none rest hstep] at h
          cases h
      | some r =>
          rw [runScript_cons_of_some rest hstep] at h ⊢
          have htail : (runScript perform rest s').finished = true := h
          exact ⟨r, s', rfl, htail, by rw [htail]⟩

theorem runScript_finished_iff (ops : List op) (s : state) :
    (runScript perform ops s).finished = true <->
      (runScript perform ops s).replies.length = ops.length := by
  induction ops generalizing s with
  | nil =>
      simp
  | cons o rest ih =>
      cases hstep : perform o s with
      | mk result s' =>
          cases result with
          | none =>
              simp [runScript_cons_of_none _ hstep]
          | some r =>
              simp [runScript_cons_of_some _ hstep, ih s']

/-!
## Scripts that depend on earlier replies
-/

/-- Go on where a finished run ended, knowing its replies; a run that did not
finish stays as it is. -/
def ScriptRun.andThen (first : ScriptRun reply state)
    (next : List reply -> state -> ScriptRun reply state) :
    ScriptRun reply state :=
  if first.finished then
    let tail := next first.replies first.final
    { tail with replies := first.replies ++ tail.replies }
  else first

theorem ScriptRun.andThen_of_finished {first : ScriptRun reply state}
    {next : List reply -> state -> ScriptRun reply state}
    (h : first.finished = true) :
    first.andThen next =
      { replies := first.replies ++ (next first.replies first.final).replies
        finished := (next first.replies first.final).finished
        final := (next first.replies first.final).final } := by
  simp [ScriptRun.andThen, h]

theorem ScriptRun.andThen_of_unfinished {first : ScriptRun reply state}
    {next : List reply -> state -> ScriptRun reply state}
    (h : first.finished = false) : first.andThen next = first := by
  simp [ScriptRun.andThen, h]

theorem ScriptRun.andThen_finished_iff {first : ScriptRun reply state}
    {next : List reply -> state -> ScriptRun reply state} :
    (first.andThen next).finished = true <->
      first.finished = true ∧
        (next first.replies first.final).finished = true := by
  cases h : first.finished <;> simp [ScriptRun.andThen, h]

/-!
## The calls of a script

What a run did, operation by operation, with what came of each.  A run follows
a script when it performs the operations of the script in order, goes on after
each complete one, and ends at the first that is not.
-/

/-- `FollowsScript complete ops calls finished`: the calls perform `ops`, and
`finished` tells whether they got to the end. -/
inductive FollowsScript {op event : Type} (complete : op -> event -> Prop) :
    List op -> List (op × event) -> Bool -> Prop where
  | finish : FollowsScript complete [] [] true
  | stop {o : op} {rest : List op} {e : event} (h : ¬ complete o e) :
      FollowsScript complete (o :: rest) [(o, e)] false
  | next {o : op} {rest : List op} {e : event} {calls : List (op × event)}
      {finished : Bool} (h : complete o e)
      (tail : FollowsScript complete rest calls finished) :
      FollowsScript complete (o :: rest) ((o, e) :: calls) finished

namespace FollowsScript

variable {event : Type} {complete : op -> event -> Prop}
  {ops more : List op} {calls others : List (op × event)} {finished : Bool}

theorem operations_prefix (h : FollowsScript complete ops calls finished) :
    calls.map Prod.fst <+: ops := by
  induction h with
  | finish =>
      exact List.prefix_rfl
  | stop =>
      exact ⟨_, rfl⟩
  | next _ _ ih =>
      exact (List.prefix_cons_inj _).mpr ih

theorem complete_of_mem_dropLast
    (h : FollowsScript complete ops calls finished) :
    forall call, call ∈ calls.dropLast -> complete call.1 call.2 := by
  induction h with
  | finish =>
      simp
  | stop =>
      simp
  | @next o rest e calls finished hcomplete _ ih =>
      intro call hcall
      cases calls with
      | nil =>
          simp at hcall
      | cons second calls =>
          rw [List.dropLast_cons_cons, List.mem_cons] at hcall
          rcases hcall with rfl | hcall
          · exact hcomplete
          · exact ih call hcall

theorem complete_of_finished (h : FollowsScript complete ops calls true) :
    calls.map Prod.fst = ops ∧
      forall call, call ∈ calls -> complete call.1 call.2 := by
  generalize hfinished : true = finished at h
  induction h with
  | finish =>
      simp
  | stop =>
      cases hfinished
  | next hcomplete _ ih =>
      rcases ih hfinished with ⟨hops, hcalls⟩
      exact ⟨by simp [hops], List.forall_mem_cons.mpr ⟨hcomplete, hcalls⟩⟩

/-- A run that did not finish ended at an incomplete operation. -/
theorem incomplete_of_unfinished (h : FollowsScript complete ops calls false) :
    exists call, calls.getLast? = some call ∧ ¬ complete call.1 call.2 := by
  generalize hfinished : false = finished at h
  induction h with
  | finish =>
      cases hfinished
  | stop hincomplete =>
      exact ⟨_, rfl, hincomplete⟩
  | @next o rest e calls finished _ _ ih =>
      rcases ih hfinished with ⟨call, hlast, hincomplete⟩
      exact ⟨call, by simp [List.getLast?_cons, hlast], hincomplete⟩

/-- A run finishes exactly when it performed the whole script, every operation
completely. -/
theorem finished_iff (h : FollowsScript complete ops calls finished) :
    finished = true <->
      calls.map Prod.fst = ops ∧
        forall call, call ∈ calls -> complete call.1 call.2 := by
  cases finished with
  | true =>
      exact iff_of_true rfl h.complete_of_finished
  | false =>
      rcases h.incomplete_of_unfinished with ⟨call, hlast, hincomplete⟩
      exact iff_of_false Bool.false_ne_true fun hall =>
        hincomplete (hall.2 call (List.mem_of_getLast? hlast))

theorem unfinished_iff (h : FollowsScript complete ops calls finished) :
    finished = false <->
      exists call, calls.getLast? = some call ∧ ¬ complete call.1 call.2 := by
  constructor
  · rintro rfl
    exact h.incomplete_of_unfinished
  · rintro ⟨call, hlast, hincomplete⟩
    rw [Bool.eq_false_iff, Ne, h.finished_iff]
    exact fun hall => hincomplete (hall.2 call (List.mem_of_getLast? hlast))

theorem append (h : FollowsScript complete ops calls true)
    (h' : FollowsScript complete more others finished) :
    FollowsScript complete (ops ++ more) (calls ++ others) finished := by
  generalize hfinished : true = first at h
  induction h with
  | finish =>
      exact h'
  | stop =>
      cases hfinished
  | next hcomplete _ ih =>
      exact .next hcomplete (ih hfinished)

/-- A run that stopped would have stopped there in any longer script. -/
theorem append_of_unfinished (more : List op)
    (h : FollowsScript complete ops calls false) :
    FollowsScript complete (ops ++ more) calls false := by
  generalize hfinished : false = finished at h
  induction h with
  | finish =>
      cases hfinished
  | stop hincomplete =>
      exact .stop hincomplete
  | next hcomplete _ ih =>
      exact .next hcomplete (ih hfinished)

end FollowsScript

section Related

variable {state' : Type} {perform' : op -> state' -> Option reply × state'}
  {related : state -> state' -> Prop}

end Related

section Log

variable {event entry : Type}

/-- A run from where the log was `before` follows a script, with one entry in
the log for every call. -/
def ScriptRun.Logs (log : state -> List entry) (entryOf : op -> event -> entry)
    (complete : op -> event -> Prop) (ops : List op) (before : List entry)
    (run : ScriptRun reply state) : Prop :=
  exists calls, FollowsScript complete ops calls run.finished ∧
    log run.final = before ++ calls.map fun call => entryOf call.1 call.2

variable {log : state -> List entry} {entryOf : op -> event -> entry}
  {complete : op -> event -> Prop}

/-- Operations that each leave one entry in the log, and reply exactly when
they are complete, make the run of a script follow it. -/
theorem runScript_logs {ops : List op}
    (hstep : forall o, o ∈ ops -> forall s, exists e,
      log (perform o s).2 = log s ++ [entryOf o e] ∧
        ((perform o s).1.isSome = true <-> complete o e)) (s : state) :
    (runScript perform ops s).Logs log entryOf complete ops (log s) := by
  induction ops generalizing s with
  | nil =>
      exact ⟨[], .finish, by simp⟩
  | cons o rest ih =>
      rcases hstep o (by simp) s with ⟨e, hlog, hcomplete⟩
      cases hperform : perform o s with
      | mk result s' =>
          rw [hperform] at hlog hcomplete
          cases result with
          | none =>
              rw [runScript_cons_of_none rest hperform]
              exact ⟨[(o, e)], .stop (by simpa using hcomplete), hlog⟩
          | some r =>
              rw [runScript_cons_of_some rest hperform]
              rcases ih (fun p hp => hstep p (List.mem_cons_of_mem o hp)) s'
                with ⟨calls, hfollows, hlog'⟩
              exact ⟨(o, e) :: calls, .next (by simpa using hcomplete) hfollows,
                by simp [hlog', hlog]⟩

/-- Scripts run one after the other follow the script that joins them. -/
theorem ScriptRun.Logs.andThen {first : ScriptRun reply state}
    {next : List reply -> state -> ScriptRun reply state} {ops more : List op}
    {before : List entry} (h : first.Logs log entryOf complete ops before)
    (hnext : first.finished = true ->
      (next first.replies first.final).Logs log entryOf complete more
        (log first.final)) :
    (first.andThen next).Logs log entryOf complete (ops ++ more) before := by
  rcases h with ⟨calls, hfollows, hlog⟩
  cases hfinished : first.finished with
  | false =>
      rw [hfinished] at hfollows
      rw [ScriptRun.andThen_of_unfinished hfinished]
      refine ⟨calls, ?_, hlog⟩
      rw [hfinished]
      exact hfollows.append_of_unfinished more
  | true =>
      rw [hfinished] at hfollows
      rw [ScriptRun.andThen_of_finished hfinished]
      rcases hnext hfinished with ⟨others, hfollows', hlog'⟩
      exact ⟨calls ++ others, hfollows.append hfollows', by simp [hlog', hlog]⟩

end Log

end Foundation
end GardHub
