import Mathlib

/-!
# Requests under way

Requests that have been sent and have not come back.  Somebody answers them, in
any order.  Each comes back once, with its answer or without one.
-/

namespace GardHub
namespace Foundation

/-- A request that has been sent, and the answer it has got so far. -/
structure Fetch (request answer : Type) where
  request : request
  answer : Option answer
deriving DecidableEq

namespace Fetch

variable {request answer : Type}

def send (fetches : List (Fetch request answer)) (r : request) :
    List (Fetch request answer) :=
  fetches ++ [⟨r, none⟩]

/-- A request that has not been answered. -/
def waiting (fetches : List (Fetch request answer)) (i : Nat) :
    Option request :=
  match fetches[i]? with
  | some ⟨r, none⟩ => some r
  | _ => none

def answerWith (fetches : List (Fetch request answer)) (i : Nat) (a : answer) :
    List (Fetch request answer) :=
  fetches.modify i fun f => { f with answer := some a }

/-- A request comes back with its answer, or fails. -/
def comeBack (fetches : List (Fetch request answer)) (i : Nat)
    (arrives : Bool) :
    Option (Option answer × List (Fetch request answer)) :=
  fetches[i]?.bind fun f =>
    if arrives then f.answer.map fun a => (some a, fetches.eraseIdx i)
    else some (none, fetches.eraseIdx i)

variable {fetches : List (Fetch request answer)}
  {good : Fetch request answer -> Prop}

@[simp] theorem send_length (r : request) :
    (send fetches r).length = fetches.length + 1 := by
  simp [send]

@[simp] theorem answerWith_length (i : Nat) (a : answer) :
    (answerWith fetches i a).length = fetches.length := by
  simp [answerWith]

/-- Where a flag says whether a request is under way, and one is. -/
theorem asked_of_ne_nil {asked : Bool} (h : fetches.length = asked.toNat)
    (hsome : fetches ≠ []) : asked = true := by
  cases asked with
  | true =>
      rfl
  | false =>
      exact absurd (List.length_eq_zero_iff.mp h) hsome

theorem mem_of_waiting {i : Nat} {r : request}
    (h : waiting fetches i = some r) : ⟨r, none⟩ ∈ fetches := by
  rw [waiting] at h
  split at h
  next hget =>
    cases h
    exact List.mem_of_getElem? hget
  next =>
    cases h

theorem forall_send (h : forall f, f ∈ fetches -> good f) {r : request}
    (hnew : good ⟨r, none⟩) : forall f, f ∈ send fetches r -> good f := by
  intro f hf
  rcases List.mem_append.mp hf with hf | hf
  · exact h f hf
  · rcases List.mem_singleton.mp hf with rfl
    exact hnew

theorem forall_answerWith (h : forall f, f ∈ fetches -> good f) {i : Nat}
    {r : request} (hwaiting : waiting fetches i = some r) {a : answer}
    (hnew : good ⟨r, some a⟩) :
    forall f, f ∈ answerWith fetches i a -> good f := by
  intro f hf
  rcases List.mem_iff_getElem?.mp hf with ⟨j, hj⟩
  rw [answerWith, List.getElem?_modify] at hj
  rcases Option.map_eq_some_iff.mp hj with ⟨old, hold, hf⟩
  by_cases hself : i = j
  · subst hself
    rw [if_pos rfl] at hf
    subst hf
    rw [waiting, hold] at hwaiting
    rcases old with ⟨r', _ | b⟩
    · cases hwaiting
      exact hnew
    · cases hwaiting
  · rw [if_neg hself] at hf
    subst hf
    exact h old (List.mem_of_getElem? hold)

/-- If there is no more than one request, it is the one that is answered. -/
theorem answerWith_only (hlength : fetches.length ≤ 1) {i : Nat} {r : request}
    (hwaiting : waiting fetches i = some r) (a : answer) :
    answerWith fetches i a = [⟨r, some a⟩] := by
  match fetches, i with
  | [], _ =>
      cases hwaiting
  | [⟨r', answer⟩], 0 =>
      cases answer with
      | none =>
          cases hwaiting
          rfl
      | some b =>
          cases hwaiting
  | [_], _ + 1 =>
      cases hwaiting
  | _ :: _ :: _, _ =>
      simp at hlength

/-- What comes back is one of the requests, and the others stay. -/
theorem comeBack_some {i : Nat} {arrives : Bool} {came : Option answer}
    {rest : List (Fetch request answer)}
    (h : comeBack fetches i arrives = some (came, rest)) :
    fetches.length = rest.length + 1 ∧
      (forall f, f ∈ rest -> f ∈ fetches) ∧
      forall a, came = some a ->
        arrives = true ∧ exists r, ⟨r, some a⟩ ∈ fetches := by
  rcases Option.bind_eq_some_iff.mp h with ⟨f, hf, hcame⟩
  rcases List.getElem?_eq_some_iff.mp hf with ⟨hi, hget⟩
  have hlength : fetches.length = (fetches.eraseIdx i).length + 1 := by
    rw [List.length_eraseIdx_of_lt hi]
    lia
  have hmem : f ∈ fetches := List.mem_of_getElem? hf
  cases arrives with
  | false =>
      cases hcame
      exact ⟨hlength, fun g hg => List.mem_of_mem_eraseIdx hg, by simp⟩
  | true =>
      rcases Option.map_eq_some_iff.mp hcame with ⟨a, ha, hrest⟩
      cases hrest
      refine ⟨hlength, fun g hg => List.mem_of_mem_eraseIdx hg, ?_⟩
      rintro b ⟨⟩
      exact ⟨rfl, f.request, ha ▸ hmem⟩

end Fetch

end Foundation
end GardHub
