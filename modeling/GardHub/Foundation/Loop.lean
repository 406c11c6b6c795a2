import Mathlib

/-!
# Loops with an early end

A loop over a list of indices whose body may stop it for a reason.  What was
done until then stays done.
-/

namespace GardHub
namespace Foundation

variable {index state stop : Type}

/-- Perform the body for one index after another until it stops the loop. -/
def loopOver (body : index -> state -> Option stop × state) :
    List index -> state -> Option stop × state
  | [], s => (none, s)
  | i :: rest, s =>
      match body i s with
      | (none, s') => loopOver body rest s'
      | (some reason, s') => (some reason, s')

variable {body : index -> state -> Option stop × state}

@[simp] theorem loopOver_nil (s : state) : loopOver body [] s = (none, s) := rfl

theorem loopOver_cons_of_none {i : index} {s s' : state} (rest : List index)
    (h : body i s = (none, s')) :
    loopOver body (i :: rest) s = loopOver body rest s' := by
  simp [loopOver, h]

theorem loopOver_cons_of_some {i : index} {s s' : state} {reason : stop}
    (rest : List index) (h : body i s = (some reason, s')) :
    loopOver body (i :: rest) s = (some reason, s') := by
  simp [loopOver, h]

theorem loopOver_append_of_some {front : List index} {s s' : state}
    {reason : stop} (back : List index)
    (h : loopOver body front s = (some reason, s')) :
    loopOver body (front ++ back) s = (some reason, s') := by
  induction front generalizing s with
  | nil =>
      cases h
  | cons i rest ih =>
      cases hstep : body i s with
      | mk result mid =>
          cases result with
          | none =>
              rw [loopOver_cons_of_none _ hstep] at h
              rw [List.cons_append, loopOver_cons_of_none _ hstep]
              exact ih h
          | some reason' =>
              rw [loopOver_cons_of_some _ hstep] at h
              rw [List.cons_append, loopOver_cons_of_some _ hstep]
              exact h

theorem loopOver_append_of_none {front : List index} {s s' : state}
    (back : List index) (h : loopOver body front s = (none, s')) :
    loopOver body (front ++ back) s = loopOver body back s' := by
  induction front generalizing s with
  | nil =>
      cases h
      rfl
  | cons i rest ih =>
      cases hstep : body i s with
      | mk result mid =>
          cases result with
          | none =>
              rw [loopOver_cons_of_none _ hstep] at h
              rw [List.cons_append, loopOver_cons_of_none _ hstep]
              exact ih h
          | some reason =>
              rw [loopOver_cons_of_some _ hstep] at h
              cases h

/-- A loop that ends regularly has performed its body for every index. -/
theorem loopOver_goes {indices : List index} {s s' : state}
    (h : loopOver body indices s = (none, s')) :
    forall i, i ∈ indices -> exists t, (body i t).1 = none := by
  induction indices generalizing s with
  | nil =>
      intro i hi
      cases hi
  | cons j rest ih =>
      intro i hi
      cases hstep : body j s with
      | mk result mid =>
          cases result with
          | none =>
              rw [loopOver_cons_of_none _ hstep] at h
              rcases List.mem_cons.mp hi with rfl | hi
              · exact ⟨s, by rw [hstep]⟩
              · exact ih h i hi
          | some reason =>
              rw [loopOver_cons_of_some _ hstep] at h
              cases h

/-- An invariant of the body is an invariant of the loop, however it ends. -/
theorem loopOver_preserves {inv : state -> Prop} (indices : List index)
    (hbody : forall i, i ∈ indices -> forall s, inv s -> inv (body i s).2)
    {s : state} (hs : inv s) : inv (loopOver body indices s).2 := by
  induction indices generalizing s with
  | nil =>
      exact hs
  | cons i rest ih =>
      have hinv := hbody i List.mem_cons_self s hs
      cases hstep : body i s with
      | mk result mid =>
          rw [hstep] at hinv
          cases result with
          | none =>
              rw [loopOver_cons_of_none _ hstep]
              exact ih (fun j hj => hbody j (List.mem_cons_of_mem _ hj)) hinv
          | some reason =>
              rw [loopOver_cons_of_some _ hstep]
              exact hinv

/-- A counted loop whose body never stops ends in a state that satisfies the
invariant for the full count. -/
theorem loopOver_range {body : Nat -> state -> Option stop × state}
    {inv : Nat -> state -> Prop} (count : Nat)
    (hbody : forall i, i < count -> forall s, inv i s ->
      (body i s).1 = none ∧ inv (i + 1) (body i s).2)
    {s : state} (hs : inv 0 s) :
    exists s', loopOver body (List.range count) s = (none, s') ∧
      inv count s' := by
  induction count with
  | zero =>
      exact ⟨s, rfl, hs⟩
  | succ count ih =>
      rcases ih (fun i hi => hbody i (Nat.lt_succ_of_lt hi))
        with ⟨mid, hloop, hinv⟩
      rcases hbody count (Nat.lt_succ_self count) mid hinv
        with ⟨hnone, hnext⟩
      refine ⟨(body count mid).2, ?_, hnext⟩
      rw [List.range_succ, loopOver_append_of_none _ hloop]
      exact loopOver_cons_of_none _ (Prod.ext hnone rfl)

/-- A loop whose body never stops ends in a state that satisfies the invariant
for all indices, if the body carries it from those in front to the next one. -/
theorem loopOver_all {inv : List index -> state -> Prop} (indices : List index)
    (hbody : forall front i back, indices = front ++ i :: back -> forall s,
      inv front s -> (body i s).1 = none ∧ inv (front ++ [i]) (body i s).2)
    {s : state} (hs : inv [] s) :
    exists s', loopOver body indices s = (none, s') ∧ inv indices s' := by
  induction indices using List.reverseRecOn with
  | nil =>
      exact ⟨s, rfl, hs⟩
  | append_singleton front i ih =>
      have hfront : forall front' j back, front = front' ++ j :: back ->
          forall t, inv front' t ->
            (body j t).1 = none ∧ inv (front' ++ [j]) (body j t).2 := by
        intro front' j back hsplit
        apply hbody front' j (back ++ [i])
        rw [hsplit, List.append_assoc, List.cons_append]
      rcases ih hfront with ⟨mid, hloop, hinv⟩
      rcases hbody front i [] rfl mid hinv with ⟨hnone, hnext⟩
      refine ⟨(body i mid).2, ?_, hnext⟩
      rw [loopOver_append_of_none _ hloop]
      exact loopOver_cons_of_none _ (Prod.ext hnone rfl)

/-- The first index at which a counted loop is stopped, or the count. -/
def firstStop (stops : Nat -> Bool) (count : Nat) : Nat :=
  (List.range count).findIdx stops

theorem firstStop_le (stops : Nat -> Bool) (count : Nat) :
    firstStop stops count ≤ count := by
  have h : (List.range count).findIdx stops ≤ (List.range count).length :=
    List.findIdx_le_length
  rwa [List.length_range] at h

theorem not_stops_of_lt_firstStop {stops : Nat -> Bool} {count i : Nat}
    (h : i < firstStop stops count) : stops i = false := by
  have hstops := List.not_of_lt_findIdx h
  simpa using hstops

theorem stops_firstStop {stops : Nat -> Bool} {count : Nat}
    (h : firstStop stops count < count) :
    stops (firstStop stops count) = true := by
  have hlength : (List.range count).findIdx stops <
      (List.range count).length := by
    rw [List.length_range]
    exact h
  have hstops := List.findIdx_getElem (w := hlength)
  rw [List.getElem_range] at hstops
  exact hstops

theorem firstStop_eq {stops : Nat -> Bool} {count : Nat}
    (h : forall i, i < count -> stops i = false) :
    firstStop stops count = count := by
  by_contra hne
  have hlt : firstStop stops count < count := by
    have hle := firstStop_le stops count
    lia
  have hstops := stops_firstStop hlt
  rw [h _ hlt] at hstops
  cases hstops

theorem firstStop_succ (stops : Nat -> Bool) (count : Nat) :
    firstStop stops (count + 1) =
      if stops 0 then 0 else firstStop (fun i => stops (i + 1)) count + 1 := by
  rw [firstStop, List.range_succ_eq_map, List.findIdx_cons, List.findIdx_map]
  cases stops 0 <;> rfl

/-- A counted loop performs its body up to the first index that stops it. -/
theorem loopOver_range_firstStop {body : Nat -> state -> Option stop × state}
    {inv : Nat -> state -> Prop} {stops : Nat -> Bool} {reason : stop}
    (count : Nat)
    (hgoes : forall i, stops i = false -> forall s, inv i s ->
      (body i s).1 = none ∧ inv (i + 1) (body i s).2)
    (hstops : forall i, stops i = true -> forall s,
      body i s = (some reason, s))
    {s : state} (hs : inv 0 s) :
    exists s', inv (firstStop stops count) s' ∧
      ((firstStop stops count = count ∧
          loopOver body (List.range count) s = (none, s')) ∨
        (firstStop stops count < count ∧
          loopOver body (List.range count) s = (some reason, s'))) := by
  rcases loopOver_range (firstStop stops count)
    (fun i hi => hgoes i (not_stops_of_lt_firstStop hi)) hs
    with ⟨s', hloop, hinv⟩
  refine ⟨s', hinv, ?_⟩
  rcases Nat.eq_or_lt_of_le (firstStop_le stops count) with heq | hlt
  · rw [heq] at hloop
    exact Or.inl ⟨heq, hloop⟩
  · refine Or.inr ⟨hlt, ?_⟩
    have hsplit : List.range count =
        List.range (firstStop stops count) ++ firstStop stops count ::
          (List.range (count - firstStop stops count - 1)).map
            (firstStop stops count + 1 + ·) := by
      have hcount : count = firstStop stops count + 1 +
          (count - firstStop stops count - 1) := by
        lia
      conv_lhs => rw [hcount]
      rw [List.range_add, List.range_succ, List.append_assoc]
      rfl
    rw [hsplit, loopOver_append_of_none _ hloop]
    exact loopOver_cons_of_some _ (hstops _ (stops_firstStop hlt) s')

/-- Two loops agree if their bodies agree on every index that is reached. -/
theorem loopOver_congr {body body' : index -> state -> Option stop × state}
    {stops : index -> Prop}
    (hstops : forall i s, stops i -> (body i s).1 ≠ none)
    (indices : List index)
    (h : forall front i back, indices = front ++ i :: back ->
      (forall j, j ∈ front -> ¬ stops j) -> forall s, body i s = body' i s)
    (s : state) : loopOver body indices s = loopOver body' indices s := by
  induction indices generalizing s with
  | nil =>
      rfl
  | cons i rest ih =>
      have hhead : body i s = body' i s := h [] i rest rfl (by simp) s
      cases hstep : body i s with
      | mk result mid =>
          rw [hstep] at hhead
          cases result with
          | none =>
              rw [loopOver_cons_of_none _ hstep,
                loopOver_cons_of_none _ hhead.symm]
              have hgoes : ¬ stops i := by
                intro hi
                exact hstops i s hi (by rw [hstep])
              apply ih
              intro front j back hsplit hfront
              apply h (i :: front) j back (by rw [hsplit]; rfl)
              intro k hk
              rcases List.mem_cons.mp hk with rfl | hk
              · exact hgoes
              · exact hfront k hk
          | some reason =>
              rw [loopOver_cons_of_some _ hstep,
                loopOver_cons_of_some _ hhead.symm]

/-- Two counted loops agree if their bodies agree as long as nothing stops
them. -/
theorem loopOver_range_congr {body body' : Nat -> state -> Option stop × state}
    {stops : Nat -> Bool}
    (hstops : forall i s, stops i = true -> (body i s).1 ≠ none) (count : Nat)
    (h : forall i, i < count -> (forall j, j < i -> stops j = false) ->
      forall s, body i s = body' i s) (s : state) :
    loopOver body (List.range count) s =
      loopOver body' (List.range count) s := by
  have hstops' : forall i s, (fun j => stops j = true) i ->
      (body i s).1 ≠ none := hstops
  apply loopOver_congr hstops'
  intro front i back hsplit hfront
  have hlength : front.length < count := by
    have hlengths := congrArg List.length hsplit
    simp at hlengths
    lia
  have htake : front = List.range front.length := by
    have htakes := congrArg (List.take front.length) hsplit
    rw [List.take_left, List.take_range, min_eq_left (by lia)] at htakes
    exact htakes.symm
  have hi : i = front.length := by
    have hget := congrArg (fun l => l[front.length]?) hsplit
    simp [hlength] at hget
    exact hget.symm
  apply h i (by lia)
  intro j hj
  have hmem : j ∈ front := by
    rw [htake, List.mem_range]
    lia
  simpa using hfront j hmem

/-- What a counted loop has done behind some of its indices, it goes on from. -/
theorem loopOver_range_of_le {body : Nat -> state -> Option stop × state}
    {count front : Nat} {s s' : state} (hle : front ≤ count)
    (h : loopOver body (List.range front) s = (none, s')) :
    loopOver body (List.range count) s =
      loopOver body ((List.range (count - front)).map (front + ·)) s' := by
  have hsplit : List.range count =
      List.range front ++ (List.range (count - front)).map (front + ·) := by
    rw [← List.range_add, Nat.add_sub_cancel' hle]
  rw [hsplit, loopOver_append_of_none _ h]

end Foundation
end GardHub
