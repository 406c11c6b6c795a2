import Mathlib

/-!
# Lists

The elements of a list that match a predicate and where in the list they are,
the classes of a list under the values of a function, and records of one size
that stand in a row.
-/

namespace GardHub
namespace Foundation

/-- Fewer than `n` numbers leave one of the first `n` out. -/
theorem exists_lt_not_mem {used : List Nat} {n : Nat} (h : used.length < n) :
    exists j, j < n ∧ j ∉ used := by
  by_contra hall
  push Not at hall
  have hsub : List.range n ⊆ used := by
    intro j hj
    exact hall j (List.mem_range.mp hj)
  have hle := (List.nodup_range.subperm hsub).length_le
  rw [List.length_range] at hle
  lia

/-- An element of a list whose values differ has not come before. -/
theorem value_not_mem_front {item value : Type} {f : item -> value}
    {list front back : List item} {a : item} (h : (list.map f).Nodup)
    (hsplit : list = front ++ a :: back) : f a ∉ front.map f := by
  rw [hsplit, List.map_append, List.map_cons] at h
  have hother := (List.nodup_middle.mp h).notMem
  exact fun hmem => hother (List.mem_append_left _ hmem)

section Matches

variable {item : Type} {p : item -> Bool}

theorem countP_le_of_lt {list : List item} {m : Nat}
    (h : forall k, (hk : k < list.length) -> p list[k] = true -> k < m) :
    list.countP p ≤ m := by
  have hback : (list.drop m).countP p = 0 := by
    rw [List.countP_eq_zero]
    intro a ha hp
    rcases List.mem_iff_getElem.mp ha with ⟨i, hi, rfl⟩
    rw [List.getElem_drop] at hp
    have hlt := h (m + i) (by rw [List.length_drop] at hi; lia) hp
    lia
  have hfront : (list.take m).countP p ≤ m :=
    le_trans List.countP_le_length (List.length_take_le _ _)
  rw [← List.take_append_drop m list, List.countP_append, hback]
  exact hfront

/-- The matches of a list one element of which is replaced. -/
theorem countP_set_add {list : List item} {i : Nat} {a : item} (b : item)
    (h : list[i]? = some a) :
    (list.set i b).countP p + (if p a then 1 else 0) =
      list.countP p + (if p b then 1 else 0) := by
  induction list generalizing i with
  | nil =>
      cases h
  | cons c rest ih =>
      cases i with
      | zero =>
          cases h
          rw [List.set_cons_zero, List.countP_cons, List.countP_cons]
          lia
      | succ i =>
          have hrest := ih h
          rw [List.set_cons_succ, List.countP_cons, List.countP_cons]
          lia

/-- The matches of a list have indices below their number exactly when nothing
else stands in front of them. -/
theorem forall_lt_countP_iff (list : List item) :
    (forall k, (hk : k < list.length) -> p list[k] = true ->
        k < list.countP p) <->
      list.Pairwise fun a b => p b = true -> p a = true := by
  induction list with
  | nil =>
      simp
  | cons a rest ih =>
      rw [List.pairwise_cons, ← ih]
      cases ha : p a with
      | true =>
          rw [List.countP_cons_of_pos ha]
          constructor
          · intro h
            refine ⟨fun b _ _ => rfl, ?_⟩
            intro k hk hp
            have hlt := h (k + 1) (by simpa using hk) hp
            lia
          · rintro ⟨-, h⟩ k hk hp
            cases k with
            | zero =>
                exact Nat.succ_pos _
            | succ k =>
                exact Nat.succ_lt_succ (h k (by simpa using hk) hp)
      | false =>
          have hne : ¬ p a = true := by
            rw [ha]
            exact Bool.false_ne_true
          rw [List.countP_cons_of_neg hne]
          constructor
          · intro h
            have hsmall : forall k, (hk : k < rest.length) ->
                p rest[k] = true -> k < rest.countP p - 1 := by
              intro k hk hp
              have hlt := h (k + 1) (by simpa using hk) hp
              lia
            have hnone : rest.countP p = 0 := by
              have hle := countP_le_of_lt hsmall
              lia
            constructor
            · intro b hb hp
              exact absurd hp (List.countP_eq_zero.mp hnone b hb)
            · intro k hk hp
              exact absurd hp
                (List.countP_eq_zero.mp hnone _ (List.getElem_mem hk))
          · rintro ⟨hhead, -⟩ k hk hp
            cases k with
            | zero =>
                exact absurd hp hne
            | succ k =>
                have hfalse := hhead _ (List.getElem_mem (by simpa using hk)) hp
                cases hfalse

end Matches

section Classes

variable {item key : Type}

theorem nodup_eraseDups [BEq key] [LawfulBEq key] (list : List key) :
    list.eraseDups.Nodup := by
  induction hlength : list.length using Nat.strongRecOn generalizing list with
  | ind n ih =>
      cases list with
      | nil =>
          simp
      | cons a rest =>
          rw [List.eraseDups_cons, List.nodup_cons]
          constructor
          · simp [List.mem_eraseDups]
          · refine ih _ ?_ _ rfl
            rw [← hlength, List.length_cons]
            exact Nat.lt_succ_of_le (List.length_filter_le _ _)

theorem flatten_classes_perm [DecidableEq key] (f : item -> key)
    {keys : List key}
    (hkeys : keys.Nodup) {list : List item}
    (hall : forall a, a ∈ list -> f a ∈ keys) :
    (keys.map fun k => list.filter fun a => f a = k).flatten.Perm list := by
  induction keys generalizing list with
  | nil =>
      have hnil : list = [] := by
        rw [List.eq_nil_iff_forall_not_mem]
        intro a ha
        exact absurd (hall a ha) List.not_mem_nil
      rw [hnil]
      rfl
  | cons k rest ih =>
      rw [List.nodup_cons] at hkeys
      have hothers : forall a, a ∈ list.filter (fun a => !decide (f a = k)) ->
          f a ∈ rest := by
        intro a ha
        rw [List.mem_filter] at ha
        have hmem := hall a ha.1
        simp_all
      have hclass : forall k', k' ∈ rest ->
          (list.filter fun a => f a = k') =
            (list.filter fun a => !decide (f a = k)).filter
              fun a => f a = k' := by
        intro k' hk'
        rw [List.filter_filter]
        apply List.filter_congr
        intro a _
        have hne : k' ≠ k := fun hsame => hkeys.1 (hsame ▸ hk')
        by_cases hfa : f a = k' <;> simp [hfa, hne]
      rw [List.map_cons, List.flatten_cons, List.map_congr_left hclass]
      exact ((ih hkeys.2 hothers).append_left _).trans
        (List.filter_append_perm _ _)

end Classes

section Records

variable {item cell : Type} {write : item -> List cell} {size : Nat}

/-- In front of a record stand whole records. -/
theorem drop_flatMap_of_length (h : forall a, (write a).length = size)
    (list : List item) (i : Nat) :
    (list.flatMap write).drop (i * size) = (list.drop i).flatMap write := by
  induction i generalizing list with
  | zero =>
      rw [Nat.zero_mul, List.drop_zero, List.drop_zero]
  | succ i ih =>
      cases list with
      | nil =>
          rw [List.flatMap_nil, List.drop_nil, List.drop_nil, List.flatMap_nil]
      | cons a rest =>
          have hbehind : (i + 1) * size = (write a).length + i * size := by
            rw [h a]
            ring
          rw [List.flatMap_cons, hbehind, ← List.drop_drop, List.drop_left, ih,
            List.drop_succ_cons]

theorem length_flatMap_of_length (h : forall a, (write a).length = size)
    (list : List item) :
    (list.flatMap write).length = list.length * size := by
  rw [List.length_flatMap, List.map_congr_left (fun a _ => h a),
    List.map_const', List.sum_replicate, smul_eq_mul]

end Records

/-- What is related to a list has something in it for everything it holds. -/
theorem exists_mem_of_forall₂ {source target : Type}
    {related : source -> target -> Prop} {xs : List source} {ys : List target}
    (h : List.Forall₂ related xs ys) {y : target} (hy : y ∈ ys) :
    exists x, x ∈ xs ∧ related x y := by
  induction h with
  | nil =>
      cases hy
  | cons hfirst _ ih =>
      rcases List.mem_cons.mp hy with rfl | hlater
      · exact ⟨_, List.mem_cons_self, hfirst⟩
      · rcases ih hlater with ⟨x, hx, hrelated⟩
        exact ⟨x, List.mem_cons_of_mem _ hx, hrelated⟩

end Foundation
end GardHub
