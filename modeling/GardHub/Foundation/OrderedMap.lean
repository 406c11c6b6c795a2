import Mathlib

/-!
# Finite maps that keep an order

A finite map together with the order in which its keys came in.  Such a map is
what a list of items is that have a key each, if no two have the same.
-/

namespace GardHub
namespace Foundation

structure OrderedMap (key value : Type) where
  keys : List key
  get : key -> Option value
  nodup : keys.Nodup
  mem_iff : forall k, k ∈ keys <-> (get k).isSome = true

namespace OrderedMap

variable {key value item : Type}

theorem ext {m m' : OrderedMap key value} (hkeys : m.keys = m'.keys)
    (hget : m.get = m'.get) : m = m' := by
  cases m
  cases m'
  cases hkeys
  cases hget
  rfl

theorem get_eq_none {m : OrderedMap key value} {k : key} (h : k ∉ m.keys) :
    m.get k = none := by
  rwa [m.mem_iff, Option.not_isSome_iff_eq_none] at h

def empty : OrderedMap key value where
  keys := []
  get := fun _ => none
  nodup := List.nodup_nil
  mem_iff := by simp

/-- The values of the keys, in their order. -/
def values (m : OrderedMap key value) : List value :=
  m.keys.filterMap m.get

theorem mem_values {m : OrderedMap key value} {v : value} :
    v ∈ m.values <-> exists k, m.get k = some v := by
  rw [values, List.mem_filterMap]
  constructor
  · rintro ⟨k, _, hv⟩
    exact ⟨k, hv⟩
  · rintro ⟨k, hv⟩
    exact ⟨k, (m.mem_iff k).mpr (by rw [hv]; rfl), hv⟩

theorem values_length_le (m : OrderedMap key value) :
    m.values.length ≤ m.keys.length :=
  List.length_filterMap_le _ _

/-- The keys with their values, in their order. -/
def entries (m : OrderedMap key value) : List (key × value) :=
  m.keys.filterMap fun k => (m.get k).map (k, ·)

/-- A function of every value. -/
def map {value' : Type} (f : value -> value') (m : OrderedMap key value) :
    OrderedMap key value' where
  keys := m.keys
  get := fun k => (m.get k).map f
  nodup := m.nodup
  mem_iff := by simp [m.mem_iff]

section Assign

variable [DecidableEq key]

/-- Give a value to a key, which comes last if it is a new one. -/
def assign (m : OrderedMap key value) (k : key) (v : value) :
    OrderedMap key value where
  keys := if k ∈ m.keys then m.keys else m.keys ++ [k]
  get := Function.update m.get k (some v)
  nodup := by
    split
    · exact m.nodup
    · rename_i hnew
      exact m.nodup.append (List.nodup_singleton k) (by simpa using hnew)
  mem_iff := by
    intro k'
    by_cases hself : k' = k
    · subst hself
      split <;> simp_all
    · rw [Function.update_of_ne hself, ← m.mem_iff]
      split <;> simp [hself]

variable {m : OrderedMap key value} {k : key} {v : value}

theorem assign_keys_of_mem (h : k ∈ m.keys) : (m.assign k v).keys = m.keys :=
  if_pos h

theorem mem_assign_keys {k' : key} :
    k' ∈ (m.assign k v).keys <-> k' ∈ m.keys ∨ k' = k := by
  by_cases hmem : k ∈ m.keys
  · rw [assign_keys_of_mem hmem]
    constructor
    · exact Or.inl
    · rintro (h | rfl)
      · exact h
      · exact hmem
  · simp [assign, hmem]

theorem assign_keys_of_not_mem (h : k ∉ m.keys) :
    (m.assign k v).keys = m.keys ++ [k] :=
  if_neg h

@[simp] theorem assign_get_self : (m.assign k v).get k = some v := by
  simp only [assign, Function.update_self]

theorem assign_get_of_ne {k' : key} (h : k' ≠ k) :
    (m.assign k v).get k' = m.get k' := by
  simp only [assign, Function.update_of_ne h]

theorem map_assign {value' : Type} (f : value -> value')
    (m : OrderedMap key value) (k : key) (v : value) :
    (m.assign k v).map f = (m.map f).assign k (f v) := by
  refine ext rfl (funext fun k' => ?_)
  by_cases hself : k' = k
  · subst hself
    simp [map]
  · simp [map, assign_get_of_ne hself]

end Assign

section Remove

variable [DecidableEq key]

def remove (m : OrderedMap key value) (k : key) : OrderedMap key value where
  keys := m.keys.filter fun k' => k' ≠ k
  get := Function.update m.get k none
  nodup := m.nodup.filter _
  mem_iff := by
    intro k'
    by_cases hself : k' = k
    · simp [hself]
    · rw [Function.update_of_ne hself, ← m.mem_iff]
      simp [hself]

variable {m : OrderedMap key value} {k : key}

@[simp] theorem remove_get_self : (m.remove k).get k = none := by
  simp only [remove, Function.update_self]

theorem remove_get_of_ne {k' : key} (h : k' ≠ k) :
    (m.remove k).get k' = m.get k' := by
  simp only [remove, Function.update_of_ne h]

end Remove

/-!
## Lists of items
-/

/-- The items of a list have the keys and the values of a map, in its order. -/
structure Represents (keyOf : item -> key) (valueOf : item -> value)
    (items : List item) (m : OrderedMap key value) : Prop where
  keys : items.map keyOf = m.keys
  get : forall a, a ∈ items -> m.get (keyOf a) = some (valueOf a)

variable {keyOf : item -> key} {valueOf : item -> value} {items : List item}
  {m : OrderedMap key value}

theorem Represents.unique {m' : OrderedMap key value}
    (h : Represents keyOf valueOf items m)
    (h' : Represents keyOf valueOf items m') : m = m' := by
  have hkeys : m.keys = m'.keys := h.keys.symm.trans h'.keys
  refine ext hkeys (funext fun k => ?_)
  by_cases hmem : k ∈ m.keys
  · rw [← h.keys] at hmem
    rcases List.mem_map.mp hmem with ⟨a, ha, rfl⟩
    rw [h.get a ha, h'.get a ha]
  · rw [get_eq_none hmem, get_eq_none (hkeys ▸ hmem)]

theorem Represents.map {value' : Type} (f : value -> value')
    (h : Represents keyOf valueOf items m) :
    Represents keyOf (fun a => f (valueOf a)) items (m.map f) where
  keys := h.keys
  get := fun a ha => by simp [OrderedMap.map, h.get a ha]

theorem Represents.entries (h : Represents keyOf valueOf items m) :
    m.entries = items.map fun a => (keyOf a, valueOf a) := by
  rw [OrderedMap.entries, ← h.keys, List.filterMap_map,
    ← List.filterMap_eq_map]
  apply List.filterMap_congr
  intro a ha
  simp [h.get a ha]

/-- The entries of a map represent it. -/
theorem represents_entries (m : OrderedMap key value) :
    Represents Prod.fst Prod.snd m.entries m where
  keys := by
    have hall : forall keys : List key, (forall k, k ∈ keys -> k ∈ m.keys) ->
        (keys.filterMap fun k => (m.get k).map (k, ·)).map Prod.fst = keys := by
      intro keys hkeys
      induction keys with
      | nil =>
          rfl
      | cons k rest ih =>
          have hsome := (m.mem_iff k).mp (hkeys k List.mem_cons_self)
          rcases Option.isSome_iff_exists.mp hsome with ⟨v, hv⟩
          have hrest := ih fun k' hk' => hkeys k' (List.mem_cons_of_mem k hk')
          simp [hv, hrest]
    exact hall m.keys fun _ h => h
  get := by
    intro entry hentry
    rcases List.mem_filterMap.mp hentry with ⟨k, _, hk⟩
    rcases Option.map_eq_some_iff.mp hk with ⟨v, hv, rfl⟩
    exact hv

variable [DecidableEq key]

/-- The value of a key is that of the item that is found with it. -/
theorem Represents.get_eq (h : Represents keyOf valueOf items m) (k : key) :
    m.get k = (items.find? fun a => keyOf a = k).map valueOf := by
  cases hfind : items.find? fun a => decide (keyOf a = k) with
  | none =>
      apply get_eq_none
      rw [← h.keys, List.mem_map]
      rintro ⟨a, ha, hk⟩
      have hnot := List.find?_eq_none.mp hfind a ha
      simp [hk] at hnot
  | some a =>
      have hk : keyOf a = k := by simpa using List.find?_some hfind
      rw [Option.map_some, ← hk]
      exact h.get a (List.mem_of_find?_eq_some hfind)

/-- Items with different keys represent a map. -/
theorem exists_represents (h : (items.map keyOf).Nodup) :
    exists m : OrderedMap key value, Represents keyOf valueOf items m := by
  refine ⟨{ keys := items.map keyOf
            get := fun k =>
              (items.find? fun a => keyOf a = k).map valueOf
            nodup := h
            mem_iff := ?_ }, rfl, ?_⟩
  · intro k
    simp [List.find?_isSome]
  · intro a ha
    have hfound : items.find? (fun b => keyOf b = keyOf a) = some a := by
      rcases List.append_of_mem ha with ⟨front, back, rfl⟩
      rw [List.map_append, List.nodup_append'] at h
      rw [List.find?_append, List.find?_eq_none.mpr, Option.none_or,
        List.find?_cons_of_pos (by simp)]
      intro b hb
      have hne : keyOf b ≠ keyOf a := by
        intro heq
        exact h.2.2 (List.mem_map_of_mem hb) (heq ▸ by simp)
      simpa using hne
    simp only [hfound, Option.map_some]

/-- An item with a new key. -/
theorem Represents.append (h : Represents keyOf valueOf items m) {a : item}
    (hnew : keyOf a ∉ m.keys) :
    Represents keyOf valueOf (items ++ [a])
      (m.assign (keyOf a) (valueOf a)) := by
  constructor
  · rw [assign_keys_of_not_mem hnew, List.map_append, h.keys]
    rfl
  · intro b hb
    rcases List.mem_append.mp hb with hb | hb
    · have hne : keyOf b ≠ keyOf a := by
        intro heq
        apply hnew
        rw [← heq, ← h.keys]
        exact List.mem_map_of_mem hb
      rw [assign_get_of_ne hne, h.get b hb]
    · rcases List.mem_singleton.mp hb with rfl
      exact assign_get_self

/-- Another value for the item with a key, and no change to the others. -/
theorem Represents.replace (h : Represents keyOf valueOf items m) {k : key}
    {v : value} (hmem : k ∈ m.keys) {change : item -> item}
    (hkey : forall a, keyOf (change a) = keyOf a)
    (hself : forall a, keyOf a = k -> valueOf (change a) = v)
    (hother : forall a, keyOf a ≠ k -> change a = a) :
    Represents keyOf valueOf (items.map change) (m.assign k v) := by
  constructor
  · rw [assign_keys_of_mem hmem, ← h.keys, List.map_map]
    exact List.map_congr_left fun a _ => hkey a
  · intro b hb
    rcases List.mem_map.mp hb with ⟨a, ha, rfl⟩
    by_cases hk : keyOf a = k
    · rw [hkey, hk, assign_get_self, hself a hk]
    · rw [hother a hk, assign_get_of_ne hk, h.get a ha]

end OrderedMap

end Foundation
end GardHub
