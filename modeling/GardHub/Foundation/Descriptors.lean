import GardHub.Foundation.Lists
import GardHub.Foundation.OrderedMap

/-!
# Descriptors of a thread

The descriptors of a process, seen from one of its threads.  A number that is
given out is not in use.  In front of every call of the thread the others may
open and close descriptors of their own, so that a number the thread has given
up can come to stand for something else.
-/

namespace GardHub
namespace Foundation

variable {call file : Type}

/-- Who holds a descriptor, and what for. -/
inductive Holder (file : Type) where
  | thread (held : file)
  | others
deriving DecidableEq

/-- What the other threads do with descriptors. -/
inductive OthersCall where
  | opens
  | closes (fd : Nat)
deriving DecidableEq

/-- The system: the number that is given out next, which is none of those in
use, and what the other threads do in front of each call. -/
structure DescriptorSystem where
  number : Nat -> List Nat -> Nat
  number_not_mem : forall given used, number given used ∉ used
  others : Nat -> List OthersCall

/-- The lowest number that is not in use is given out. -/
def DescriptorSystem.lowest (others : Nat -> List OthersCall) :
    DescriptorSystem where
  number := fun _ used =>
    ((List.range (used.length + 1)).find? fun n => n ∉ used).getD 0
  number_not_mem := by
    intro _ used
    rcases exists_lt_not_mem (Nat.lt_succ_self used.length) with
      ⟨j, hj, hfree⟩
    cases hfind : (List.range (used.length + 1)).find? fun n => n ∉ used with
    | none =>
        have hused := List.find?_eq_none.mp hfind j (List.mem_range.mpr hj)
        simp [hfree] at hused
    | some n =>
        simpa using List.find?_some hfind
  others := others

/-- A call that was given a descriptor, and who held the descriptor then. -/
structure DescriptorUse (call file : Type) where
  made : call
  fd : Int
  holder : Option (Holder file)

/-- The descriptors in use, how many numbers have been given out and how many
calls the thread has made, and what its calls were given. -/
structure Descriptors (call file : Type) where
  holders : OrderedMap Nat (Holder file)
  given : Nat
  calls : Nat
  uses : List (DescriptorUse call file)

/-- A call was given a descriptor of the thread that it is meant for. -/
def DescriptorUse.Proper (fits : call -> file -> Bool)
    (use : DescriptorUse call file) : Prop :=
  exists held, use.holder = some (.thread held) ∧ fits use.made held = true

namespace Descriptors

/-- No descriptor is in use. -/
def empty : Descriptors call file :=
  { holders := OrderedMap.empty, given := 0, calls := 0, uses := [] }

/-- Who holds a descriptor.  A negative number is none. -/
def holderOf (d : Descriptors call file) (fd : Int) : Option (Holder file) :=
  if fd < 0 then none else d.holders.get fd.toNat

/-- Give out a number. -/
def install (system : DescriptorSystem) (holder : Holder file)
    (d : Descriptors call file) : Nat × Descriptors call file :=
  let fd := system.number d.given d.holders.keys
  (fd, { d with
    holders := d.holders.assign fd holder
    given := d.given + 1 })

/-- Other threads close what they have opened. -/
def othersCall (system : DescriptorSystem) (d : Descriptors call file) :
    OthersCall -> Descriptors call file
  | .opens => (d.install system .others).2
  | .closes fd =>
      match d.holders.get fd with
      | some .others => { d with holders := d.holders.remove fd }
      | _ => d

/-- The other threads have their turn in front of a call. -/
def turn (system : DescriptorSystem) (d : Descriptors call file) :
    Descriptors call file :=
  (system.others d.calls).foldl (othersCall system)
    { d with calls := d.calls + 1 }

/-- A call that is given descriptors. -/
def make (system : DescriptorSystem) (made : List (call × Int))
    (d : Descriptors call file) : Descriptors call file :=
  let d := d.turn system
  { d with
    uses := d.uses ++ made.map fun c => ⟨c.1, c.2, d.holderOf c.2⟩ }

/-- A call that closes a descriptor. -/
def close (system : DescriptorSystem) (closing : call) (fd : Int)
    (d : Descriptors call file) : Descriptors call file :=
  let d := d.make system [(closing, fd)]
  if fd < 0 then d else { d with holders := d.holders.remove fd.toNat }

/-!
## What the thread holds
-/

section Held

variable {fits : call -> file -> Bool} {fdOf : file -> Option Nat}
  {d : Descriptors call file} (system : DescriptorSystem)

/-- The thread holds one descriptor for each of some files and no other
descriptor, and every call was given one that it is meant for. -/
structure Held (fits : call -> file -> Bool) (fdOf : file -> Option Nat)
    (d : Descriptors call file) : Prop where
  holder_iff : forall fd held,
    d.holders.get fd = some (.thread held) <-> fdOf held = some fd
  proper : forall use, use ∈ d.uses -> use.Proper fits

theorem held_empty (fits : call -> file -> Bool) :
    Held fits (fun _ => none) (empty : Descriptors call file) where
  holder_iff := by simp [empty, OrderedMap.empty]
  proper := by simp [empty]

theorem Held.congr (h : Held fits fdOf d) {fdOf' : file -> Option Nat}
    (hsame : forall held, fdOf' held = fdOf held) : Held fits fdOf' d := by
  rwa [funext hsame]

theorem holderOf_natCast (d : Descriptors call file) (fd : Nat) :
    d.holderOf fd = d.holders.get fd := by
  simp [holderOf]

theorem close_natCast (d : Descriptors call file) (closing : call) (fd : Nat) :
    d.close system closing fd =
      { d.make system [(closing, (fd : Int))] with
        holders :=
          (d.make system [(closing, (fd : Int))]).holders.remove fd } := by
  simp [close]

theorem Held.holderOf (h : Held fits fdOf d) {fd : Nat} {held : file}
    (hfd : fdOf held = some fd) :
    d.holderOf fd = some (.thread held) := by
  rw [holderOf_natCast]
  exact (h.holder_iff fd held).mpr hfd

/-- The number that is given out is none that the thread holds. -/
theorem Held.number_ne (h : Held fits fdOf d) {held : file} :
    fdOf held ≠ some (system.number d.given d.holders.keys) := by
  intro hfd
  have hget := (h.holder_iff _ held).mpr hfd
  have hkey : system.number d.given d.holders.keys ∈ d.holders.keys :=
    (d.holders.mem_iff _).mpr (by rw [hget]; rfl)
  exact system.number_not_mem d.given d.holders.keys hkey

theorem Held.othersCall (h : Held fits fdOf d) (made : OthersCall) :
    Held fits fdOf (d.othersCall system made) := by
  cases made with
  | opens =>
      refine ⟨fun fd held => ?_, h.proper⟩
      by_cases hfd : fd = system.number d.given d.holders.keys
      · subst hfd
        simp [Descriptors.othersCall, install, h.number_ne system]
      · simp only [Descriptors.othersCall, install,
          OrderedMap.assign_get_of_ne hfd, h.holder_iff]
  | closes fd =>
      cases hholder : d.holders.get fd with
      | none =>
          simpa only [Descriptors.othersCall, hholder] using h
      | some holder =>
          cases holder with
          | thread held =>
              simpa only [Descriptors.othersCall, hholder] using h
          | others =>
              simp only [Descriptors.othersCall, hholder]
              refine ⟨fun fd' held => ?_, h.proper⟩
              by_cases hfd : fd' = fd
              · subst hfd
                rw [← h.holder_iff, hholder]
                simp
              · simp only [OrderedMap.remove_get_of_ne hfd, h.holder_iff]

/-- Whatever the others do, the thread holds what it held. -/
theorem Held.turn (h : Held fits fdOf d) : Held fits fdOf (d.turn system) := by
  have hall : forall (calls : List OthersCall) (d : Descriptors call file),
      Held fits fdOf d ->
        Held fits fdOf (calls.foldl (Descriptors.othersCall system) d) := by
    intro calls
    induction calls with
    | nil =>
        exact fun _ h => h
    | cons made rest ih =>
        exact fun _ h => ih _ (h.othersCall system made)
  exact hall _ _ ⟨h.holder_iff, h.proper⟩

/-- A call that is given descriptors of the thread. -/
theorem Held.make (h : Held fits fdOf d) {made : List (call × Int)}
    (hmade : forall c, c ∈ made -> exists (fd : Nat) (held : file),
      c.2 = fd ∧ fdOf held = some fd ∧ fits c.1 held = true) :
    Held fits fdOf (d.make system made) := by
  have hturn := h.turn system
  refine ⟨hturn.holder_iff, ?_⟩
  intro use huse
  rcases List.mem_append.mp huse with hbefore | hnow
  · exact hturn.proper use hbefore
  · rcases List.mem_map.mp hnow with ⟨c, hc, rfl⟩
    rcases hmade c hc with ⟨fd, held, hfd, hheld, hfits⟩
    exact ⟨held, by rw [hfd]; exact hturn.holderOf hheld, hfits⟩

variable [DecidableEq file]

/-- The thread gets a descriptor for a file that it had none for. -/
theorem Held.install (h : Held fits fdOf d) {held : file}
    (hnew : fdOf held = none) :
    Held fits
      (Function.update fdOf held (some (d.install system (.thread held)).1))
      (d.install system (.thread held)).2 := by
  refine ⟨fun fd held' => ?_, h.proper⟩
  simp only [Descriptors.install]
  by_cases hfd : fd = system.number d.given d.holders.keys
  · rw [hfd, OrderedMap.assign_get_self]
    by_cases hheld : held' = held
    · simp [hheld]
    · rw [Function.update_of_ne hheld]
      simp [h.number_ne system, Ne.symm hheld]
  · rw [OrderedMap.assign_get_of_ne hfd, h.holder_iff]
    by_cases hheld : held' = held
    · rw [hheld, Function.update_self, hnew]
      simp [Ne.symm hfd]
    · rw [Function.update_of_ne hheld]

/-- The thread closes a descriptor of its own. -/
theorem Held.close (h : Held fits fdOf d) {held : file} {fd : Nat}
    (hfd : fdOf held = some fd) {closing : call}
    (hfits : fits closing held = true) :
    Held fits (Function.update fdOf held none) (d.close system closing fd) := by
  have hmake : Held fits fdOf (d.make system [(closing, (fd : Int))]) :=
    h.make system (by simpa using ⟨held, hfd, hfits⟩)
  have hholder := (hmake.holder_iff fd held).mpr hfd
  rw [close_natCast]
  refine ⟨fun fd' held' => ?_, hmake.proper⟩
  by_cases hheld : held' = held
  · subst hheld
    by_cases hsame : fd' = fd
    · simp [hsame]
    · rw [OrderedMap.remove_get_of_ne hsame, hmake.holder_iff, hfd]
      simp [Ne.symm hsame]
  · rw [Function.update_of_ne hheld, ← hmake.holder_iff]
    by_cases hsame : fd' = fd
    · rw [hsame, OrderedMap.remove_get_self, hholder]
      simp [Ne.symm hheld]
    · rw [OrderedMap.remove_get_of_ne hsame]

end Held

end Descriptors
end Foundation
end GardHub
