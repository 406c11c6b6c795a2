import GardHub.Foundation.Runs
import GardHub.Hub.Discovery

/-!
# Repeated discoveries

What is left of the count and the records of a HUB context when a discovery is
repeated, or is tried again after one that has failed.
-/

namespace GardHub
namespace Hub

open Foundation

variable {bus : Type}

/-!
## Calls on one context
-/

/-- A call of `hub_discover_gards`: which memory is there for it, and what the
buses answer. -/
structure DiscoverCall where
  allocs : DiscoverAllocs
  answer : Nat -> Option ProfileId

/-- The context after a call. -/
def discoverStep (ctx : HubCtx bus) (call : DiscoverCall) :
    Option (HubCtx bus) :=
  some (hubDiscoverGards call.allocs call.answer ctx).ctx

/-- The GARDs that a call finds. -/
def DiscoverCall.found (call : DiscoverCall) (ctx : HubCtx bus) :
    List ProfileId :=
  foundProfiles (ctx.pConfig.asked call.answer)

/-- A record with a HUB and a list of at least one bus. -/
def GardRecord.Populated (gard : GardRecord bus) : Prop :=
  gard.hub = true ∧ 1 ≤ gard.numBusses ∧ gard.pDalBusses.isSome = true

/-- The context counts as many records as the call has found, and they are all
filled in. -/
def CountsFound (ctx : HubCtx bus) (found : List ProfileId) : Prop :=
  ctx.numGards.toNat = found.length ∧
    forall i, i < ctx.numGards.toNat -> exists gards gard,
      ctx.pGards = some gards ∧ gards[i]? = some gard ∧ gard.Populated

/-- A call that succeeds leaves a context that counts what it has found, and one
that fails leaves the context as it was. -/
def Consistent (ctx : HubCtx bus) (call : DiscoverCall) : Prop :=
  ((hubDiscoverGards call.allocs call.answer ctx).ret = .success ->
    CountsFound (hubDiscoverGards call.allocs call.answer ctx).ctx
      (call.found ctx)) ∧
  ((hubDiscoverGards call.allocs call.answer ctx).ret ≠ .success ->
    (hubDiscoverGards call.allocs call.answer ctx).ctx.numGards =
      ctx.numGards ∧
    (hubDiscoverGards call.allocs call.answer ctx).ctx.pGards = ctx.pGards ∧
    (hubDiscoverGards call.allocs call.answer ctx).ctx.hubState =
      ctx.hubState)

/-- A call for which there is no table, or no array and nothing is lost, or a
list for each GARD in a context that counts none so far. -/
def CleanStart (ctx : HubCtx bus) (call : DiscoverCall) : Prop :=
  call.allocs.devices = false ∨
    (call.allocs.gards = false ∧ call.found ctx = [] ∧ ctx.pGards = none) ∨
    (call.allocs.gards = true ∧ ctx.numGards = 0 ∧
      forall j, j < (call.found ctx).length -> call.allocs.dalBusses j = true)

/-!
## One call
-/

section Call

variable {ctx : HubCtx bus} {call : DiscoverCall}

theorem found_count :
    (UInt32.ofNat (call.found ctx).length).toNat = (call.found ctx).length :=
  foundProfiles_count ctx.pConfig call.answer

theorem totalGards_eq_iff :
    totalGards call.answer ctx = ctx.numGards <-> call.found ctx = [] := by
  rw [totalGards, UInt32.add_eq_left, ← UInt32.toNat_inj]
  rw [show (UInt32.ofNat (foundProfiles
      (ctx.pConfig.asked call.answer)).length).toNat = (call.found ctx).length
    from found_count]
  exact List.length_eq_zero_iff

theorem totalGards_toNat_iff :
    (totalGards call.answer ctx).toNat = (call.found ctx).length <->
      ctx.numGards = 0 := by
  have hcount : (UInt32.ofNat (call.found ctx).length).toNat =
      (call.found ctx).length :=
    found_count
  rw [← hcount, UInt32.toNat_inj, totalGards]
  exact UInt32.add_eq_right

theorem gardRecords_populated_iff {j : Nat} (hj : j < (call.found ctx).length) :
    (exists gard,
        (gardRecords call.allocs
          (tableOf (ctx.pConfig.asked call.answer)))[j]? = some gard ∧
        gard.Populated) <->
      call.allocs.dalBusses j = true := by
  have hmem : (call.found ctx)[j] ∈ call.found ctx := List.getElem_mem hj
  rcases (mem_foundProfiles _).mp hmem with ⟨b, hb⟩
  have hbusses : 1 ≤ (bussesOf (ctx.pConfig.asked call.answer)
      (call.found ctx)[j]).length := by
    rw [bussesOf, List.length_map]
    apply List.length_pos_of_mem (a := (b, some (call.found ctx)[j]))
    simpa using hb
  have hjth : (foundProfiles (ctx.pConfig.asked call.answer))[j]? =
      some (call.found ctx)[j] :=
    List.getElem?_eq_getElem hj
  rw [gardRecords_eq, List.getElem?_mapIdx, hjth, Option.map_some]
  simp only [Option.some.injEq, exists_eq_left', GardRecord.Populated]
  cases hlist : call.allocs.dalBusses j with
  | true =>
      simpa [gardRecord, gardNumBusses_tableOf] using hbusses
  | false =>
      simp [gardRecord, noRecord]

theorem countsFound_iff (hdevices : call.allocs.devices = true)
    (hgards : call.allocs.gards = true) :
    CountsFound (hubDiscoverGards call.allocs call.answer ctx).ctx
        (call.found ctx) <->
      ctx.numGards = 0 ∧
        forall j, j < (call.found ctx).length ->
          call.allocs.dalBusses j = true := by
  rw [hubDiscoverGards_served hdevices hgards, CountsFound, totalGards_toNat_iff]
  apply and_congr_right
  intro hzero
  have htotal : (totalGards call.answer ctx).toNat =
      (call.found ctx).length :=
    totalGards_toNat_iff.mpr hzero
  have htake : (gardRecords call.allocs
        (tableOf (ctx.pConfig.asked call.answer)) ++
          List.replicate (call.found ctx).length noRecord).take
            (call.found ctx).length =
      gardRecords call.allocs (tableOf (ctx.pConfig.asked call.answer)) :=
    List.take_left' (gardRecords_length _ _)
  simp only [htotal, htake, Option.some.injEq]
  apply forall₂_congr
  intro j hj
  rw [← gardRecords_populated_iff hj]
  constructor
  · rintro ⟨gards, gard, rfl, hgard⟩
    exact ⟨gard, hgard⟩
  · rintro ⟨gard, hgard⟩
    exact ⟨_, gard, rfl, hgard⟩

theorem consistent_iff (ctx : HubCtx bus) (call : DiscoverCall) :
    Consistent ctx call <-> CleanStart ctx call := by
  cases hdevices : call.allocs.devices with
  | false =>
      simp [Consistent, CleanStart, hdevices,
        hubDiscoverGards_noTable hdevices]
  | true =>
      cases hgards : call.allocs.gards with
      | false =>
          have hsame : none = ctx.pGards <-> ctx.pGards = none := eq_comm
          simp [Consistent, CleanStart, hdevices, hgards,
            hubDiscoverGards_noArray hdevices hgards, totalGards_eq_iff,
            hsame]
      | true =>
          have hret : (hubDiscoverGards call.allocs call.answer ctx).ret =
              .success := by
            rw [hubDiscoverGards_served hdevices hgards]
          simp [Consistent, CleanStart, hdevices, hgards, hret,
            countsFound_iff hdevices hgards]

end Call

/-!
## Runs
-/

/-- The calls on a context are consistent exactly when each of them starts
clean. -/
theorem hubDiscoverGards_consistent_iff (config : HubConfig bus)
    (calls : List DiscoverCall) :
    RunMeets discoverStep Consistent (hubPreinit config) calls <->
      RunMeets discoverStep CleanStart (hubPreinit config) calls :=
  runMeets_congr consistent_iff _ _

/-- A configuration with one bus. -/
def oneBus : HubConfig Unit :=
  { dalBusses := [()], numBusses_le := by decide }

/-- A discovery that finds a GARD on every bus. -/
def foundEverywhere : DiscoverCall :=
  { allocs := allServed, answer := fun _ => some hubGetGardProfileId }

/-- After a repeated call two GARDs are counted, where one was found. -/
theorem hubDiscoverGards_countsTwice :
    ¬ RunMeets discoverStep Consistent (hubPreinit oneBus)
      [foundEverywhere, foundEverywhere] := by
  rintro ⟨-, ⟨hsuccess, -⟩, -⟩
  have hcount := (hsuccess rfl).1
  revert hcount
  decide

end Hub
end GardHub
