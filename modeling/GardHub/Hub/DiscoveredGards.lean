import GardHub.Hub.Commands
import GardHub.Hub.Discovery

/-!
# Discovered GARDs

The records that a first discovery makes, set against what there is to be found,
and the active buses that the initialisation picks from them.
-/

namespace GardHub
namespace Hub

open Foundation
open Dal
open Interface

variable {bus : Type}

/-!
## The initialisation of a record
-/

section Initialisation

variable (busType : bus -> HubGardBusType)

theorem firstUart_map_some (busses : List bus) :
    firstUart busType (busses.map some) =
      some (busses.find? fun b => busType b = .uart) := by
  induction busses with
  | nil =>
      rfl
  | cons b rest ih =>
      rw [List.map_cons, firstUart, List.find?_cons]
      by_cases huart : busType b = .uart
      · simp [huart]
      · simpa [huart] using ih

/-- A record with a list of buses without a gap. -/
def GardRecord.Lists (gard : GardRecord bus) (busses : List bus) : Prop :=
  gard.numBusses = busses.length ∧ gard.pDalBusses = some (busses.map some)

theorem GardRecord.Lists.firstUart {gard : GardRecord bus} {busses : List bus}
    (h : gard.Lists busses) :
    gard.listed.bind (firstUart busType) =
      some (busses.find? fun b => busType b = .uart) := by
  rcases h with ⟨hnum, hlist⟩
  have hlisted : gard.listed = some (busses.map some) := by
    rw [GardRecord.listed, hnum, hlist]
    cases busses with
    | nil =>
        rfl
    | cons b rest =>
        simp
  rw [hlisted, Option.bind_some, firstUart_map_some]

theorem hubInitRecord_some {gard : GardRecord bus} {busses : List bus}
    (h : gard.Lists busses) {b : bus}
    (hb : busses.find? (fun b => busType b = .uart) = some b) :
    hubInitRecord busType gard =
      some (.success,
        { gard with activeDalBus := some b, commandExecution := false }) := by
  simp [hubInitRecord, h.firstUart, hb]

theorem hubInitRecord_none {gard : GardRecord bus} {busses : List bus}
    (h : gard.Lists busses) (hactive : gard.activeDalBus = none)
    (hb : busses.find? (fun b => busType b = .uart) = none) :
    hubInitRecord busType gard = some (.failureInit, gard) := by
  rcases gard with ⟨hub, profileId, activeDalBus, num, list, execution⟩
  subst hactive
  simp [hubInitRecord, h.firstUart, hb]

/-- The record of a GARD whose buses are known. -/
def GardRecord.ofInfo {app : Type} (gard : HubGardInfo app) :
    GardRecord DalBus :=
  { hub := true
    gardProfileId := 0
    activeDalBus := gard.activeDalBus
    numBusses := gard.pDalBusses.length
    pDalBusses := some (gard.pDalBusses.map some)
    commandExecution := gard.commandExecution }

theorem hubInitRecord_ofInfo {app : Type} (gard : HubGardInfo app) :
    hubInitRecord DalBus.busType (GardRecord.ofInfo gard) =
      some ((hubInitGard gard).1, GardRecord.ofInfo (hubInitGard gard).2) := by
  have hlists : (GardRecord.ofInfo gard).Lists gard.pDalBusses := ⟨rfl, rfl⟩
  rw [hubInitRecord, hlists.firstUart, Option.map_some, hubInitGard]
  rcases gard with ⟨busses, active, execution, cbs⟩
  cases hactive : (busses.find? fun b => b.busType = .uart).or active <;>
    simp [GardRecord.ofInfo, hactive]

end Initialisation

/-!
## The records of a first discovery
-/

section First

variable (busType : bus -> HubGardBusType)

/-- The buses over which anything was found, in order. -/
def foundBusses (asked : List (bus × Option ProfileId)) : List bus :=
  (asked.filter fun a => a.2.isSome).map Prod.fst

/-- The first UART bus of a GARD. -/
def uartOf (asked : List (bus × Option ProfileId)) (id : ProfileId) :
    Option bus :=
  (bussesOf asked id).find? fun b => busType b = .uart

/-- The record of a GARD with its active bus. -/
def readyRecord (asked : List (bus × Option ProfileId)) (id : ProfileId) :
    GardRecord bus :=
  { foundRecord asked id with activeDalBus := uartOf busType asked id }

/-- A first discovery, with memory for everything. -/
def discovered (config : HubConfig bus) (answer : Nat -> Option ProfileId) :
    Discovery bus :=
  hubDiscoverGards allServed answer (hubPreinit config)

/-- There is one GARD for each profile identifier, in the order in which they
first appear, with its buses; nothing is written behind a list; each bus that
answered is in one list; and the initialisation picks the first UART bus of
each GARD, or fails if a GARD has none. -/
structure Grouped (config : HubConfig bus) (answer : Nat -> Option ProfileId) :
    Prop where
  success : (discovered config answer).ret = .success
  inside : (discovered config answer).stray = []
  numGards : (discovered config answer).ctx.numGards.toNat =
    (foundProfiles (config.asked answer)).length
  records : (discovered config answer).ctx.pGards =
    some ((foundProfiles (config.asked answer)).map
      (foundRecord (config.asked answer)))
  partition : exists gards,
    (discovered config answer).ctx.pGards = some gards ∧
    (gards.map fun gard => gard.pDalBusses.getD []).flatten.Perm
      ((foundBusses (config.asked answer)).map some)
  active :
    (forall id, id ∈ foundProfiles (config.asked answer) ->
      (uartOf busType (config.asked answer) id).isSome = true) ->
    hubInit busType (discovered config answer).ctx =
      some (.success,
        { (discovered config answer).ctx with
          pGards := some ((foundProfiles (config.asked answer)).map
            (readyRecord busType (config.asked answer)))
          hubState := .initDone })
  inactive :
    (exists id, id ∈ foundProfiles (config.asked answer) ∧
      uartOf busType (config.asked answer) id = none) ->
    exists ctx, hubInit busType (discovered config answer).ctx =
      some (.failureInit, ctx)

variable (asked : List (bus × Option ProfileId))

theorem foundRecord_lists (id : ProfileId) :
    (foundRecord asked id).Lists (bussesOf asked id) :=
  ⟨rfl, rfl⟩

theorem hubInitRecords_found {ids : List ProfileId}
    (h : forall id, id ∈ ids -> (uartOf busType asked id).isSome = true) :
    hubInitRecords busType (ids.map (foundRecord asked)) =
      some (.success, ids.map (readyRecord busType asked)) := by
  induction ids with
  | nil =>
      rfl
  | cons id rest ih =>
      have hsome := h id List.mem_cons_self
      rcases Option.isSome_iff_exists.mp hsome with ⟨b, hb⟩
      have hrest := ih fun id hid => h id (List.mem_cons_of_mem _ hid)
      rw [List.map_cons, hubInitRecords,
        hubInitRecord_some busType (foundRecord_lists asked id) hb,
        Option.bind_some, hrest]
      simp [readyRecord, hb, foundRecord, noRecord]

theorem hubInitRecords_fails {ids : List ProfileId}
    (h : exists id, id ∈ ids ∧ uartOf busType asked id = none) :
    exists gards, hubInitRecords busType (ids.map (foundRecord asked)) =
      some (.failureInit, gards) := by
  induction ids with
  | nil =>
      rcases h with ⟨id, hid, -⟩
      exact absurd hid List.not_mem_nil
  | cons id rest ih =>
      cases hb : uartOf busType asked id with
      | none =>
          refine ⟨foundRecord asked id :: rest.map (foundRecord asked), ?_⟩
          rw [List.map_cons, hubInitRecords,
            hubInitRecord_none busType (foundRecord_lists asked id) rfl hb]
          rfl
      | some b =>
          have hrest : exists id, id ∈ rest ∧ uartOf busType asked id = none := by
            rcases h with ⟨id', hid', hnone⟩
            rcases List.mem_cons.mp hid' with hsame | hmem
            · rw [hsame, hb] at hnone
              cases hnone
            · exact ⟨id', hmem, hnone⟩
          rcases ih hrest with ⟨gards, hgards⟩
          exists { foundRecord asked id with
            activeDalBus := some b, commandExecution := false } :: gards
          rw [List.map_cons, hubInitRecords,
            hubInitRecord_some busType (foundRecord_lists asked id) hb,
            Option.bind_some, hgards]
          rfl

/-- Each bus that answered belongs to one GARD. -/
theorem bussesOf_perm :
    ((foundProfiles asked).map (bussesOf asked)).flatten.Perm
      (foundBusses asked) := by
  have hkeys : ((foundProfiles asked).map some).Nodup :=
    (nodup_eraseDups _).map (Option.some_injective _)
  have hall : forall a, a ∈ asked.filter (fun a => a.2.isSome) ->
      a.2 ∈ (foundProfiles asked).map some := by
    rintro ⟨b, answer⟩ ha
    rw [List.mem_filter] at ha
    rcases Option.isSome_iff_exists.mp ha.2 with ⟨id, rfl⟩
    exact List.mem_map_of_mem ((mem_foundProfiles id).mpr ⟨b, ha.1⟩)
  have hclasses := (flatten_classes_perm Prod.snd hkeys hall).map Prod.fst
  have hbusses : forall id, bussesOf asked id =
      ((asked.filter fun a => a.2.isSome).filter
        fun a => a.2 = some id).map Prod.fst := by
    intro id
    rw [bussesOf, List.filter_filter]
    congr 2
    funext a
    cases a.2 <;> simp
  have hlists : ((foundProfiles asked).map (bussesOf asked)).flatten =
      ((((foundProfiles asked).map some).map fun k =>
        (asked.filter fun a => a.2.isSome).filter
          fun a => Prod.snd a = k).flatten).map Prod.fst := by
    rw [List.map_flatten, List.map_map, List.map_map]
    congr 1
    apply List.map_congr_left
    intro id _
    exact hbusses id
  rw [hlists]
  exact hclasses

end First

/-!
## Grouped buses
-/

section Grouped

variable (config : HubConfig bus) (answer : Nat -> Option ProfileId)

/-- What a first discovery leaves. -/
theorem discovered_eq :
    discovered config answer =
      { ret := .success
        ctx :=
          { pConfig := config
            hubState := .discoverDone
            numGards :=
              UInt32.ofNat (foundProfiles (config.asked answer)).length
            pGards :=
              some (gardRecords allServed (tableOf (config.asked answer))) }
        stray := strayWrites allServed
          (foundProfiles (config.asked answer)).length
          (tableOf (config.asked answer)) } := by
  have hcount := foundProfiles_count config answer
  have htotal : totalGards answer (hubPreinit config) =
      UInt32.ofNat (foundProfiles (config.asked answer)).length :=
    UInt32.zero_add _
  have htake : forall more : List (GardRecord bus),
      (gardRecords allServed (tableOf (config.asked answer)) ++ more).take
          (foundProfiles (config.asked answer)).length =
        gardRecords allServed (tableOf (config.asked answer)) := by
    intro more
    exact List.take_left' (gardRecords_length _ _)
  have hconfig : (hubPreinit config).pConfig = config := rfl
  rw [discovered, hubDiscoverGards_served rfl rfl, htotal, hcount, hconfig,
    htake]

variable {config answer}

theorem hubInit_discovered (busType : bus -> HubGardBusType)
    (h : Leading (config.asked answer)) :
    hubInit busType (discovered config answer).ctx =
      (hubInitRecords busType ((foundProfiles (config.asked answer)).map
        (foundRecord (config.asked answer)))).map fun result =>
          (result.1,
            { (discovered config answer).ctx with
              pGards := some result.2
              hubState := if result.1 = .success then .initDone
                else .discoverDone }) := by
  have hcount := foundProfiles_count config answer
  have hgards : (discovered config answer).ctx.gards =
      some ((foundProfiles (config.asked answer)).map
        (foundRecord (config.asked answer))) := by
    rw [discovered_eq, HubCtx.gards]
    by_cases hzero : (foundProfiles (config.asked answer)).length = 0
    · rw [List.length_eq_zero_iff] at hzero
      simp [hzero]
    · have hne : UInt32.ofNat
          (foundProfiles (config.asked answer)).length ≠ 0 := by
        intro h0
        rw [h0] at hcount
        exact hzero hcount.symm
      rw [if_neg hne, gardRecords_leading h]
  rw [hubInit, hgards]
  simp [discovered_eq]

/-- A first discovery groups the buses exactly when those with a GARD are in
front and have the same one. -/
theorem hubDiscoverGards_grouped_iff (busType : bus -> HubGardBusType)
    (config : HubConfig bus) (answer : Nat -> Option ProfileId) :
    Grouped busType config answer <-> Leading (config.asked answer) := by
  constructor
  · intro h
    have hinside := h.inside
    rw [discovered_eq] at hinside
    exact (strayWrites_nil_iff _).mp hinside
  · intro h
    have hrecords : (discovered config answer).ctx.pGards =
        some ((foundProfiles (config.asked answer)).map
          (foundRecord (config.asked answer))) := by
      rw [discovered_eq, gardRecords_leading h]
    constructor
    · rw [discovered_eq]
    · rw [discovered_eq]
      exact (strayWrites_nil_iff _).mpr h
    · rw [discovered_eq]
      exact foundProfiles_count config answer
    · exact hrecords
    · refine ⟨_, hrecords, ?_⟩
      have hperm := (bussesOf_perm (config.asked answer)).map some
      rw [List.map_flatten, List.map_map] at hperm
      rw [List.map_map]
      exact hperm
    · intro huart
      rw [hubInit_discovered busType h,
        hubInitRecords_found busType (config.asked answer) huart]
      rfl
    · intro hnone
      rcases hubInitRecords_fails busType (config.asked answer) hnone with
        ⟨gards, hgards⟩
      rw [hubInit_discovered busType h, hgards]
      exact ⟨_, rfl⟩

/-- Two UARTs, of which only the second has a GARD. -/
def twoUarts : HubConfig HubGardBusType :=
  { dalBusses := [.uart, .uart], numBusses_le := by decide }

/-- The record of the second bus has room for one bus, which is written behind
its end. -/
theorem hubDiscoverGards_writesBehind :
    ¬ Grouped id twoUarts
      (fun i => if i = 1 then some hubGetGardProfileId else none) := by
  intro h
  have hinside := h.inside
  revert hinside
  decide

end Grouped

/-!
## What the buses answer
-/

section Answers

variable {device app : Type} (port : Port device) (garbage : HubGardInfo app)
  (config : HubConfig DalBus) (lines : Nat -> BusLine device)

/-- What comes of the discovery command on a bus, which is sent for a temporary
GARD with that bus. -/
def busAnswer (b : DalBus) (line : BusLine device) : Option ProfileId :=
  if (hubSendDiscoverCmd port { garbage with activeDalBus := some b } line).ret =
      .success then
    some hubGetGardProfileId
  else none

/-- The answers of the buses of a configuration, each on its line. -/
def busAnswers (i : Nat) : Option ProfileId :=
  config.dalBusses[i]?.bind fun b => busAnswer port garbage b (lines i)

/-- A GARD is found where a whole response comes with its signature and marker. -/
theorem busAnswer_isSome_iff (b : DalBus) (line : BusLine device) :
    (busAnswer port garbage b line).isSome = true <->
      exists result, result = hubExecuteHubRequest port
          { garbage with activeDalBus := some b } discoverRequestData line ∧
        result.ret = true ∧
        (result.data.pResponse.drop 2).take 10 = hubGardDiscoverSignature ∧
        fieldValue result.data.pResponse 12 4 = endOfDataMarker.toNat := by
  have hsuccess : (hubSendDiscoverCmd port
      { garbage with activeDalBus := some b } line).ret = .success <-> _ :=
    executeCommand_success_iff HubRetCode.noConfusion
  rw [busAnswer, apply_ite Option.isSome]
  simp only [Option.isSome_some, Option.isSome_none, Bool.if_false_right,
    Bool.and_true, decide_eq_true_eq, hsuccess, Bool.and_eq_true, beq_iff_eq,
    exists_eq_left]

theorem busAnswers_eq {i : Nat}
    (h : (busAnswers port garbage config lines i).isSome = true) :
    busAnswers port garbage config lines i = some hubGetGardProfileId := by
  rcases Option.isSome_iff_exists.mp h with ⟨id, hid⟩
  rcases Option.bind_eq_some_iff.mp hid with ⟨b, -, hanswer⟩
  rw [busAnswer] at hanswer
  split at hanswer
  next =>
    rw [hid, ← hanswer]
  next =>
    cases hanswer

/-- All GARDs have the same placeholder for a profile identifier, so that nothing
but gaps in front of a GARD stands in the way of the grouping. -/
theorem leading_busAnswers_iff :
    Leading (config.asked (busAnswers port garbage config lines)) <->
      forall i j, i < j -> j < config.dalBusses.length ->
        (busAnswers port garbage config lines j).isSome = true ->
        (busAnswers port garbage config lines i).isSome = true := by
  rw [Leading, HubConfig.asked, List.pairwise_iff_getElem]
  simp only [List.length_mapIdx, List.getElem_mapIdx]
  constructor
  · intro h i j hij hj hanswered
    rw [h i j (hij.trans hj) hj hij hanswered]
    exact hanswered
  · intro h i j hi hj hij hanswered
    rw [busAnswers_eq port garbage config lines hanswered,
      busAnswers_eq port garbage config lines (h i j hij hj hanswered)]

end Answers

end Hub
end GardHub
