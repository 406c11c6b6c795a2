import GardHub.Foundation.Lists
import GardHub.Hub.Gard

/-!
# Discovery

The HUB asks every configured bus whether a GARD is there, notes the profile
identifiers in a table, and makes one record for each identifier, with a list of
the buses over which that GARD was found.  A bus on which nothing was found
leaves a gap in the table.
-/

namespace GardHub
namespace Hub

open Foundation
open Dal

/-!
## The table
-/

/-- A profile identifier.  In the table, 0 stands where no GARD was found. -/
abbrev ProfileId := { id : UInt32 // id ≠ 0 }

/-- The result of `hub_get_gard_profile_id`, which is a placeholder. -/
def hubGetGardProfileId : ProfileId := ⟨12345, by decide⟩

variable {bus : Type}

/-- `discovered_device` -/
structure DiscoveredDevice (bus : Type) where
  pDalBus : Option bus
  profileId : UInt32
  isUnique : Bool

/-- An entry of the table as `os_calloc` leaves it. -/
def noDevice : DiscoveredDevice bus :=
  { pDalBus := none, profileId := 0, isUnique := false }

/-- A pass of the first loop of `hub_discover_gards`: the entry of a bus, behind
those before it.  Without an answer the discovery command has failed. -/
def discoverBus (before : List (DiscoveredDevice bus)) :
    bus × Option ProfileId -> DiscoveredDevice bus
  | (_, none) => noDevice
  | (b, some id) =>
      { pDalBus := some b
        profileId := id
        isUnique := !before.any fun device => device.profileId = id }

/-- The first loop of `hub_discover_gards`, which counts in the context. -/
def discoverBusses : List (bus × Option ProfileId) ->
    List (DiscoveredDevice bus) -> UInt32 ->
    List (DiscoveredDevice bus) × UInt32
  | [], before, numGards => (before, numGards)
  | asked :: rest, before, numGards =>
      let device := discoverBus before asked
      discoverBusses rest (before ++ [device])
        (if device.isUnique then numGards + 1 else numGards)

/-!
## The records
-/

/-- `hub_gard_info`, as the discovery and the initialisation fill it in.  `hub`
says whether the pointer back to the HUB is set. -/
structure GardRecord (bus : Type) where
  hub : Bool
  gardProfileId : UInt32
  activeDalBus : Option bus
  numBusses : Nat
  pDalBusses : Option (List (Option bus))
  commandExecution : Bool

/-- A record as `os_calloc` leaves it. -/
def noRecord : GardRecord bus :=
  { hub := false
    gardProfileId := 0
    activeDalBus := none
    numBusses := 0
    pDalBusses := none
    commandExecution := false }

/-- A list of buses, and the indices behind its end that were written to. -/
structure BusList (bus : Type) where
  entries : List (Option bus)
  stray : List Nat

/-- A store into a list of buses. -/
def BusList.store (list : BusList bus) (k : Nat) (b : Option bus) :
    BusList bus :=
  if k < list.entries.length then
    { list with entries := list.entries.set k b }
  else { list with stray := list.stray ++ [k] }

/-- The loop that records the buses of a GARD, from an index on.  A bus goes
where it stands in the table. -/
def recordBusses (profileId : UInt32) : List (DiscoveredDevice bus) -> Nat ->
    BusList bus -> BusList bus
  | [], _, list => list
  | device :: rest, k, list =>
      recordBusses profileId rest (k + 1)
        (if device.profileId = profileId then list.store k device.pDalBus
          else list)

/-- The number of buses with a profile identifier. -/
def gardNumBusses (devices : List (DiscoveredDevice bus)) (profileId : UInt32) :
    Nat :=
  devices.countP fun device => device.profileId = profileId

/-- The list for a profile identifier, with room for all its buses. -/
def gardBusList (devices : List (DiscoveredDevice bus)) (profileId : UInt32) :
    BusList bus :=
  recordBusses profileId devices 0
    { entries := List.replicate (gardNumBusses devices profileId) none
      stray := [] }

/-- The record that is made for an entry.  If there is no memory for its list,
the loop goes on with the next one. -/
def gardRecord (devices : List (DiscoveredDevice bus)) (allocated : Bool)
    (device : DiscoveredDevice bus) : GardRecord bus :=
  let profileId := device.profileId
  let record :=
    { noRecord with
      hub := true
      numBusses := gardNumBusses devices profileId }
  if allocated then
    { record with
      pDalBusses := some (gardBusList devices profileId).entries
      gardProfileId := profileId }
  else record

/-!
## The context
-/

/-- `hub_config`, with `DAL_MAX_COUNT` as the bound. -/
structure HubConfig (bus : Type) where
  dalBusses : List bus
  numBusses_le : dalBusses.length ≤ 10

/-- `hub_ctx_state` -/
inductive HubCtxState where
  | inError
  | begin
  | preinitDone
  | discoverDone
  | initDone
deriving DecidableEq

/-- `hub_ctx` -/
structure HubCtx (bus : Type) where
  pConfig : HubConfig bus
  hubState : HubCtxState
  numGards : UInt32
  pGards : Option (List (GardRecord bus))

/-- `hub_preinit` -/
def hubPreinit (config : HubConfig bus) : HubCtx bus :=
  { pConfig := config
    hubState := .preinitDone
    numGards := 0
    pGards := none }

/-- Which of its allocations are served in a discovery: the table, the array of
records, and the list of each record. -/
structure DiscoverAllocs where
  devices : Bool
  gards : Bool
  dalBusses : Nat -> Bool

/-- A store behind the end of what was allocated. -/
inductive StrayWrite where
  /-- Behind the array of records. -/
  | gard (j : Nat)
  /-- Behind the list of a record. -/
  | dalBus (j k : Nat)
deriving DecidableEq

/-- What `hub_discover_gards` returns and leaves. -/
structure Discovery (bus : Type) where
  ret : HubRetCode
  ctx : HubCtx bus
  stray : List StrayWrite

/-- The buses of the configuration with what they answer. -/
def HubConfig.asked (config : HubConfig bus)
    (answer : Nat -> Option ProfileId) : List (bus × Option ProfileId) :=
  config.dalBusses.mapIdx fun i b => (b, answer i)

/-- The second loop of `hub_discover_gards`: the entries that get a record, in
order. -/
def uniqueDevices (devices : List (DiscoveredDevice bus)) :
    List (DiscoveredDevice bus) :=
  devices.filter DiscoveredDevice.isUnique

/-- The records, in order. -/
def gardRecords (allocs : DiscoverAllocs)
    (devices : List (DiscoveredDevice bus)) : List (GardRecord bus) :=
  (uniqueDevices devices).mapIdx fun j device =>
    gardRecord devices (allocs.dalBusses j) device

/-- The stores of the second loop that go wrong. -/
def strayWrites (allocs : DiscoverAllocs) (numGards : Nat)
    (devices : List (DiscoveredDevice bus)) : List StrayWrite :=
  (List.range' numGards ((uniqueDevices devices).length - numGards)).map
      StrayWrite.gard ++
    ((uniqueDevices devices).mapIdx fun j device =>
      if allocs.dalBusses j then
        (gardBusList devices device.profileId).stray.map (StrayWrite.dalBus j)
      else []).flatten

/-- `hub_discover_gards` -/
def hubDiscoverGards (allocs : DiscoverAllocs)
    (answer : Nat -> Option ProfileId) (ctx : HubCtx bus) : Discovery bus :=
  if !allocs.devices then
    { ret := .failureGardDiscover, ctx := ctx, stray := [] }
  else
    let found := discoverBusses (ctx.pConfig.asked answer) [] ctx.numGards
    let ctx := { ctx with numGards := found.2 }
    if !allocs.gards then
      { ret := .failureGardDiscover
        ctx := { ctx with pGards := none }
        stray := [] }
    else
      { ret := .success
        ctx :=
          { ctx with
            pGards := some ((gardRecords allocs found.1 ++
              List.replicate found.2.toNat noRecord).take found.2.toNat)
            hubState := .discoverDone }
        stray := strayWrites allocs found.2.toNat found.1 }

/-!
## Initialisation
-/

/-- The buses that `hub_init` looks at: the first `num_busses` of the list,
which has to be there if there are any. -/
def GardRecord.listed (gard : GardRecord bus) : Option (List (Option bus)) :=
  if gard.numBusses = 0 then some []
  else gard.pDalBusses.map fun list => list.take gard.numBusses

/-- The loop of `hub_init` over the buses of a GARD, up to the first UART.
There is no result if it asks a null pointer for its bus type. -/
def firstUart (busType : bus -> HubGardBusType) :
    List (Option bus) -> Option (Option bus)
  | [] => some none
  | none :: _ => none
  | some b :: rest =>
      if busType b = .uart then some (some b) else firstUart busType rest

/-- The body of the loop of `hub_init` over the GARDs. -/
def hubInitRecord (busType : bus -> HubGardBusType) (gard : GardRecord bus) :
    Option (HubRetCode × GardRecord bus) :=
  (gard.listed.bind (firstUart busType)).map fun uart =>
    let gard := { gard with activeDalBus := uart.or gard.activeDalBus }
    match gard.activeDalBus with
    | none => (.failureInit, gard)
    | some _ => (.success, { gard with commandExecution := false })

/-- The loop of `hub_init` over the GARDs, which ends with the first that has no
bus. -/
def hubInitRecords (busType : bus -> HubGardBusType) :
    List (GardRecord bus) -> Option (HubRetCode × List (GardRecord bus))
  | [] => some (.success, [])
  | gard :: rest =>
      (hubInitRecord busType gard).bind fun ready =>
        match ready.1 with
        | .success =>
            (hubInitRecords busType rest).map fun others =>
              (others.1, ready.2 :: others.2)
        | ret => some (ret, ready.2 :: rest)

/-- The array of records, which has to be there if there are any. -/
def HubCtx.gards (ctx : HubCtx bus) : Option (List (GardRecord bus)) :=
  if ctx.numGards = 0 then some [] else ctx.pGards

/-- `hub_init`.  There is no result if it reads what is not there. -/
def hubInit (busType : bus -> HubGardBusType) (ctx : HubCtx bus) :
    Option (HubRetCode × HubCtx bus) :=
  if ctx.hubState ≠ .discoverDone then some (.failureInit, ctx)
  else
    (ctx.gards.bind (hubInitRecords busType)).map fun result =>
      (result.1,
        { ctx with
          pGards := ctx.pGards.map fun _ => result.2
          hubState := if result.1 = .success then .initDone
            else ctx.hubState })

/-!
## What is to be found
-/

/-- The profile identifiers that were answered, in order. -/
def profileIds (asked : List (bus × Option ProfileId)) : List ProfileId :=
  asked.filterMap Prod.snd

/-- The GARDs, in the order in which they first appear. -/
def foundProfiles (asked : List (bus × Option ProfileId)) : List ProfileId :=
  (profileIds asked).eraseDups

/-- The buses over which a GARD was found, in the order of the configuration. -/
def bussesOf (asked : List (bus × Option ProfileId)) (id : ProfileId) :
    List bus :=
  (asked.filter fun a => a.2 = some id).map Prod.fst

/-- The record of a GARD with its buses. -/
def foundRecord (asked : List (bus × Option ProfileId)) (id : ProfileId) :
    GardRecord bus :=
  { noRecord with
    hub := true
    gardProfileId := id
    numBusses := (bussesOf asked id).length
    pDalBusses := some ((bussesOf asked id).map some) }

/-- In front of a bus over which a GARD was found there are only buses over
which the same GARD was found. -/
def Leading (asked : List (bus × Option ProfileId)) : Prop :=
  asked.Pairwise fun a b => b.2.isSome = true -> a.2 = b.2

/-!
## The table that is filled in
-/

section Table

/-- The identifier that the table has for a bus. -/
def tableId (a : bus × Option ProfileId) : UInt32 :=
  (a.2.map Subtype.val).getD 0

/-- The table has an entry for each bus asked so far, and the first one for each
identifier is unique. -/
structure Tabled (done : List (bus × Option ProfileId))
    (devices : List (DiscoveredDevice bus)) : Prop where
  profileId : devices.map DiscoveredDevice.profileId = done.map tableId
  pDalBus : forall id : ProfileId,
    (devices.filter fun device => device.profileId = id.val).map
      DiscoveredDevice.pDalBus = (bussesOf done id).map some
  unique : (uniqueDevices devices).map DiscoveredDevice.profileId =
    (foundProfiles done).map Subtype.val

theorem tableId_eq_iff (a : bus × Option ProfileId) (id : ProfileId) :
    tableId a = id <-> a.2 = some id := by
  rcases a with ⟨b, answer⟩
  cases answer with
  | none =>
      simp [tableId, id.property.symm]
  | some id' =>
      simp [tableId, Subtype.ext_iff]

theorem mem_profileIds (done : List (bus × Option ProfileId))
    (id : ProfileId) :
    id.val ∈ done.map tableId <-> id ∈ profileIds done := by
  simp only [profileIds, List.mem_map, List.mem_filterMap, tableId_eq_iff]

theorem foundProfiles_append (done : List (bus × Option ProfileId)) (b : bus)
    (id : ProfileId) :
    foundProfiles (done ++ [(b, some id)]) =
      if id ∈ profileIds done then foundProfiles done
      else foundProfiles done ++ [id] := by
  have hids : profileIds (done ++ [(b, some id)]) =
      profileIds done ++ [id] := by
    simp [profileIds]
  rw [foundProfiles, hids, List.eraseDups_append]
  by_cases hmem : id ∈ profileIds done
  · simp [hmem, List.removeAll, foundProfiles]
  · simp [hmem, List.removeAll, foundProfiles, List.eraseDups_cons]

theorem tabled_nil : Tabled ([] : List (bus × Option ProfileId)) [] :=
  ⟨rfl, fun _ => rfl, rfl⟩

variable {done : List (bus × Option ProfileId)}
  {devices : List (DiscoveredDevice bus)}

theorem Tabled.any_iff (h : Tabled done devices) (id : ProfileId) :
    (devices.any fun device => device.profileId = id.val) = true <->
      id ∈ profileIds done := by
  rw [← mem_profileIds, ← h.profileId]
  simp

theorem Tabled.discoverBus (h : Tabled done devices)
    (a : bus × Option ProfileId) :
    Tabled (done ++ [a]) (devices ++ [discoverBus devices a]) := by
  rcases a with ⟨b, answer⟩
  constructor
  · rw [List.map_append, List.map_append, h.profileId]
    cases answer <;> rfl
  · intro id
    have hdone := h.pDalBus id
    cases answer with
    | none =>
        have hne : ¬ (0 : UInt32) = id.val := fun hzero => id.property hzero.symm
        simp [Hub.discoverBus, noDevice, bussesOf, hne, hdone]
    | some id' =>
        by_cases hid : id'.val = id.val
        · have hsame : id' = id := Subtype.ext hid
          simp [Hub.discoverBus, bussesOf, hsame, hdone]
        · have hother : ¬ id' = id := fun hsame => hid (congrArg _ hsame)
          simp [Hub.discoverBus, bussesOf, hid, hother, hdone]
  · have hdone := h.unique
    cases answer with
    | none =>
        simpa [Hub.discoverBus, noDevice, uniqueDevices, foundProfiles,
          profileIds] using hdone
    | some id =>
        rw [foundProfiles_append]
        by_cases hmem : id ∈ profileIds done
        · have hany := (h.any_iff id).mpr hmem
          rw [if_pos hmem]
          simpa [Hub.discoverBus, uniqueDevices, hany] using hdone
        · have hany : (devices.any fun device =>
              device.profileId = id.val) = false := by
            rw [← Bool.not_eq_true, h.any_iff]
            exact hmem
          rw [if_neg hmem]
          simpa [Hub.discoverBus, uniqueDevices, hany] using hdone

theorem Tabled.discoverBusses (h : Tabled done devices)
    (rest : List (bus × Option ProfileId)) (numGards : UInt32) :
    Tabled (done ++ rest) (discoverBusses rest devices numGards).1 := by
  induction rest generalizing done devices numGards with
  | nil =>
      simpa [Hub.discoverBusses] using h
  | cons a rest ih =>
      have hnext := ih (h.discoverBus a)
        (if (Hub.discoverBus devices a).isUnique then numGards + 1
          else numGards)
      simpa [Hub.discoverBusses] using hnext

/-- The first loop counts the entries that get a record. -/
theorem discoverBusses_numGards (rest : List (bus × Option ProfileId))
    (before : List (DiscoveredDevice bus)) (numGards : UInt32) :
    exists new, (discoverBusses rest before numGards).1 = before ++ new ∧
      (discoverBusses rest before numGards).2 =
        numGards + UInt32.ofNat (uniqueDevices new).length := by
  induction rest generalizing before numGards with
  | nil =>
      exact ⟨[], by simp [discoverBusses], by simp [discoverBusses,
        uniqueDevices]⟩
  | cons a rest ih =>
      rcases ih (before ++ [discoverBus before a])
        (if (discoverBus before a).isUnique then numGards + 1 else numGards)
        with ⟨new, hdevices, hcount⟩
      refine ⟨discoverBus before a :: new, ?_, ?_⟩
      · rw [discoverBusses, hdevices]
        simp
      · rw [discoverBusses, hcount]
        cases hunique : (discoverBus before a).isUnique with
        | true =>
            simp [uniqueDevices, hunique, UInt32.ofNat_add, UInt32.add_assoc,
              UInt32.add_comm]
        | false =>
            simp [uniqueDevices, hunique]

/-- The table of a discovery. -/
def tableOf (asked : List (bus × Option ProfileId)) :
    List (DiscoveredDevice bus) :=
  (discoverBusses asked [] 0).1

theorem tabled_tableOf (asked : List (bus × Option ProfileId)) :
    Tabled asked (tableOf asked) := by
  have h := tabled_nil.discoverBusses asked 0
  rwa [List.nil_append] at h

theorem discoverBusses_eq (asked : List (bus × Option ProfileId))
    (numGards : UInt32) :
    discoverBusses asked [] numGards =
      (tableOf asked,
        numGards + UInt32.ofNat (foundProfiles asked).length) := by
  have hdevices : forall (rest : List (bus × Option ProfileId))
      (before : List (DiscoveredDevice bus)) (n m : UInt32),
      (discoverBusses rest before n).1 = (discoverBusses rest before m).1 := by
    intro rest
    induction rest with
    | nil =>
        intros
        rfl
    | cons a rest ih =>
        intro before n m
        exact ih _ _ _
  rcases discoverBusses_numGards asked [] numGards with ⟨new, hnew, hcount⟩
  have htable : new = tableOf asked := by
    rw [tableOf, hdevices asked [] 0 numGards, hnew, List.nil_append]
  apply Prod.ext
  · exact hdevices asked [] numGards 0
  · rw [hcount, htable, ← List.length_map DiscoveredDevice.profileId,
      (tabled_tableOf asked).unique, List.length_map]

theorem uniqueDevices_length (asked : List (bus × Option ProfileId)) :
    (uniqueDevices (tableOf asked)).length = (foundProfiles asked).length := by
  have h := congrArg List.length (tabled_tableOf asked).unique
  simpa using h

end Table

/-!
## The lists of buses
-/

section Lists

variable {profileId : UInt32}

@[simp] theorem BusList.store_length (list : BusList bus) (k : Nat)
    (b : Option bus) :
    (list.store k b).entries.length = list.entries.length := by
  unfold BusList.store
  split <;> simp

theorem BusList.store_stray_nil_iff (list : BusList bus) (k : Nat)
    (b : Option bus) :
    (list.store k b).stray = [] <->
      list.stray = [] ∧ k < list.entries.length := by
  unfold BusList.store
  split <;> simp_all

theorem recordBusses_stray_nil_iff (devices : List (DiscoveredDevice bus))
    (k : Nat) (list : BusList bus) :
    (recordBusses profileId devices k list).stray = [] <->
      list.stray = [] ∧ forall i, (hi : i < devices.length) ->
        devices[i].profileId = profileId -> k + i < list.entries.length := by
  induction devices generalizing k list with
  | nil =>
      simp [recordBusses]
  | cons device rest ih =>
      rw [recordBusses, ih]
      by_cases hmatch : device.profileId = profileId
      · rw [if_pos hmatch, BusList.store_stray_nil_iff, BusList.store_length]
        constructor
        · rintro ⟨⟨hstray, hk⟩, hrest⟩
          refine ⟨hstray, ?_⟩
          intro i hi hid
          cases i with
          | zero =>
              exact hk
          | succ i =>
              have hlt := hrest i (by simpa using hi) hid
              lia
        · rintro ⟨hstray, hall⟩
          refine ⟨⟨hstray, hall 0 (by simp) hmatch⟩, ?_⟩
          intro i hi hid
          have hlt := hall (i + 1) (by simpa using hi) hid
          lia
      · rw [if_neg hmatch]
        constructor
        · rintro ⟨hstray, hrest⟩
          refine ⟨hstray, ?_⟩
          intro i hi hid
          cases i with
          | zero =>
              exact absurd hid hmatch
          | succ i =>
              have hlt := hrest i (by simpa using hi) hid
              lia
        · rintro ⟨hstray, hall⟩
          refine ⟨hstray, ?_⟩
          intro i hi hid
          have hlt := hall (i + 1) (by simpa using hi) hid
          lia

theorem recordBusses_none {devices : List (DiscoveredDevice bus)} {k : Nat}
    {list : BusList bus}
    (h : forall device, device ∈ devices -> device.profileId ≠ profileId) :
    recordBusses profileId devices k list = list := by
  induction devices generalizing k with
  | nil =>
      rfl
  | cons device rest ih =>
      rw [recordBusses, if_neg (h device List.mem_cons_self)]
      exact ih fun later hlater => h later (List.mem_cons_of_mem _ hlater)

/-- With the buses of the GARD in front, they fill the list in order. -/
theorem recordBusses_front {devices : List (DiscoveredDevice bus)}
    (h : devices.Pairwise fun a b => decide (b.profileId = profileId) = true ->
      decide (a.profileId = profileId) = true)
    (front : List (Option bus)) (stray : List Nat) :
    (recordBusses profileId devices front.length
        { entries := front ++
            List.replicate (gardNumBusses devices profileId) none
          stray := stray }).entries =
      front ++ (devices.filter fun device => device.profileId = profileId).map
        DiscoveredDevice.pDalBus := by
  induction devices generalizing front with
  | nil =>
      simp [recordBusses, gardNumBusses]
  | cons device rest ih =>
      rw [List.pairwise_cons] at h
      by_cases hmatch : device.profileId = profileId
      · have hcount : gardNumBusses (device :: rest) profileId =
            gardNumBusses rest profileId + 1 := by
          simp [gardNumBusses, hmatch]
        have hstore : BusList.store
            { entries := front ++
                List.replicate (gardNumBusses rest profileId + 1) none
              stray := stray } front.length device.pDalBus =
            { entries := (front ++ [device.pDalBus]) ++
                List.replicate (gardNumBusses rest profileId) none
              stray := stray } := by
          simp [BusList.store, List.replicate_succ]
        have hlater := ih h.2 (front ++ [device.pDalBus])
        rw [List.length_append, List.length_singleton] at hlater
        rw [recordBusses, if_pos hmatch, hcount, hstore, hlater]
        simp [hmatch]
      · have hnone : forall later, later ∈ rest ->
            later.profileId ≠ profileId := by
          intro later hlater hid
          have hdevice := h.1 later hlater (decide_eq_true hid)
          exact hmatch (of_decide_eq_true hdevice)
        have hall : forall later, later ∈ device :: rest ->
            later.profileId ≠ profileId := by
          simpa [hmatch] using hnone
        have hcount : gardNumBusses (device :: rest) profileId = 0 := by
          simpa [gardNumBusses] using hall
        have hfilter : (device :: rest).filter
            (fun device => device.profileId = profileId) = [] := by
          simpa using hall
        rw [recordBusses_none hall, hcount, hfilter]
        simp

theorem gardBusList_stray_nil_iff (devices : List (DiscoveredDevice bus)) :
    (gardBusList devices profileId).stray = [] <->
      devices.Pairwise fun a b => decide (b.profileId = profileId) = true ->
        decide (a.profileId = profileId) = true := by
  rw [gardBusList, recordBusses_stray_nil_iff, ← forall_lt_countP_iff]
  simp [gardNumBusses]

theorem gardBusList_entries {devices : List (DiscoveredDevice bus)}
    (h : (gardBusList devices profileId).stray = []) :
    (gardBusList devices profileId).entries =
      (devices.filter fun device => device.profileId = profileId).map
        DiscoveredDevice.pDalBus := by
  have hfront := recordBusses_front ((gardBusList_stray_nil_iff devices).mp h)
    [] []
  simpa [gardBusList] using hfront

end Lists

section Asked

variable {asked : List (bus × Option ProfileId)}

theorem pairwise_tableOf_iff (id : ProfileId) :
    ((tableOf asked).Pairwise fun a b =>
        decide (b.profileId = id.val) = true ->
          decide (a.profileId = id.val) = true) <->
      asked.Pairwise fun a b => b.2 = some id -> a.2 = some id := by
  have htable := (tabled_tableOf asked).profileId
  have hdevices : ((tableOf asked).map DiscoveredDevice.profileId).Pairwise
        (fun x y => y = id.val -> x = id.val) <->
      (asked.map tableId).Pairwise (fun x y => y = id.val -> x = id.val) := by
    rw [htable]
  rw [List.pairwise_map, List.pairwise_map] at hdevices
  simpa only [tableId_eq_iff, decide_eq_true_eq] using hdevices

theorem mem_foundProfiles (id : ProfileId) :
    id ∈ foundProfiles asked <-> exists b, (b, some id) ∈ asked := by
  simp [foundProfiles, profileIds, List.mem_eraseDups]

/-- Buses are leading exactly when those of each GARD are. -/
theorem leading_iff (asked : List (bus × Option ProfileId)) :
    Leading asked <-> forall id, id ∈ foundProfiles asked ->
      asked.Pairwise fun a b => b.2 = some id -> a.2 = some id := by
  constructor
  · intro h id _
    apply h.imp
    intro a b hab hb
    rw [hab (by rw [hb]; rfl), hb]
  · intro h
    rw [Leading, List.pairwise_iff_getElem]
    intro i k hi hk hlt hsome
    rcases Option.isSome_iff_exists.mp hsome with ⟨id, hid⟩
    have hmem : id ∈ foundProfiles asked := by
      rw [mem_foundProfiles]
      refine ⟨asked[k].1, ?_⟩
      rw [← hid]
      exact List.getElem_mem hk
    have hpair := List.pairwise_iff_getElem.mp (h id hmem) i k hi hk hlt hid
    rw [hpair, hid]

/-- All memory is there. -/
def allServed : DiscoverAllocs :=
  { devices := true, gards := true, dalBusses := fun _ => true }

theorem strayWrites_nil_iff (asked : List (bus × Option ProfileId)) :
    strayWrites allServed (foundProfiles asked).length (tableOf asked) = [] <->
      Leading asked := by
  have hrecords : (foundProfiles asked).length =
      (uniqueDevices (tableOf asked)).length :=
    (uniqueDevices_length asked).symm
  have hlists : strayWrites allServed (foundProfiles asked).length
        (tableOf asked) = [] <->
      forall device, device ∈ uniqueDevices (tableOf asked) ->
        (gardBusList (tableOf asked) device.profileId).stray = [] := by
    rw [strayWrites, hrecords]
    simp only [Nat.sub_self, List.range'_zero, List.map_nil, List.nil_append,
      List.flatten_eq_nil_iff, List.mem_mapIdx, allServed, if_true]
    constructor
    · intro h device hdevice
      rcases List.mem_iff_getElem.mp hdevice with ⟨j, hj, rfl⟩
      exact List.map_eq_nil_iff.mp (h _ ⟨j, hj, rfl⟩)
    · rintro h _ ⟨j, hj, rfl⟩
      exact List.map_eq_nil_iff.mpr (h _ (List.getElem_mem hj))
  rw [hlists, leading_iff]
  constructor
  · intro h id hid
    have hmem : id.val ∈ (uniqueDevices (tableOf asked)).map
        DiscoveredDevice.profileId := by
      rw [(tabled_tableOf asked).unique]
      exact List.mem_map_of_mem hid
    rcases List.mem_map.mp hmem with ⟨device, hdevice, hsame⟩
    have hstray := h device hdevice
    rw [hsame, gardBusList_stray_nil_iff] at hstray
    exact (pairwise_tableOf_iff id).mp hstray
  · intro h device hdevice
    have hmem : device.profileId ∈ (foundProfiles asked).map Subtype.val := by
      rw [← (tabled_tableOf asked).unique]
      exact List.mem_map_of_mem hdevice
    rcases List.mem_map.mp hmem with ⟨id, hid, hsame⟩
    rw [← hsame, gardBusList_stray_nil_iff]
    exact (pairwise_tableOf_iff id).mpr (h id hid)

theorem gardNumBusses_tableOf (id : ProfileId) :
    gardNumBusses (tableOf asked) id = (bussesOf asked id).length := by
  have h := congrArg List.length ((tabled_tableOf asked).pDalBus id)
  rw [List.length_map, List.length_map] at h
  rw [gardNumBusses, List.countP_eq_length_filter, h]

/-- The records of a discovery, over the GARDs that were found. -/
theorem gardRecords_eq (allocs : DiscoverAllocs)
    (asked : List (bus × Option ProfileId)) :
    gardRecords allocs (tableOf asked) =
      (foundProfiles asked).mapIdx fun j id =>
        gardRecord (tableOf asked) (allocs.dalBusses j)
          { noDevice with profileId := id.val } := by
  apply List.ext_getElem?
  intro j
  have hunique := congrArg (fun ids => ids[j]?) (tabled_tableOf asked).unique
  simp only [List.getElem?_map] at hunique
  rw [gardRecords, List.getElem?_mapIdx, List.getElem?_mapIdx]
  cases hdevice : (uniqueDevices (tableOf asked))[j]? with
  | none =>
      rw [hdevice, Option.map_none, eq_comm, Option.map_eq_none_iff] at hunique
      rw [hunique, Option.map_none, Option.map_none]
  | some device =>
      rw [hdevice, Option.map_some, eq_comm, Option.map_eq_some_iff] at hunique
      rcases hunique with ⟨id, hid, hsame⟩
      rw [hid, Option.map_some, Option.map_some]
      simp only [gardRecord, hsame]

theorem gardRecords_length (allocs : DiscoverAllocs)
    (asked : List (bus × Option ProfileId)) :
    (gardRecords allocs (tableOf asked)).length =
      (foundProfiles asked).length := by
  rw [gardRecords, List.length_mapIdx, uniqueDevices_length]

theorem gardRecord_leading (h : Leading asked) {id : ProfileId}
    (hid : id ∈ foundProfiles asked) :
    gardRecord (tableOf asked) true { noDevice with profileId := id.val } =
      foundRecord asked id := by
  have hstray : (gardBusList (tableOf asked) id.val).stray = [] := by
    rw [gardBusList_stray_nil_iff, pairwise_tableOf_iff]
    exact (leading_iff asked).mp h id hid
  have hentries := gardBusList_entries hstray
  rw [(tabled_tableOf asked).pDalBus id] at hentries
  simp only [gardRecord, foundRecord, if_true, gardNumBusses_tableOf, hentries]

theorem gardRecords_leading (h : Leading asked) :
    gardRecords allServed (tableOf asked) =
      (foundProfiles asked).map (foundRecord asked) := by
  rw [gardRecords_eq]
  apply List.ext_getElem
  · simp
  · intro j hj hj'
    rw [List.getElem_mapIdx, List.getElem_map]
    exact gardRecord_leading h (List.getElem_mem _)

end Asked

/-!
## A discovery
-/

section Discovered

variable (config : HubConfig bus) (answer : Nat -> Option ProfileId)

theorem foundProfiles_length_le :
    (foundProfiles (config.asked answer)).length ≤ 10 := by
  have hasked : (config.asked answer).length ≤ 10 := by
    simpa [HubConfig.asked] using config.numBusses_le
  have htable : (tableOf (config.asked answer)).length =
      (config.asked answer).length := by
    have h := congrArg List.length
      (tabled_tableOf (config.asked answer)).profileId
    simpa using h
  have hunique := List.length_filter_le DiscoveredDevice.isUnique
    (tableOf (config.asked answer))
  have hfound := uniqueDevices_length (config.asked answer)
  rw [uniqueDevices] at hfound
  lia

theorem foundProfiles_count :
    (UInt32.ofNat (foundProfiles (config.asked answer)).length).toNat =
      (foundProfiles (config.asked answer)).length := by
  have hle := foundProfiles_length_le config answer
  rw [UInt32.toNat_ofNat']
  lia

/-- The number of records after a discovery, which goes on counting. -/
def totalGards (ctx : HubCtx bus) : UInt32 :=
  ctx.numGards +
    UInt32.ofNat (foundProfiles (ctx.pConfig.asked answer)).length

variable {answer} {ctx : HubCtx bus} {allocs : DiscoverAllocs}

theorem hubDiscoverGards_served (hdevices : allocs.devices = true)
    (hgards : allocs.gards = true) :
    hubDiscoverGards allocs answer ctx =
      { ret := .success
        ctx :=
          { ctx with
            numGards := totalGards answer ctx
            pGards := some
              ((gardRecords allocs (tableOf (ctx.pConfig.asked answer)) ++
                List.replicate (totalGards answer ctx).toNat noRecord).take
                  (totalGards answer ctx).toNat)
            hubState := .discoverDone }
        stray := strayWrites allocs (totalGards answer ctx).toNat
          (tableOf (ctx.pConfig.asked answer)) } := by
  simp [hubDiscoverGards, hdevices, hgards, discoverBusses_eq, totalGards]

theorem hubDiscoverGards_noArray (hdevices : allocs.devices = true)
    (hgards : allocs.gards = false) :
    hubDiscoverGards allocs answer ctx =
      { ret := .failureGardDiscover
        ctx :=
          { ctx with
            numGards := totalGards answer ctx
            pGards := none }
        stray := [] } := by
  simp [hubDiscoverGards, hdevices, hgards, discoverBusses_eq, totalGards]

theorem hubDiscoverGards_noTable (hdevices : allocs.devices = false) :
    hubDiscoverGards allocs answer ctx =
      { ret := .failureGardDiscover, ctx := ctx, stray := [] } := by
  simp [hubDiscoverGards, hdevices]

end Discovered

end Hub
end GardHub
