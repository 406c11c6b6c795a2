import GardHub.Hub.Commands

/-!
# The order of transfers

The writes and reads of one exchange, in the order `hub_execute_hub_request`
makes them.  Which transfers belong to an exchange depends on the descriptor
and, for the last one, on the response; how many of them are made depends on
the device.
-/

namespace GardHub
namespace Hub

open Foundation
open Dal

variable {device app : Type}

/-- What came of a transfer: the value returned, and the bytes of a read. -/
structure BusOutcome where
  ret : Int
  bytes : List UInt8
deriving DecidableEq

/-- The number of bytes a transfer asks for. -/
def BusOp.count : BusOp -> UInt32
  | .write _ count => count
  | .read count => count

/-- A transfer with this outcome, as seen on the bus. -/
def BusOp.event : BusOp -> BusOutcome -> BusEvent
  | .write buffer count, outcome =>
      .write (buffer.take count.toNat) outcome.ret
  | .read count, outcome => .read count outcome.bytes outcome.ret

/-- The transfer reported the number of bytes it was asked for. -/
def BusOp.Complete (o : BusOp) (outcome : BusOutcome) : Prop :=
  outcome.ret = o.count.toNat

instance (o : BusOp) (outcome : BusOutcome) : Decidable (o.Complete outcome) :=
  inferInstanceAs (Decidable (_ = _))

/-- The transfers of an exchange that runs to its end. -/
def exchangeOps (d : HubRequestResponseData) (response : List UInt8) :
    List BusOp :=
  sendOps d ++ recvOps d ++ closingOps d response

/-- All sizes are those of an `int32_t`, and the response is not shorter than
the part of it that is validated. -/
structure WellSized (d : HubRequestResponseData) : Prop where
  request_lt : d.requestSize.toNat < 2 ^ 31
  appRequest_lt : d.appRequestSize.toNat < 2 ^ 31
  sendData_lt : d.sendDataSize.toNat < 2 ^ 31
  response_lt : d.responseSize.toNat < 2 ^ 31
  appResponse_lt : d.appResponseSize.toNat < 2 ^ 31
  validation_le : d.validationDataSize ≤ d.responseSize

/-- Between two states of the bus, transfers were made in the order of `ops`,
each but the last of them complete; `ret` tells whether all of `ops` were made
and complete, and is `false` when the last one made was not. -/
def InSequence (ops : List BusOp) (before after : List BusEvent)
    (ret : Bool) : Prop :=
  exists calls : List (BusOp × BusOutcome),
    after = before ++ calls.map (fun call => call.1.event call.2) ∧
      calls.map Prod.fst <+: ops ∧
      (forall call, call ∈ calls.dropLast -> call.1.Complete call.2) ∧
      (ret = true <->
        calls.map Prod.fst = ops ∧
          forall call, call ∈ calls -> call.1.Complete call.2) ∧
      (ret = false <->
        exists call, calls.getLast? = some call ∧ ¬ call.1.Complete call.2)

/-!
## One transfer
-/

section Transfer

theorem uartReturn_bounds (result : Option Nat) :
    -2 ^ 31 ≤ uartReturn result ∧ uartReturn result < 2 ^ 31 := by
  cases result with
  | none =>
      decide
  | some count =>
      simp only [uartReturn, dalFailureDeviceError, toInt32]
      split_ifs <;> lia

variable (port : Port device) (bus : DalBus) (line : BusLine device)

theorem dalWrite_events (buffer : List UInt8) (count : UInt32) :
    (dalWrite port bus buffer count line).2.events =
      line.events ++ [.write (buffer.take count.toNat)
        (dalWrite port bus buffer count line).1] := by
  unfold dalWrite
  by_cases hzero : count = 0
  · simp [hzero]
  · simp only [if_neg hzero]
    cases bus.busType <;> rfl

theorem dalWrite_ret_bounds (buffer : List UInt8) (count : UInt32) :
    -2 ^ 31 ≤ (dalWrite port bus buffer count line).1 ∧
      (dalWrite port bus buffer count line).1 < 2 ^ 31 := by
  unfold dalWrite
  by_cases hzero : count = 0
  · simp [hzero, dalSuccess]
  · simp only [if_neg hzero]
    cases bus.busType <;> simp only [dalFailureInvalidArgs]
    case uart => exact uartReturn_bounds _
    all_goals lia

theorem dalRead_ret_bounds (count : UInt32) :
    -2 ^ 31 ≤ (dalRead port bus count line).1 ∧
      (dalRead port bus count line).1 < 2 ^ 31 := by
  unfold dalRead
  by_cases hzero : count = 0
  · simp [hzero, dalSuccess]
  · simp only [if_neg hzero]
    cases bus.busType <;> simp only [dalFailureInvalidArgs]
    case uart => exact uartReturn_bounds _
    all_goals lia

/-- Below 2^31 the comparison of sizes is one of integers. -/
theorem transferred_iff {ret : Int} {count : UInt32}
    (hret : -2 ^ 31 ≤ ret ∧ ret < 2 ^ 31) (hcount : count.toNat < 2 ^ 31) :
    transferred ret count = true <-> ret = count.toNat := by
  simp only [transferred, toUInt32, beq_iff_eq]
  lia

/-- A transfer leaves one event on the bus, and the HUB takes it for done
exactly when it was complete. -/
theorem transfer_event {o : BusOp} (hcount : o.count.toNat < 2 ^ 31) :
    exists outcome,
      (transfer port bus o line).2.events =
          line.events ++ [o.event outcome] ∧
        ((transfer port bus o line).1.isSome = true <->
          o.Complete outcome) := by
  cases o with
  | write buffer count =>
      have hret := transferred_iff (dalWrite_ret_bounds port bus line buffer count)
        hcount
      exact ⟨⟨(dalWrite port bus buffer count line).1, []⟩,
        dalWrite_events port bus line buffer count,
        by simpa [transfer, BusOp.Complete, BusOp.count] using hret⟩
  | read count =>
      have hret := transferred_iff (dalRead_ret_bounds port bus line count) hcount
      exact ⟨⟨(dalRead port bus count line).1,
          (dalRead port bus count line).2.1⟩,
        dalRead_events port bus count line,
        by simpa [transfer, BusOp.Complete, BusOp.count] using hret⟩

end Transfer

/-!
## The transfers of an exchange
-/

section Sequence

variable {port : Port device} {bus : DalBus} {gard : HubGardInfo app}
  {d : HubRequestResponseData} {line : BusLine device}

/-- A run of transfers that begins on a line follows these operations. -/
abbrev FollowsOps (ops : List BusOp) (line : BusLine device)
    (run : ScriptRun (List UInt8) (BusLine device)) : Prop :=
  run.Logs BusLine.events BusOp.event BusOp.Complete ops line.events

theorem transfers_follow {ops : List BusOp}
    (hops : forall o, o ∈ ops -> o.count.toNat < 2 ^ 31)
    (line : BusLine device) :
    FollowsOps ops line (runScript (transfer port bus) ops line) := by
  refine runScript_logs ?_ line
  intro o ho line
  exact transfer_event port bus line (hops o ho)

namespace WellSized

theorem validation_lt (hsizes : WellSized d) :
    d.validationDataSize.toNat < 2 ^ 31 :=
  lt_of_le_of_lt (UInt32.le_iff_toNat_le.mp hsizes.validation_le)
    hsizes.response_lt

theorem rest_toNat (hsizes : WellSized d) :
    (d.responseSize - d.validationDataSize).toNat =
      d.responseSize.toNat - d.validationDataSize.toNat :=
  UInt32.toNat_sub_of_le _ _ hsizes.validation_le

theorem rest_lt (hsizes : WellSized d) :
    (d.responseSize - d.validationDataSize).toNat < 2 ^ 31 := by
  rw [hsizes.rest_toNat]
  exact lt_of_le_of_lt (Nat.sub_le _ _) hsizes.response_lt

theorem sendOps_count_lt (hsizes : WellSized d) :
    forall o, o ∈ sendOps d -> o.count.toNat < 2 ^ 31 := by
  intro o ho
  rcases List.mem_cons.mp ho with rfl | ho
  · exact hsizes.request_lt
  · cases happ : d.pAppRequest with
    | none =>
        simp [happ] at ho
    | some request =>
        rw [happ, List.mem_singleton] at ho
        rw [ho]
        exact hsizes.appRequest_lt

theorem recvOps_count_lt (hsizes : WellSized d) :
    forall o, o ∈ recvOps d -> o.count.toNat < 2 ^ 31 := by
  intro o ho
  simp only [recvOps, List.mem_cons, List.not_mem_nil, or_false] at ho
  rcases ho with rfl | rfl
  · exact hsizes.validation_lt
  · exact hsizes.rest_lt

theorem closingOps_count_lt (hsizes : WellSized d) (response : List UInt8) :
    forall o, o ∈ closingOps d response -> o.count.toNat < 2 ^ 31 := by
  intro o ho
  unfold closingOps at ho
  split at ho <;> split at ho <;>
    simp only [List.mem_singleton, List.not_mem_nil] at ho
  · rw [ho]
    exact hsizes.sendData_lt
  · rw [ho]
    exact hsizes.appResponse_lt

end WellSized

/-- The exchange follows its operations; what it closes with is looked up in
the response, once there is one. -/
theorem exchange_follows (hsizes : WellSized d) {buffer : List UInt8}
    (hbuffer : gotResponse port bus d line = true ->
      buffer = response port bus d (sent port bus d line).final) :
    FollowsOps (exchangeOps d buffer) line (exchange port bus d line) := by
  unfold exchangeOps
  rw [List.append_assoc]
  refine (transfers_follow hsizes.sendOps_count_lt line).andThen fun hsent => ?_
  refine (transfers_follow hsizes.recvOps_count_lt _).andThen fun hreceived => ?_
  have hgot : gotResponse port bus d line = true := by
    rw [gotResponse, Bool.and_eq_true_iff]
    exact ⟨hsent, hreceived⟩
  rw [hbuffer hgot]
  exact transfers_follow (hsizes.closingOps_count_lt _) _

theorem hubExecuteHubRequest_follows (port : Port device)
    (hprep : Prepared d) (hsizes : WellSized d)
    (hbus : gard.activeDalBus = some bus) (line : BusLine device) :
    exists calls,
      FollowsScript BusOp.Complete
          (exchangeOps d (hubExecuteHubRequest port gard d line).data.pResponse)
          calls (hubExecuteHubRequest port gard d line).ret ∧
        (hubExecuteHubRequest port gard d line).line.events =
          line.events ++ calls.map fun call => call.1.event call.2 := by
  have hexchange : (hubExecuteHubRequest port gard d line).ret = _ ∧
      (hubExecuteHubRequest port gard d line).line = _ :=
    hubExecuteHubRequest_exchange port hprep hbus
  rw [hexchange.1, hexchange.2]
  exact exchange_follows hsizes fun hgot =>
    (hubExecuteHubRequest_responded port hprep hbus hgot).2.1

/-- `hub_execute_hub_request` ends on every line, and its transfers are those
of the exchange in their order, up to the first that is incomplete. -/
theorem hubExecuteHubRequest_sequence (port : Port device)
    (hprep : Prepared d) (hsizes : WellSized d)
    (hbus : gard.activeDalBus = some bus) :
    InSequence
      (exchangeOps d (hubExecuteHubRequest port gard d line).data.pResponse)
      line.events (hubExecuteHubRequest port gard d line).line.events
      (hubExecuteHubRequest port gard d line).ret := by
  rcases hubExecuteHubRequest_follows port hprep hsizes hbus line
    with ⟨calls, hfollows, hevents⟩
  exact ⟨calls, hevents, hfollows.operations_prefix,
    hfollows.complete_of_mem_dropLast, hfollows.finished_iff,
    hfollows.unfinished_iff⟩

/-- Two bytes of data, asked for by a GARD that then acknowledges them. -/
theorem hubExecuteHubRequest_sequence_sendData :
    InSequence
      (exchangeOps (sendDataRequestData (some [0xAA, 0xBB]) 0x1000 2)
        (hubExecuteHubRequest streamPort (readyGard none : HubGardInfo Unit)
          (sendDataRequestData (some [0xAA, 0xBB]) 0x1000 2)
          (streamLine [0x01, 0x5D, 0x01, 0xAC])).data.pResponse)
      [] (hubExecuteHubRequest streamPort (readyGard none : HubGardInfo Unit)
        (sendDataRequestData (some [0xAA, 0xBB]) 0x1000 2)
        (streamLine [0x01, 0x5D, 0x01, 0xAC])).line.events
      (hubExecuteHubRequest streamPort (readyGard none : HubGardInfo Unit)
        (sendDataRequestData (some [0xAA, 0xBB]) 0x1000 2)
        (streamLine [0x01, 0x5D, 0x01, 0xAC])).ret :=
  hubExecuteHubRequest_sequence streamPort ⟨rfl, rfl⟩
    ⟨by decide, by decide, by decide, by decide, by decide, by decide⟩ rfl

end Sequence

end Hub
end GardHub
