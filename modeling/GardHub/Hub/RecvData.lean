import GardHub.Hub.Commands

/-!
# Receiving data

`hub_recv_data_from_gard` asks the GARD for data and takes the response off the
bus.  The response has the data in the middle, between the header and the end
marker; the state machine reads a response of fixed size, in which the marker
stands where the data begin.
-/

namespace GardHub
namespace Hub

open Foundation
open Dal
open Interface

variable {app : Type}

/-!
## The documented response
-/

/-- A response with data: identifier, padding, the size of the data, the data,
the marker and the CRC. -/
def recvDataResponse (padding : List UInt8) (count : UInt32)
    (data crc : List UInt8) : List UInt8 :=
  HostRequestCommandId.recvDataFromGardAtOffset.code ::
    (padding ++ (u32Bytes count ++ (data ++ (u32Bytes endOfDataMarker ++ crc))))

/-- The GARD sends `data` in the documented layout, and then `back`. -/
def GardSends (count : UInt32) (data back incoming : List UInt8) : Prop :=
  exists padding crc, padding.length = 3 ∧ crc.length = 4 ∧
    data.length = count.toNat ∧
    incoming = recvDataResponse padding count data crc ++ back

/-- The GARD sends a response in the documented layout. -/
def Documented (count : UInt32) (incoming : List UInt8) : Prop :=
  exists data back, GardSends count data back incoming

/-- What a response without data looks like from its marker on: the size of the
response structure is there, and the marker at its place in that structure. -/
def EndsInMarker (incoming : List UInt8) : Prop :=
  16 ≤ incoming.length ∧ fieldValue incoming 8 4 = endOfDataMarker.toNat

theorem GardSends.length {count : UInt32} {data back incoming : List UInt8}
    (h : GardSends count data back incoming) :
    incoming.length = 16 + count.toNat + back.length := by
  rcases h with ⟨padding, crc, hpadding, hcrc, hdata, rfl⟩
  simp [recvDataResponse, hpadding, hcrc, hdata]
  lia

/-- Without data the response is the sixteen bytes of the structure. -/
theorem GardSends.drop {data back incoming : List UInt8}
    (h : GardSends 0 data back incoming) : incoming.drop 16 = back := by
  rcases h with ⟨padding, crc, hpadding, hcrc, hdata, rfl⟩
  have hlength : (recvDataResponse padding 0 data crc).length = 16 := by
    have hnone : data.length = 0 := hdata
    simp [recvDataResponse, hpadding, hcrc, hnone]
  rw [← hlength, List.drop_left]

theorem GardSends.endsInMarker {data back incoming : List UInt8}
    (h : GardSends 0 data back incoming) : EndsInMarker incoming := by
  have hlength := h.length
  refine ⟨by lia, ?_⟩
  rcases h with ⟨padding, crc, hpadding, -, hdata, rfl⟩
  have hnil : data = [] := List.eq_nil_of_length_eq_zero hdata
  have hheader : (HostRequestCommandId.recvDataFromGardAtOffset.code ::
      (padding ++ u32Bytes 0)).length = 8 := by
    simp [hpadding]
  have hsplit : recvDataResponse padding 0 data crc ++ back =
      (HostRequestCommandId.recvDataFromGardAtOffset.code ::
        (padding ++ u32Bytes 0)) ++
          (u32Bytes endOfDataMarker ++ (crc ++ back)) := by
    simp [recvDataResponse, hnil]
  rw [fieldValue, hsplit, ← hheader, List.drop_left, List.take_left' (by simp)]
  decide

/-!
## The exchange on a stream
-/

section Stream

variable {bus : DalBus} {line : BusLine ByteStream}

theorem transfer_read_stream_short (hbus : bus.busType = .uart)
    {count : UInt32} (hcount : count.toNat < 2 ^ 31)
    (h : line.state.incoming.length < count.toNat) :
    (transfer streamPort bus (.read count) line).1 = none := by
  have hne : count ≠ 0 := by
    intro hzero
    rw [hzero] at h
    cases h
  have htake : line.state.incoming.take count.toNat = line.state.incoming :=
    List.take_of_length_le (Nat.le_of_lt h)
  simp only [transfer, dalRead, if_neg hne, hbus, streamPort, htake,
    Option.map_some, transferred,
    uartReturn_some_of_lt (Nat.lt_trans h hcount),
    toUInt32_natCast (show line.state.incoming.length < 2 ^ 32 by lia)]
  rw [if_neg]
  simp [Nat.ne_of_lt h]

theorem transfer_read_stream (hbus : bus.busType = .uart) {count : UInt32}
    (hcount : count.toNat < 2 ^ 31)
    (h : count.toNat ≤ line.state.incoming.length) :
    exists next, transfer streamPort bus (.read count) line =
        (some (line.state.incoming.take count.toNat), next) ∧
      next.state.incoming = line.state.incoming.drop count.toNat := by
  have hsplit : line.state.incoming =
      line.state.incoming.take count.toNat ++
        line.state.incoming.drop count.toNat :=
    (List.take_append_drop count.toNat _).symm
  have hread := dalRead_stream hbus hcount (List.length_take_of_le h) hsplit
  simp only [transfer, hread, transferred,
    toUInt32_natCast count.toNat_lt, beq_self_eq_true, if_true]
  exact ⟨_, rfl, rfl⟩

theorem recvData_sent (hbus : bus.busType = .uart) (addr count : UInt32) :
    (sent streamPort bus (recvDataRequestData addr count) line).finished =
        true ∧
      (sent streamPort bus (recvDataRequestData addr count)
        line).final.state.incoming = line.state.incoming := by
  have hlength : (recvDataRequestData addr count).pRequest.length =
      (13 : UInt32).toNat := by
    simp [recvDataRequestData, commandRequestData, dataTransferRequest]
  have hsent : sent streamPort bus (recvDataRequestData addr count) line =
      runScript (transfer streamPort bus)
        [.write (recvDataRequestData addr count).pRequest 13] line := rfl
  rw [hsent, runScript_singleton]
  simp only [transfer, dalWrite_stream hbus (by decide) hlength, transferred,
    toUInt32_natCast (13 : UInt32).toNat_lt, beq_self_eq_true, if_true]
  exact ⟨Option.isSome_some, trivial⟩

/-- Sixteen bytes are read, whatever the number of data. -/
theorem recvData_received (hbus : bus.busType = .uart) (addr count : UInt32)
    (h : 16 ≤ line.state.incoming.length) :
    (received streamPort bus (recvDataRequestData addr count) line).finished =
        true ∧
      response streamPort bus (recvDataRequestData addr count) line =
        line.state.incoming.take 16 ∧
      (received streamPort bus (recvDataRequestData addr count)
        line).final.state.incoming = line.state.incoming.drop 16 := by
  have hops : recvOps (recvDataRequestData addr count) =
      [.read 1, .read 15] := by
    simp [recvOps, recvDataRequestData, commandRequestData]
  have hfirst : (1 : UInt32).toNat ≤ line.state.incoming.length := by
    change 1 ≤ _
    lia
  rcases transfer_read_stream hbus (by decide) hfirst with ⟨mid, hpart, hmid⟩
  have hrest : (15 : UInt32).toNat ≤ mid.state.incoming.length := by
    rw [hmid, List.length_drop]
    change 15 ≤ _ - 1
    lia
  rcases transfer_read_stream hbus (by decide) hrest with ⟨last, hread, hlast⟩
  have hrun : received streamPort bus (recvDataRequestData addr count) line =
      { replies := [line.state.incoming.take 1, mid.state.incoming.take 15]
        finished := true
        final := last } := by
    rw [received, hops, runScript_cons_of_some _ hpart, runScript_singleton,
      hread]
    rfl
  have hsplit : line.state.incoming.take 16 =
      line.state.incoming.take 1 ++ mid.state.incoming.take 15 := by
    rw [hmid]
    exact List.take_add (i := 1) (j := 15)
  have hlength : (line.state.incoming.take 1).length = 1 :=
    List.length_take_of_le hfirst
  have hlengthRest : (mid.state.incoming.take 15).length = 15 :=
    List.length_take_of_le hrest
  refine ⟨by rw [hrun], ?_, ?_⟩
  · have hroom : (recvDataRequestData addr count).pResponse.length ≤
        (line.state.incoming.take 1).length +
          (mid.state.incoming.take 15).length := by
      rw [hlength, hlengthRest]
      simp [recvDataRequestData, commandRequestData]
    have hfull := overwrite_overwrite_full hroom
    rw [hlength] at hfull
    rw [response, hrun, receivedResponse, hsplit, ← hfull]
    rfl
  · rw [hrun, hlast, hmid, List.drop_drop]
    rfl

theorem recvData_received_short (hbus : bus.busType = .uart)
    (addr count : UInt32) (h : line.state.incoming.length < 16) :
    (received streamPort bus (recvDataRequestData addr count) line).finished =
      false := by
  have hops : recvOps (recvDataRequestData addr count) =
      [.read 1, .read 15] := by
    simp [recvOps, recvDataRequestData, commandRequestData]
  rw [received, hops]
  by_cases hempty : line.state.incoming.length < (1 : UInt32).toNat
  · have hnone := transfer_read_stream_short hbus (by decide) hempty
    rw [runScript_cons_of_none _ (Prod.ext hnone rfl)]
  · rcases transfer_read_stream hbus (by decide) (Nat.le_of_not_lt hempty)
      with ⟨mid, hpart, hmid⟩
    have hshort : mid.state.incoming.length < (15 : UInt32).toNat := by
      rw [hmid, List.length_drop]
      change _ - 1 < 15
      lia
    rw [runScript_cons_of_some _ hpart, runScript_singleton,
      transfer_read_stream_short hbus (by decide) hshort]
    rfl

variable {gard : HubGardInfo app}

/-- The exchange finishes when sixteen bytes are waiting. -/
theorem recvData_executes (hactive : gard.activeDalBus = some bus)
    (hbus : bus.busType = .uart) (addr count : UInt32)
    (h : 16 ≤ line.state.incoming.length) :
    (hubExecuteHubRequest streamPort gard (recvDataRequestData addr count)
        line).ret = true ∧
      (hubExecuteHubRequest streamPort gard (recvDataRequestData addr count)
        line).data.pResponse = line.state.incoming.take 16 ∧
      (hubExecuteHubRequest streamPort gard (recvDataRequestData addr count)
        line).line.state.incoming = line.state.incoming.drop 16 := by
  have hprep : Prepared (recvDataRequestData addr count) := ⟨rfl, rfl⟩
  rcases recvData_sent hbus addr count with ⟨hsent, hwaiting⟩
  rcases recvData_received hbus addr count (by rw [hwaiting]; exact h)
    with ⟨hreceived, hresponse, hleft⟩
  rcases hubExecuteHubRequest_responded streamPort hprep hactive
    (by rw [gotResponse, hsent, hreceived]; rfl) with ⟨hret, hdata, hline, -⟩
  refine ⟨hret, ?_, ?_⟩
  · rw [hdata, hresponse, hwaiting]
  · rw [hline, ← hwaiting, ← hleft]
    rfl

/-- The call succeeds when sixteen bytes are waiting that end in a marker and
four more bytes. -/
theorem hubRecvDataFromGard_success_iff (hactive : gard.activeDalBus = some bus)
    (hbus : bus.busType = .uart) (pBuffer : List UInt8)
    (addr count : UInt32) :
    (hubRecvDataFromGard streamPort gard pBuffer addr count line).1.ret =
        .success <-> EndsInMarker line.state.incoming := by
  have hprep : Prepared (recvDataRequestData addr count) := ⟨rfl, rfl⟩
  have hfield : fieldValue (line.state.incoming.take 16) 8 4 =
      fieldValue line.state.incoming 8 4 := by
    rw [fieldValue, List.drop_take, List.take_take]
    rfl
  rw [hubRecvDataFromGard, executeCommand_success_iff (by decide)]
  constructor
  · intro h
    have hlength : 16 ≤ line.state.incoming.length := by
      by_contra hshort
      have hsent : (sent streamPort bus (recvDataRequestData addr count)
          line).finished = true ∧ _ := recvData_sent hbus addr count
      have hwaiting := hsent.2
      have hreceived := recvData_received_short hbus addr count
        (hwaiting ▸ Nat.lt_of_not_le hshort)
      have hret := h.1
      rw [(hubExecuteHubRequest_exchange streamPort hprep hactive).1,
        exchange_finished_iff, hreceived] at hret
      exact Bool.false_ne_true hret.2.1
    rw [(recvData_executes hactive hbus addr count hlength).2.1, hfield] at h
    exact ⟨hlength, beq_iff_eq.mp h.2⟩
  · intro h
    rcases recvData_executes hactive hbus addr count h.1
      with ⟨hret, hresponse, -⟩
    rw [hresponse, hfield]
    exact ⟨hret, beq_iff_eq.mpr h.2⟩

end Stream

/-!
## The law
-/

/-- A response in the documented layout is received: the call succeeds, the data
are in the buffer and the response is off the bus; any other stream makes the
call fail. -/
def ReceivesDocumented (gard : HubGardInfo app) (pBuffer : List UInt8)
    (addr count : UInt32) (line : BusLine ByteStream) : Prop :=
  let result := hubRecvDataFromGard streamPort gard pBuffer addr count line
  (forall data back, GardSends count data back line.state.incoming ->
    result.1.ret = .success ∧ result.2.take count.toNat = data ∧
      result.1.line.state.incoming = back) ∧
  (¬ Documented count line.state.incoming -> result.1.ret ≠ .success)

/-- Data are received as documented exactly when there are none to receive, or
the response is not a documented one, and the sixteen bytes that are read do
not pass for a response that they are not. -/
theorem hubRecvDataFromGard_documented_iff {gard : HubGardInfo app}
    {bus : DalBus} (hactive : gard.activeDalBus = some bus)
    (hbus : bus.busType = .uart) (pBuffer : List UInt8)
    (addr count : UInt32) (line : BusLine ByteStream) :
    ReceivesDocumented gard pBuffer addr count line <->
      (Documented count line.state.incoming -> count = 0) ∧
        (EndsInMarker line.state.incoming ->
          Documented count line.state.incoming) := by
  have hsuccess : _ <-> EndsInMarker line.state.incoming :=
    hubRecvDataFromGard_success_iff hactive hbus pBuffer addr count
  simp only [ReceivesDocumented, ne_eq, hsuccess]
  constructor
  · intro h
    rcases h with ⟨hdocumented, hother⟩
    constructor
    · intro hdoc
      rcases hdoc with ⟨data, back, hsends⟩
      rcases hdocumented data back hsends with ⟨hends, -, hleft⟩
      have hread : (hubRecvDataFromGard streamPort gard pBuffer addr count
          line).1.line.state.incoming = line.state.incoming.drop 16 :=
        (recvData_executes hactive hbus addr count hends.1).2.2
      have hlength := congrArg List.length (hread.symm.trans hleft)
      rw [List.length_drop, hsends.length] at hlength
      apply UInt32.toNat_inj.mp
      change _ = 0
      lia
    · intro hends
      by_contra hdoc
      exact hother hdoc hends
  · intro h
    rcases h with ⟨hzero, hends⟩
    refine ⟨?_, fun hdoc hmarker => hdoc (hends hmarker)⟩
    intro data back hsends
    have hcount : count = 0 := hzero ⟨data, back, hsends⟩
    subst hcount
    have hmarker := hsends.endsInMarker
    refine ⟨hmarker, ?_, ?_⟩
    · rcases hsends with ⟨_, _, -, -, hdata, -⟩
      rw [List.eq_nil_of_length_eq_zero hdata]
      rfl
    · rw [show (hubRecvDataFromGard streamPort gard pBuffer addr 0
        line).1.line.state.incoming = line.state.incoming.drop 16 from
        (recvData_executes hactive hbus addr 0 hmarker.1).2.2]
      exact hsends.drop

theorem hubRecvDataFromGard_documented_empty :
    ReceivesDocumented (readyGard none : HubGardInfo Unit) [] 0x1000 0
      (streamLine [2, 0, 0, 0, 0, 0, 0, 0, 0xDB, 0xE0, 0xDB, 0xE0, 1, 2, 3, 4,
        0x0C]) :=
  (hubRecvDataFromGard_documented_iff rfl rfl [] 0x1000 0 _).mpr
    ⟨fun _ => rfl, fun _ => ⟨[], [0x0C], [0, 0, 0], [1, 2, 3, 4], rfl, rfl, rfl,
      rfl⟩⟩

/-- Two data bytes in the documented layout make the call fail.  A message of
the GARD that has a marker in the right place makes it succeed. -/
theorem hubRecvDataFromGard_loses_data :
    ¬ ReceivesDocumented (readyGard none : HubGardInfo Unit) [0, 0] 0x1000 2
      (streamLine [2, 0, 0, 0, 2, 0, 0, 0, 0xAA, 0xBB, 0xDB, 0xE0, 0xDB, 0xE0,
        1, 2, 3, 4]) ∧
    ¬ ReceivesDocumented (readyGard none : HubGardInfo Unit) [0, 0] 0x1000 2
      (streamLine [0x0C, 0xCD, 7, 8, 0, 0, 7, 1, 0xDB, 0xE0, 0xDB, 0xE0, 2, 3,
        4, 5]) := by
  constructor
  · intro h
    have hsends : GardSends 2 [0xAA, 0xBB] []
        [2, 0, 0, 0, 2, 0, 0, 0, 0xAA, 0xBB, 0xDB, 0xE0, 0xDB, 0xE0,
          1, 2, 3, 4] :=
      ⟨[0, 0, 0], [1, 2, 3, 4], rfl, rfl, rfl, rfl⟩
    exact absurd (h.1 _ _ hsends).1 (by decide +kernel)
  · intro h
    have hother : ¬ Documented 2 [0x0C, 0xCD, 7, 8, 0, 0, 7, 1, 0xDB, 0xE0,
        0xDB, 0xE0, 2, 3, 4, 5] := by
      rintro ⟨data, back, hsends⟩
      have hlength := hsends.length
      simp at hlength
      lia
    exact h.2 hother (by decide +kernel)

end Hub
end GardHub
