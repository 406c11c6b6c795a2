import GardHub.Dal.UartRead

/-!
# The buffer of a UART read

What a read that has returned left in the buffer, and the port through which the
HUB sees it.
-/

namespace GardHub
namespace Dal

open Foundation

variable {pBuffer : Int} {memory : Memory} {count : UInt32}

/-!
## The invariant of the loop
-/

section Filling

/-- The bytes taken so far are in the buffer, one behind the other, and the
variables of the loop are in step with them. -/
structure Filled (pBuffer : Int) (memory : Memory) (count : UInt32)
    (taken : List UInt8) (s : UartLoop) : Prop where
  totalBytes : s.totalBytes = taken.length
  totalBytes_le : s.totalBytes ≤ count.toNat
  bytesLeft : s.bytesLeft.toNat = count.toNat - s.totalBytes
  position : s.pBuffer = pBuffer + s.totalBytes
  contents : s.memory = memory.store pBuffer taken

variable {taken : List UInt8} {s : UartLoop}

theorem filled_start : Filled pBuffer memory count []
    (uartStart pBuffer memory count) := by
  refine ⟨rfl, Nat.zero_le _, rfl, (Int.add_zero _).symm, ?_⟩
  funext x
  exact (Memory.store_apply_of_not_mem (by
    rw [List.length_nil]
    lia)).symm

theorem uartTest_snd (count : UInt32) (s : UartLoop) :
    (uartTest count s).2 = s := by
  unfold uartTest
  split <;> rfl

theorem toRead_le (s : UartLoop) : s.toRead.toNat ≤ s.bytesLeft.toNat := by
  unfold UartLoop.toRead minUint32
  split
  · exact le_refl _
  · exact UInt32.le_iff_toNat_le.mp (UInt32.not_lt.mp ‹_›)

theorem Filled.setRetryCount (h : Filled pBuffer memory count taken s)
    (n : Nat) : Filled pBuffer memory count taken { s with retryCount := n } :=
  ⟨h.totalBytes, h.totalBytes_le, h.bytesLeft, h.position, h.contents⟩

theorem Filled.read (h : Filled pBuffer memory count taken s)
    {bytes : List UInt8} (hfits : bytes.length ≤ s.toRead.toNat) :
    Filled pBuffer memory count (taken ++ bytes)
      { bytesLeft := s.bytesLeft - UInt32.ofNat bytes.length
        totalBytes := s.totalBytes + bytes.length
        pBuffer := s.pBuffer + bytes.length
        retryCount := 0
        memory := s.memory.store s.pBuffer bytes } := by
  have htotal := h.totalBytes
  have hle := h.totalBytes_le
  have hleft := h.bytesLeft
  have hbytes : bytes.length ≤ s.bytesLeft.toNat := hfits.trans (toRead_le s)
  have hcount := count.toNat_lt
  have hnat : (UInt32.ofNat bytes.length).toNat = bytes.length := by
    rw [UInt32.toNat_ofNat']
    lia
  constructor
  · rw [List.length_append, htotal]
  · show s.totalBytes + bytes.length ≤ count.toNat
    lia
  · show (s.bytesLeft - UInt32.ofNat bytes.length).toNat =
      count.toNat - (s.totalBytes + bytes.length)
    rw [UInt32.toNat_sub_of_le _ _ (by
      rw [UInt32.le_iff_toNat_le, hnat]
      exact hbytes), hnat]
    lia
  · show s.pBuffer + bytes.length =
      pBuffer + ((s.totalBytes + bytes.length : Nat) : Int)
    rw [h.position]
    lia
  · show s.memory.store s.pBuffer bytes = memory.store pBuffer (taken ++ bytes)
    rw [h.contents, h.position, htotal, Memory.store_store_append]

/-- A pass keeps the invariant, whether it ends the loop or not. -/
theorem Filled.uartPass (h : Filled pBuffer memory count taken s)
    {o : UartOutcome} (hfits : o.bytes.length ≤ s.toRead.toNat) :
    Filled pBuffer memory count (taken ++ o.bytes)
      (Dal.uartPass count o s).2 := by
  cases o with
  | selectError | readError =>
      simpa [UartOutcome.bytes, Dal.uartPass] using h
  | timedOut =>
      simpa [UartOutcome.bytes, Dal.uartPass, uartTest_snd] using h
  | read bytes =>
      cases bytes with
      | nil =>
          have hretry := h.setRetryCount (s.retryCount + 1)
          by_cases hmax : dalUartReadMaxRetries ≤ s.retryCount + 1
          · simpa [UartOutcome.bytes, Dal.uartPass, hmax] using hretry
          · simpa [UartOutcome.bytes, Dal.uartPass, hmax, uartTest_snd]
              using hretry
      | cons b bytes =>
          have hread := h.read hfits
          rw [Dal.uartPass, uartTest_snd]
          · exact hread
          · simp

end Filling

/-!
## The buffer of a call
-/

section Buffer

/-- In the first passes, a read returns at most the bytes asked for. -/
def Fits (pBuffer : Int) (memory : Memory) (count : UInt32)
    (outcomes : Nat -> UartOutcome) (passes : Nat) : Prop :=
  forall pass, pass < passes -> (outcomes pass).bytes.length ≤
    (uartAfter pBuffer memory count outcomes pass).2.toRead.toNat

variable {outcomes : Nat -> UartOutcome}

theorem filled_uartAfter {passes : Nat}
    (hfits : Fits pBuffer memory count outcomes passes)
    (hrunning : forall pass, pass < passes ->
      (uartAfter pBuffer memory count outcomes pass).1 = none) :
    Filled pBuffer memory count
      (deliveredBytes (firstOutcomes outcomes passes))
      (uartAfter pBuffer memory count outcomes passes).2 := by
  induction passes with
  | zero =>
      exact filled_start
  | succ passes ih =>
      have hfilled := ih
        (fun pass hpass => hfits pass (Nat.lt_succ_of_lt hpass))
        (fun pass hpass => hrunning pass (Nat.lt_succ_of_lt hpass))
      have hnone := hrunning passes (Nat.lt_succ_self passes)
      have hstep := hfilled.uartPass (hfits passes (Nat.lt_succ_self passes))
      rw [firstOutcomes_succ, deliveredBytes_concat,
        uartAfter_succ (Prod.ext hnone rfl)]
      exact hstep

theorem ReturnsIn.running {line : UartLine} {timeoutUsec : UInt32} {pass : Nat}
    {result : Int × Memory}
    (h : ReturnsIn pBuffer memory count line timeoutUsec pass result) :
    forall earlier, earlier < pass + 1 ->
      (Dal.uartAfter pBuffer memory count (line timeoutUsec) earlier).1 =
        none := by
  rcases h.uartAfter with ⟨s, s', hrunning, -⟩
  have hgoes := not_stopsAt_of_running hrunning
  intro earlier hearlier
  rcases uartAfter_running fun pass' hpass' =>
    hgoes pass' (hpass'.trans_le (Nat.le_of_lt_succ hearlier))
    with ⟨t, hnone, -⟩
  rw [hnone]

/-- A read that has returned has stored the bytes it took. -/
theorem ReturnsIn.stored {memory' : Memory} {line : UartLine}
    {timeoutUsec : UInt32} {pass : Nat} {ret : Int}
    (hreturns : ReturnsIn pBuffer memory count line timeoutUsec pass
      (ret, memory'))
    (hfits : Fits pBuffer memory count (line timeoutUsec) (pass + 1))
    (hcount : count.toNat < 2 ^ 31) :
    ret = (deliveredBytes
        (firstOutcomes (line timeoutUsec) (pass + 1))).length ∧
      ret ≤ count.toNat ∧
      memory' = memory.store pBuffer
        (deliveredBytes (firstOutcomes (line timeoutUsec) (pass + 1))) := by
  have hfilled := filled_uartAfter hfits hreturns.running
  rcases hreturns.uartAfter with ⟨s, s', -, hended, rfl, rfl⟩
  rw [hended] at hfilled
  have htotal := hfilled.totalBytes
  have hle := hfilled.totalBytes_le
  have hret : toInt32 s'.totalBytes = s'.totalBytes := toInt32_of_lt (by lia)
  rw [hret]
  exact ⟨congrArg Nat.cast htotal, Int.ofNat_le.mpr hle, hfilled.contents⟩

/-- A read that has returned has left the bytes it took in the buffer, in order,
and nothing behind them. -/
theorem dalUartRead_delivers (pBuffer : Int) (memory memory' : Memory)
    (count : UInt32) (line : UartLine) (timeoutUsec : UInt32) (pass : Nat)
    (ret : Int) (hcount : count.toNat < 2 ^ 31)
    (hfits : Fits pBuffer memory count (line timeoutUsec) (pass + 1))
    (hreturns : ReturnsIn pBuffer memory count line timeoutUsec pass
      (ret, memory')) :
    0 ≤ ret ∧ ret ≤ count.toNat ∧
      ret = (deliveredBytes
        (firstOutcomes (line timeoutUsec) (pass + 1))).length ∧
      memory'.load pBuffer ret.toNat =
        deliveredBytes (firstOutcomes (line timeoutUsec) (pass + 1)) ∧
      forall x, x < pBuffer ∨ pBuffer + ret ≤ x -> memory' x = memory x := by
  rcases hreturns.stored hfits hcount with ⟨rfl, hle, rfl⟩
  refine ⟨Int.natCast_nonneg _, hle, rfl, ?_, ?_⟩
  · rw [Int.toNat_natCast]
    exact Memory.load_store_same _ _ _
  · intro x hx
    exact Memory.store_apply_of_not_mem hx

/-- Two bytes, a time-out and a third byte. -/
def shortReads : UartLine
  | _, 0 => .read [1, 2]
  | _, 2 => .read [3]
  | _, _ => .timedOut

theorem dalUartRead_delivers_shortReads :
    exists memory' : Memory,
      dalUartRead 8 (fun _ => 0) 3 shortReads 1000 3 = some (3, memory') ∧
      memory'.load 8 3 = [1, 2, 3] ∧ memory' 11 = 0 := by
  have hfits : Fits 8 (fun _ => 0) 3 (shortReads 1000) 3 := by
    intro pass hpass
    interval_cases pass <;> decide
  have hdelivers := dalUartRead_delivers 8 (fun _ => 0) _ 3 shortReads 1000 2 3
    (by decide) hfits ⟨rfl, rfl⟩
  exact ⟨_, rfl, hdelivers.2.2.2.1,
    hdelivers.2.2.2.2 11 (Or.inr (le_refl _))⟩

end Buffer

/-!
## The port in front of the driver
-/

section Driver

/-- `dal_read` over the driver's own loop, after a number of passes. -/
def dalReadUart (pBuffer : Int) (memory : Memory) (bus : DalBus)
    (count : UInt32) (line : UartLine) (timeoutMsec : UInt32) (passes : Nat) :
    Option (Int × Memory) :=
  if count = 0 then some (dalSuccess, memory)
  else
    match bus.busType with
    | .uart =>
        (dalUartRead pBuffer memory count line (timeoutMsec * 1000)
            passes).map fun result =>
          (if result.1 < 0 then dalFailureDeviceError else result.1, result.2)
    | _ => some (dalFailureInvalidArgs, memory)

/-- A port that delivers what the loop has taken stands for the driver: it gives
the value that `dal_read` returns, and the bytes that are in the buffer. -/
theorem dalRead_eq_dalReadUart {device : Type} (port : Port device)
    (bus : DalBus) (busLine : BusLine device) {memory' : Memory}
    {line : UartLine} {timeoutMsec : UInt32} {pass : Nat} {ret : Int}
    (hbus : bus.busType = .uart) (hzero : count ≠ 0)
    (hcount : count.toNat < 2 ^ 31)
    (hfits : Fits pBuffer memory count (line (timeoutMsec * 1000)) (pass + 1))
    (hreturns : ReturnsIn pBuffer memory count line (timeoutMsec * 1000) pass
      (ret, memory'))
    (hrecv : (port.recv busLine.state count.toNat).1 = some (deliveredBytes
      (firstOutcomes (line (timeoutMsec * 1000)) (pass + 1)))) :
    dalReadUart pBuffer memory bus count line timeoutMsec (pass + 1) =
        some ((dalRead port bus count busLine).1, memory') ∧
      (dalRead port bus count busLine).2.1 =
        memory'.load pBuffer ret.toNat := by
  rcases hreturns.stored hfits hcount with ⟨hret, hle, hmemory⟩
  have hnonneg : ¬ ret < 0 := by lia
  have hvalue : uartReturn (some (deliveredBytes (firstOutcomes
      (line (timeoutMsec * 1000)) (pass + 1))).length) = ret := by
    rw [uartReturn_some_of_lt (by lia), hret]
  have hload := Memory.load_store_same memory pBuffer
    (deliveredBytes (firstOutcomes (line (timeoutMsec * 1000)) (pass + 1)))
  constructor
  · simp [dalReadUart, dalRead, hzero, hbus, hreturns.2, hnonneg, hrecv,
      hvalue]
  · simp only [dalRead, hzero, hbus, hrecv, if_false]
    rw [hmemory, hret, Int.toNat_natCast, hload]
    rfl

end Driver

end Dal
end GardHub
