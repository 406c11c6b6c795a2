import GardHub.Foundation.Loop
import GardHub.Foundation.Memory
import GardHub.Dal

/-!
# Reading from a UART

The loop with which the UART driver collects the bytes of a read.  What `select`
and `read` come to in each pass is left open.
-/

namespace GardHub
namespace Dal

open Foundation

/-!
## The loop
-/

/-- `DAL_GARD_UART_READ_CHUNK_SZ` -/
def dalGardUartReadChunkSz : UInt32 := 64

/-- `DAL_UART_READ_MAX_RETRIES` -/
def dalUartReadMaxRetries : Nat := 3

/-- `min_uint32` -/
def minUint32 (a b : UInt32) : UInt32 :=
  if a < b then a else b

/-- What `select` comes to in a pass, and `read` behind it. -/
inductive UartOutcome where
  | selectError
  | timedOut
  | readError
  | read (bytes : List UInt8)
deriving DecidableEq

/-- The bytes that a pass takes from the device. -/
def UartOutcome.bytes : UartOutcome -> List UInt8
  | read bytes => bytes
  | _ => []

/-- What happens in each pass, given the time-out that `select` is called
with. -/
abbrev UartLine := UInt32 -> Nat -> UartOutcome

/-- The variables of the loop, and the memory in which the buffer is. -/
structure UartLoop where
  bytesLeft : UInt32
  totalBytes : Nat
  pBuffer : Int
  retryCount : Nat
  memory : Memory

/-- The number of bytes that a pass asks for. -/
def UartLoop.toRead (s : UartLoop) : UInt32 :=
  minUint32 s.bytesLeft dalGardUartReadChunkSz

/-- The test at the end of a pass. -/
def uartTest (count : UInt32) (s : UartLoop) : Option Unit × UartLoop :=
  if s.totalBytes < count.toNat then (none, s) else (some (), s)

/-- A pass of the loop of `dal_uart_read`, up to its test. -/
def uartPass (count : UInt32) :
    UartOutcome -> UartLoop -> Option Unit × UartLoop
  | .selectError, s => (some (), s)
  | .timedOut, s => uartTest count s
  | .readError, s => (some (), s)
  | .read [], s =>
      let s := { s with retryCount := s.retryCount + 1 }
      if dalUartReadMaxRetries ≤ s.retryCount then (some (), s)
      else uartTest count s
  | .read bytes, s =>
      uartTest count
        { bytesLeft := s.bytesLeft - UInt32.ofNat bytes.length
          totalBytes := s.totalBytes + bytes.length
          pBuffer := s.pBuffer + bytes.length
          retryCount := 0
          memory := s.memory.store s.pBuffer bytes }

/-- The first outcomes on a line. -/
def firstOutcomes (outcomes : Nat -> UartOutcome) (passes : Nat) :
    List UartOutcome :=
  (List.range passes).map outcomes

section Read

variable (pBuffer : Int) (memory : Memory) (count : UInt32)

/-- The variables in front of the loop. -/
def uartStart : UartLoop :=
  { bytesLeft := count
    totalBytes := 0
    pBuffer := pBuffer
    retryCount := 0
    memory := memory }

/-- The loop after a number of passes, or as it was when it ended. -/
def uartAfter (outcomes : Nat -> UartOutcome) (passes : Nat) :
    Option Unit × UartLoop :=
  loopOver (uartPass count) (firstOutcomes outcomes passes)
    (uartStart pBuffer memory count)

/-- `dal_uart_read` after a number of passes: the value it has returned and the
memory, unless it is still running.  All its ways out return the total as an
`int32_t`. -/
def dalUartRead (line : UartLine) (timeoutUsec : UInt32) (passes : Nat) :
    Option (Int × Memory) :=
  match uartAfter pBuffer memory count (line timeoutUsec) passes with
  | (none, _) => none
  | (some _, s) => some (toInt32 s.totalBytes, s.memory)

/-- The call returns in a pass. -/
def ReturnsIn (line : UartLine) (timeoutUsec : UInt32) (pass : Nat)
    (result : Int × Memory) : Prop :=
  dalUartRead pBuffer memory count line timeoutUsec pass = none ∧
    dalUartRead pBuffer memory count line timeoutUsec (pass + 1) = some result

end Read

/-!
## The outcomes
-/

/-- The bytes that are taken from the device in the first passes. -/
def deliveredBytes (outcomes : List UartOutcome) : List UInt8 :=
  outcomes.flatMap UartOutcome.bytes

/-- The number of empty reads at the end, where time-outs are left out. -/
def emptyReads (outcomes : List UartOutcome) : Nat :=
  ((outcomes.filter (· ≠ .timedOut)).reverse.takeWhile (· = .read [])).length

/-- An outcome behind others ends the loop: something failed, the bytes are
complete, or it is the last of too many empty reads. -/
def Stops (count : UInt32) (taken : List UartOutcome) (o : UartOutcome) :
    Prop :=
  o = .selectError ∨ o = .readError ∨
    count.toNat ≤ (deliveredBytes (taken ++ [o])).length ∨
    dalUartReadMaxRetries ≤ emptyReads (taken ++ [o])

theorem firstOutcomes_succ (outcomes : Nat -> UartOutcome) (passes : Nat) :
    firstOutcomes outcomes (passes + 1) =
      firstOutcomes outcomes passes ++ [outcomes passes] := by
  simp [firstOutcomes, List.range_succ]

theorem deliveredBytes_concat (outcomes : List UartOutcome) (o : UartOutcome) :
    deliveredBytes (outcomes ++ [o]) = deliveredBytes outcomes ++ o.bytes := by
  simp [deliveredBytes]

theorem emptyReads_timedOut (outcomes : List UartOutcome) :
    emptyReads (outcomes ++ [.timedOut]) = emptyReads outcomes := by
  simp [emptyReads]

theorem emptyReads_empty (outcomes : List UartOutcome) :
    emptyReads (outcomes ++ [.read []]) = emptyReads outcomes + 1 := by
  simp [emptyReads]

theorem emptyReads_filled (outcomes : List UartOutcome) (b : UInt8)
    (bytes : List UInt8) :
    emptyReads (outcomes ++ [.read (b :: bytes)]) = 0 := by
  simp [emptyReads]

theorem deliveredBytes_length_mono (outcomes : Nat -> UartOutcome) {m n : Nat}
    (h : m ≤ n) :
    (deliveredBytes (firstOutcomes outcomes m)).length ≤
      (deliveredBytes (firstOutcomes outcomes n)).length := by
  induction n, h using Nat.le_induction with
  | base =>
      exact le_refl _
  | succ n _ ih =>
      rw [firstOutcomes_succ, deliveredBytes_concat, List.length_append]
      lia

/-!
## Passes
-/

section Passes

variable {count : UInt32} {taken : List UartOutcome} {s : UartLoop}

/-- A loop that is still running behind some outcomes. -/
structure Running (taken : List UartOutcome) (s : UartLoop) : Prop where
  totalBytes : s.totalBytes = (deliveredBytes taken).length
  retryCount : s.retryCount = emptyReads taken
  retries : s.retryCount < dalUartReadMaxRetries

theorem running_start (pBuffer : Int) (memory : Memory) :
    Running [] (uartStart pBuffer memory count) :=
  ⟨rfl, rfl, Nat.succ_pos _⟩

theorem uartTest_cases (count : UInt32) (s : UartLoop) :
    (s.totalBytes < count.toNat ∧ uartTest count s = (none, s)) ∨
      (count.toNat ≤ s.totalBytes ∧ uartTest count s = (some (), s)) := by
  unfold uartTest
  by_cases h : s.totalBytes < count.toNat
  · exact Or.inl ⟨h, if_pos h⟩
  · exact Or.inr ⟨Nat.le_of_not_lt h, if_neg h⟩

theorem not_stops {o : UartOutcome} (hselect : o ≠ .selectError)
    (hread : o ≠ .readError)
    (htotal : (deliveredBytes (taken ++ [o])).length < count.toNat)
    (hempty : emptyReads (taken ++ [o]) < dalUartReadMaxRetries) :
    ¬ Stops count taken o := by
  rintro (h | h | h | h)
  · exact hselect h
  · exact hread h
  · exact Nat.not_le_of_lt htotal h
  · exact Nat.not_le_of_lt hempty h

/-- A pass that comes to the loop test goes on and keeps the loop running, or
has all bytes and ends it. -/
theorem uartTest_running {o : UartOutcome} {mid : UartLoop}
    (hrunning : Running (taken ++ [o]) mid) (hselect : o ≠ .selectError)
    (hread : o ≠ .readError) (hpass : uartPass count o s = uartTest count mid) :
    (¬ Stops count taken o ∧ exists s', uartPass count o s = (none, s') ∧
        Running (taken ++ [o]) s') ∨
      (Stops count taken o ∧ exists s', uartPass count o s = (some (), s') ∧
        s'.totalBytes = (deliveredBytes (taken ++ [o])).length) := by
  have htotal := hrunning.totalBytes
  rcases uartTest_cases count mid with ⟨hlt, htest⟩ | ⟨hle, htest⟩
  · refine Or.inl ⟨?_, mid, hpass.trans htest, hrunning⟩
    apply not_stops hselect hread
    · exact htotal ▸ hlt
    · exact hrunning.retryCount ▸ hrunning.retries
  · refine Or.inr ⟨?_, mid, hpass.trans htest, htotal⟩
    exact Or.inr (Or.inr (Or.inl (htotal ▸ hle)))

/-- A pass either goes on and keeps the loop running, or ends it. -/
theorem uartPass_running (h : Running taken s) (o : UartOutcome) :
    (¬ Stops count taken o ∧ exists s', uartPass count o s = (none, s') ∧
        Running (taken ++ [o]) s') ∨
      (Stops count taken o ∧ exists s', uartPass count o s = (some (), s') ∧
        s'.totalBytes = (deliveredBytes (taken ++ [o])).length) := by
  have htotal := h.totalBytes
  have hretry := h.retryCount
  cases o with
  | selectError =>
      refine Or.inr ⟨Or.inl rfl, s, rfl, ?_⟩
      simpa [deliveredBytes_concat, UartOutcome.bytes] using htotal
  | readError =>
      refine Or.inr ⟨Or.inr (Or.inl rfl), s, rfl, ?_⟩
      simpa [deliveredBytes_concat, UartOutcome.bytes] using htotal
  | timedOut =>
      have hrunning : Running (taken ++ [.timedOut]) s := by
        refine ⟨?_, ?_, h.retries⟩
        · simpa [deliveredBytes_concat, UartOutcome.bytes] using htotal
        · rwa [emptyReads_timedOut]
      exact uartTest_running hrunning (by simp) (by simp) rfl
  | read bytes =>
      cases bytes with
      | nil =>
          have htaken : s.totalBytes =
              (deliveredBytes (taken ++ [.read []])).length := by
            simpa [deliveredBytes_concat, UartOutcome.bytes] using htotal
          by_cases hmax : dalUartReadMaxRetries ≤ s.retryCount + 1
          · refine Or.inr ⟨?_, { s with retryCount := s.retryCount + 1 },
              if_pos hmax, htaken⟩
            rw [Stops, emptyReads_empty, ← hretry]
            exact Or.inr (Or.inr (Or.inr hmax))
          · have hrunning : Running (taken ++ [.read []])
                { s with retryCount := s.retryCount + 1 } := by
              refine ⟨htaken, ?_, Nat.lt_of_not_le hmax⟩
              rw [emptyReads_empty, hretry]
            exact uartTest_running hrunning (by simp) (by simp) (if_neg hmax)
      | cons b bytes =>
          have hrunning : Running (taken ++ [.read (b :: bytes)])
              { bytesLeft := s.bytesLeft - UInt32.ofNat (b :: bytes).length
                totalBytes := s.totalBytes + (b :: bytes).length
                pBuffer := s.pBuffer + (b :: bytes).length
                retryCount := 0
                memory := s.memory.store s.pBuffer (b :: bytes) } := by
            refine ⟨?_, (emptyReads_filled _ _ _).symm, Nat.succ_pos _⟩
            rw [deliveredBytes_concat, List.length_append, htotal,
              UartOutcome.bytes]
          exact uartTest_running hrunning (by simp) (by simp) rfl

end Passes

/-!
## Returning
-/

section Returning

variable {pBuffer : Int} {memory : Memory} {count : UInt32}
  {outcomes : Nat -> UartOutcome}

/-- A pass of a line ends the loop. -/
def StopsAt (count : UInt32) (outcomes : Nat -> UartOutcome) (pass : Nat) :
    Prop :=
  Stops count (firstOutcomes outcomes pass) (outcomes pass)

theorem uartAfter_succ {passes : Nat} {s : UartLoop}
    (h : uartAfter pBuffer memory count outcomes passes = (none, s)) :
    uartAfter pBuffer memory count outcomes (passes + 1) =
      uartPass count (outcomes passes) s := by
  rw [uartAfter, firstOutcomes_succ, loopOver_append_of_none _ h]
  cases hpass : uartPass count (outcomes passes) s with
  | mk result s' =>
      cases result with
      | none =>
          rw [loopOver_cons_of_none _ hpass, loopOver_nil]
      | some reason =>
          rw [loopOver_cons_of_some _ hpass]

theorem uartAfter_running {passes : Nat}
    (h : forall pass, pass < passes -> ¬ StopsAt count outcomes pass) :
    exists s, uartAfter pBuffer memory count outcomes passes = (none, s) ∧
      Running (firstOutcomes outcomes passes) s := by
  induction passes with
  | zero =>
      exact ⟨_, rfl, running_start pBuffer memory⟩
  | succ passes ih =>
      rcases ih fun pass hpass => h pass (Nat.lt_succ_of_lt hpass)
        with ⟨s, hafter, hrunning⟩
      rcases uartPass_running hrunning (outcomes passes) with
        ⟨-, s', hpass, hrunning'⟩ | ⟨hstops, -⟩
      · refine ⟨s', ?_, ?_⟩
        · rw [uartAfter_succ hafter, hpass]
        · rwa [firstOutcomes_succ]
      · exact absurd hstops (h passes (Nat.lt_succ_self passes))

theorem uartAfter_stopped {pass : Nat} (hstops : StopsAt count outcomes pass)
    (hfirst : forall earlier, earlier < pass ->
      ¬ StopsAt count outcomes earlier) :
    exists s,
      uartAfter pBuffer memory count outcomes (pass + 1) = (some (), s) ∧
      s.totalBytes =
        (deliveredBytes (firstOutcomes outcomes (pass + 1))).length := by
  rcases uartAfter_running hfirst with ⟨s, hafter, hrunning⟩
  rcases uartPass_running hrunning (outcomes pass) with
    ⟨hgoes, -⟩ | ⟨-, s', hpass, htotal⟩
  · exact absurd hstops hgoes
  · refine ⟨s', ?_, ?_⟩
    · rw [uartAfter_succ hafter, hpass]
    · rw [firstOutcomes_succ, htotal]

theorem uartAfter_of_le {m n : Nat} {s : UartLoop}
    (h : uartAfter pBuffer memory count outcomes m = (some (), s))
    (hle : m ≤ n) :
    uartAfter pBuffer memory count outcomes n = (some (), s) := by
  have hsplit : firstOutcomes outcomes n =
      firstOutcomes outcomes m ++
        (List.range (n - m)).map fun i => outcomes (m + i) := by
    rw [firstOutcomes, ← Nat.add_sub_cancel' hle, List.range_add,
      List.map_append, List.map_map, Nat.add_sub_cancel_left]
    rfl
  rw [uartAfter, hsplit]
  exact loopOver_append_of_some _ h

theorem not_stopsAt_of_running {passes : Nat} {s : UartLoop}
    (h : uartAfter pBuffer memory count outcomes passes = (none, s)) :
    forall pass, pass < passes -> ¬ StopsAt count outcomes pass := by
  intro pass
  induction pass using Nat.strongRecOn with
  | ind pass ih =>
      intro hpass hstops
      rcases uartAfter_stopped hstops
        (fun earlier hearlier => ih earlier hearlier (hearlier.trans hpass))
        with ⟨s', hafter, -⟩
      have hlater := uartAfter_of_le hafter (Nat.succ_le_of_lt hpass)
      rw [h] at hlater
      cases hlater

/-- The number of passes that are not timed out. -/
def answers (outcomes : List UartOutcome) : Nat :=
  outcomes.countP (· ≠ .timedOut)

theorem answers_concat_le {taken : List UartOutcome} {o : UartOutcome}
    (hselect : o ≠ .selectError) (hread : o ≠ .readError)
    (hempty : emptyReads taken < dalUartReadMaxRetries)
    (h : answers taken ≤
      dalUartReadMaxRetries * (deliveredBytes taken).length +
        emptyReads taken) :
    answers (taken ++ [o]) ≤
      dalUartReadMaxRetries * (deliveredBytes (taken ++ [o])).length +
        emptyReads (taken ++ [o]) := by
  have hanswers : answers (taken ++ [o]) =
      answers taken + if o = .timedOut then 0 else 1 := by
    cases o <;> simp [answers, List.countP_append]
  rw [hanswers, deliveredBytes_concat, List.length_append, Nat.mul_add]
  cases o with
  | selectError =>
      exact absurd rfl hselect
  | readError =>
      exact absurd rfl hread
  | timedOut =>
      rw [emptyReads_timedOut]
      simpa [UartOutcome.bytes] using h
  | read bytes =>
      cases bytes with
      | nil =>
          rw [emptyReads_empty]
          simp [UartOutcome.bytes]
          lia
      | cons b bytes =>
          rw [emptyReads_filled]
          simp only [UartOutcome.bytes, List.length_cons, reduceCtorEq, if_false,
            dalUartReadMaxRetries] at h hempty ⊢
          lia

theorem answers_unbounded
    (h : forall n, exists m, n ≤ m ∧ outcomes m ≠ .timedOut) (k : Nat) :
    exists n, k ≤ answers (firstOutcomes outcomes n) := by
  have hmono : forall {m n}, m ≤ n ->
      answers (firstOutcomes outcomes m) ≤
        answers (firstOutcomes outcomes n) := by
    intro m n hle
    induction n, hle using Nat.le_induction with
    | base =>
        exact le_refl _
    | succ n _ ih =>
        rw [firstOutcomes_succ, answers, answers, List.countP_append]
        exact ih.trans (Nat.le_add_right _ _)
  induction k with
  | zero =>
      exact ⟨0, Nat.zero_le _⟩
  | succ k ih =>
      rcases ih with ⟨n, hn⟩
      rcases h n with ⟨m, hle, hanswer⟩
      have hone : answers [outcomes m] = 1 := by
        simp [answers, hanswer]
      refine ⟨m + 1, ?_⟩
      rw [firstOutcomes_succ, answers, List.countP_append]
      have hfront := hn.trans (hmono hle)
      rw [answers] at hone hfront
      lia

/-- Unless the line falls silent, some pass ends the loop. -/
theorem exists_stopsAt_of_answers
    (h : forall n, exists m, n ≤ m ∧ outcomes m ≠ .timedOut) :
    exists pass, StopsAt count outcomes pass := by
  by_contra hnone
  have hgoes : forall pass, ¬ StopsAt count outcomes pass :=
    fun pass hstops => hnone ⟨pass, hstops⟩
  have hbounds : forall n,
      (deliveredBytes (firstOutcomes outcomes n)).length ≤ count.toNat ∧
        emptyReads (firstOutcomes outcomes n) < dalUartReadMaxRetries := by
    intro n
    cases n with
    | zero =>
        exact ⟨Nat.zero_le _, Nat.succ_pos _⟩
    | succ n =>
        have hn := hgoes n
        rw [StopsAt, Stops, ← firstOutcomes_succ] at hn
        simp only [not_or, Nat.not_le] at hn
        exact ⟨hn.2.2.1.le, hn.2.2.2⟩
  have hanswers : forall n, answers (firstOutcomes outcomes n) ≤
      dalUartReadMaxRetries *
          (deliveredBytes (firstOutcomes outcomes n)).length +
        emptyReads (firstOutcomes outcomes n) := by
    intro n
    induction n with
    | zero =>
        exact Nat.zero_le _
    | succ n ih =>
        rw [firstOutcomes_succ]
        exact answers_concat_le (fun herror => hgoes n (Or.inl herror))
          (fun herror => hgoes n (Or.inr (Or.inl herror))) (hbounds n).2 ih
  rcases answers_unbounded h
    (dalUartReadMaxRetries * count.toNat + dalUartReadMaxRetries) with ⟨n, hn⟩
  rcases hbounds n with ⟨hle, hlt⟩
  have hall := hn.trans (hanswers n)
  have hmul := Nat.mul_le_mul_left dalUartReadMaxRetries hle
  lia

end Returning

/-!
## The end of a call
-/

section End

variable (pBuffer : Int) (memory : Memory) (count : UInt32) (line : UartLine)
  (timeoutUsec : UInt32)

/-- The call ends, and returns the number of bytes it has taken until then. -/
def ReturnsRead : Prop :=
  exists pass ret memory',
    ReturnsIn pBuffer memory count line timeoutUsec pass (ret, memory') ∧
    ret = (deliveredBytes
      (firstOutcomes (line timeoutUsec) (pass + 1))).length

variable {pBuffer memory count line timeoutUsec}

theorem returnsIn_of_uartAfter {pass : Nat} {s s' : UartLoop}
    (hrunning : uartAfter pBuffer memory count (line timeoutUsec) pass =
      (none, s))
    (hended : uartAfter pBuffer memory count (line timeoutUsec) (pass + 1) =
      (some (), s')) :
    ReturnsIn pBuffer memory count line timeoutUsec pass
      (toInt32 s'.totalBytes, s'.memory) := by
  simp [ReturnsIn, dalUartRead, hrunning, hended]

theorem ReturnsIn.uartAfter {pass : Nat} {ret : Int} {memory' : Memory}
    (h : ReturnsIn pBuffer memory count line timeoutUsec pass (ret, memory')) :
    exists s s',
      uartAfter pBuffer memory count (line timeoutUsec) pass = (none, s) ∧
      uartAfter pBuffer memory count (line timeoutUsec) (pass + 1) =
        (some (), s') ∧
      ret = toInt32 s'.totalBytes ∧ memory' = s'.memory := by
  rcases h with ⟨hbefore, hafter⟩
  rw [dalUartRead] at hbefore hafter
  cases hrunning : Dal.uartAfter pBuffer memory count (line timeoutUsec) pass with
  | mk result s =>
      cases hended : Dal.uartAfter pBuffer memory count (line timeoutUsec)
          (pass + 1) with
      | mk result' s' =>
          rw [hrunning] at hbefore
          rw [hended] at hafter
          cases result with
          | some _ =>
              cases hbefore
          | none =>
              cases result' with
              | none =>
                  cases hafter
              | some _ =>
                  cases hafter
                  exact ⟨s, s', rfl, rfl, rfl, rfl⟩

theorem exists_returnsIn (pBuffer : Int) (memory : Memory)
    (h : exists pass, StopsAt count (line timeoutUsec) pass) :
    exists pass memory', StopsAt count (line timeoutUsec) pass ∧
      (forall earlier, earlier < pass ->
        ¬ StopsAt count (line timeoutUsec) earlier) ∧
      ReturnsIn pBuffer memory count line timeoutUsec pass
        (toInt32 (deliveredBytes
          (firstOutcomes (line timeoutUsec) (pass + 1))).length, memory') := by
  classical
  have hfirst : forall earlier, earlier < Nat.find h ->
      ¬ StopsAt count (line timeoutUsec) earlier :=
    fun earlier hearlier => Nat.find_min h hearlier
  rcases uartAfter_running hfirst with ⟨s, hrunning, -⟩
  rcases uartAfter_stopped (Nat.find_spec h) hfirst with ⟨s', hended, htotal⟩
  refine ⟨Nat.find h, s'.memory, Nat.find_spec h, hfirst, ?_⟩
  rw [← htotal]
  exact returnsIn_of_uartAfter hrunning hended

/-- The pass in which a call returns ends the loop, and the value is the number
of bytes taken, as an `int32_t`. -/
theorem ReturnsIn.stopsAt {pass : Nat} {ret : Int} {memory' : Memory}
    (h : ReturnsIn pBuffer memory count line timeoutUsec pass (ret, memory')) :
    StopsAt count (line timeoutUsec) pass ∧
      ret = toInt32 (deliveredBytes
        (firstOutcomes (line timeoutUsec) (pass + 1))).length := by
  rcases h.uartAfter with ⟨s, s', hrunning, hended, rfl, -⟩
  have hfirst := not_stopsAt_of_running hrunning
  have hstops : StopsAt count (line timeoutUsec) pass := by
    by_contra hgoes
    have hall : forall earlier, earlier < pass + 1 ->
        ¬ StopsAt count (line timeoutUsec) earlier := by
      intro earlier hearlier
      rcases Nat.lt_succ_iff_lt_or_eq.mp hearlier with hlt | rfl
      · exact hfirst earlier hlt
      · exact hgoes
    rcases uartAfter_running hall with ⟨s'', hnone, -⟩
    rw [hended] at hnone
    cases hnone
  rcases uartAfter_stopped hstops hfirst with ⟨s'', hsome, htotal⟩
  rw [hended] at hsome
  cases hsome
  exact ⟨hstops, by rw [htotal]⟩

/-- A call ends with the number of bytes taken exactly when a pass ends the loop
before 2^31 bytes have been taken. -/
theorem dalUartRead_returns_iff (pBuffer : Int) (memory : Memory)
    (count : UInt32) (line : UartLine) (timeoutUsec : UInt32) :
    ReturnsRead pBuffer memory count line timeoutUsec <->
      exists pass, StopsAt count (line timeoutUsec) pass ∧
        (deliveredBytes
          (firstOutcomes (line timeoutUsec) (pass + 1))).length < 2 ^ 31 := by
  constructor
  · rintro ⟨pass, ret, memory', hreturns, hret⟩
    rcases hreturns.stopsAt with ⟨hstops, hvalue⟩
    refine ⟨pass, hstops, ?_⟩
    rw [← toInt32_eq_iff, ← hvalue, hret]
  · rintro ⟨pass, hstops, hlt⟩
    rcases exists_returnsIn pBuffer memory ⟨pass, hstops⟩
      with ⟨first, memory', -, hfirst, hreturns⟩
    have hle : first ≤ pass := by
      by_contra hnot
      exact hfirst pass (Nat.lt_of_not_le hnot) hstops
    have hmono := deliveredBytes_length_mono (line timeoutUsec)
      (Nat.succ_le_succ hle)
    refine ⟨first, _, memory', hreturns, toInt32_of_lt ?_⟩
    exact lt_of_le_of_lt hmono hlt

theorem not_stopsAt_silent (hcount : count ≠ 0) (pass : Nat) :
    ¬ StopsAt count (fun _ => .timedOut) pass := by
  have hnone : forall passes,
      deliveredBytes (firstOutcomes (fun _ => .timedOut) passes) = [] ∧
        emptyReads (firstOutcomes (fun _ => .timedOut) passes) = 0 := by
    intro passes
    simp [deliveredBytes, firstOutcomes, emptyReads, UartOutcome.bytes]
  have hpos : 0 < count.toNat := by
    apply Nat.pos_of_ne_zero
    intro hzero
    exact hcount (UInt32.toNat_inj.mp hzero)
  rcases hnone (pass + 1) with ⟨hbytes, hempty⟩
  rw [firstOutcomes_succ] at hbytes hempty
  apply not_stops (by simp) (by simp)
  · rwa [hbytes]
  · rw [hempty]
    exact Nat.succ_pos _

/-- A call for one byte on a line that stays silent does not return. -/
theorem dalUartRead_waits :
    ¬ ReturnsRead 0 (fun _ => 0) 1 (fun _ _ => .timedOut) 1000 := by
  rintro ⟨pass, ret, memory', hreturns, -⟩
  exact not_stopsAt_silent (by decide) pass hreturns.stopsAt.1

end End

end Dal
end GardHub
