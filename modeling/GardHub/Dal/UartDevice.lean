import GardHub.Dal.UartBuffer

/-!
# A UART behind its driver

A UART that has no errors: what arrives on it waits until it is read, `select`
finds out whether something waits, and `read` takes from the front of that.  The
loop of `dal_uart_read` over such a device delivers the bytes that a stream
delivers, whatever the pace at which they arrive.
-/

namespace GardHub
namespace Dal

open Foundation

/-- The bytes that wait, what arrives before each of the next calls of `select`,
the bytes that were written, and whether a read still waits for bytes that never
arrive. -/
structure UartDevice where
  waiting : List UInt8
  arrivals : List (List UInt8)
  outgoing : List UInt8
  stalled : Bool

namespace UartDevice

/-- The bytes that wait or are still to arrive. -/
def bytes (d : UartDevice) : List UInt8 :=
  d.waiting ++ d.arrivals.flatten

/-- Nothing waits, and nothing will arrive. -/
def Dry (d : UartDevice) : Prop :=
  d.waiting = [] ∧ d.arrivals = []

/-- `select`, and `read` behind it: it takes what is there, up to the number
asked for. -/
def pass (toRead : Nat) (d : UartDevice) : UartOutcome × UartDevice :=
  let waiting := d.waiting ++ d.arrivals.headD []
  (if waiting = [] then .timedOut else .read (waiting.take toRead),
    { d with
      waiting := waiting.drop toRead
      arrivals := d.arrivals.tail })

/-- A pass of the loop of `dal_uart_read` on the device. -/
def loopPass (count : UInt32) (_ : Nat) (s : UartLoop × UartDevice) :
    Option Unit × UartLoop × UartDevice :=
  let outcome := s.2.pass s.1.toRead.toNat
  let result := uartPass count outcome.1 s.1
  (result.1, result.2, outcome.2)

/-- The loop of `dal_uart_read` on the device, in a number of passes. -/
def loop (count : UInt32) (passes : Nat) (d : UartDevice) :
    Option Unit × UartLoop × UartDevice :=
  loopOver (loopPass count) (List.range passes)
    (uartStart 0 (fun _ => 0) count, d)

/-- A read of the driver, which `dal_read` does not ask for no bytes: the bytes
it stored.  In so many passes it has returned or has taken everything that will
ever arrive.  In the second case it does not return; that is recorded, and what
it has taken so far stands for what it does not deliver. -/
def read (count : UInt32) (d : UartDevice) : List UInt8 × UartDevice :=
  if count = 0 then ([], d)
  else
    let result := d.loop count (d.arrivals.length + count.toNat)
    (result.2.1.memory.load 0 result.2.1.totalBytes,
      match result.1 with
      | some _ => result.2.2
      | none => { result.2.2 with stalled := true })

/-!
## A pass
-/

section Pass

variable {count : UInt32} {taken : List UInt8} {s : UartLoop} {d : UartDevice}

theorem bytes_of_arrivals (d : UartDevice) :
    d.bytes = d.waiting ++ d.arrivals.headD [] ++ d.arrivals.tail.flatten := by
  rw [bytes, List.append_assoc]
  cases d.arrivals <;> rfl

theorem pass_bytes (toRead : Nat) (d : UartDevice) :
    (d.pass toRead).1.bytes ++ (d.pass toRead).2.bytes = d.bytes := by
  rw [bytes_of_arrivals d]
  simp only [pass, bytes]
  by_cases hnone : d.waiting ++ d.arrivals.headD [] = []
  · rw [if_pos hnone, hnone]
    simp [UartOutcome.bytes]
  · rw [if_neg hnone, UartOutcome.bytes, ← List.append_assoc,
      List.take_append_drop]

theorem pass_length_le (toRead : Nat) (d : UartDevice) :
    (d.pass toRead).1.bytes.length ≤ toRead := by
  simp only [pass]
  split
  · exact Nat.zero_le _
  · exact List.length_take_le _ _

/-- A pass never finds an empty read, and none that failed. -/
theorem pass_cases {toRead : Nat} (hpos : 0 < toRead) (d : UartDevice) :
    ((d.pass toRead).1 = .timedOut ∧ d.waiting ++ d.arrivals.headD [] = []) ∨
      exists b bytes, (d.pass toRead).1 = .read (b :: bytes) := by
  simp only [pass]
  by_cases hnone : d.waiting ++ d.arrivals.headD [] = []
  · exact Or.inl ⟨if_pos hnone, hnone⟩
  · right
    rw [if_neg hnone]
    cases hwaiting : d.waiting ++ d.arrivals.headD [] with
    | nil =>
        exact absurd hwaiting hnone
    | cons b rest =>
        exact ⟨b, rest.take (toRead - 1), by
          rw [List.take_cons hpos]⟩

/-- A loop that is still running on the device it has started on. -/
structure Reading (count : UInt32) (start : UartDevice) (passes : Nat)
    (taken : List UInt8) (s : UartLoop) (d : UartDevice) : Prop where
  filled : Filled 0 (fun _ => 0) count taken s
  retryCount : s.retryCount = 0
  bytes : taken ++ d.bytes = start.bytes
  outgoing : d.outgoing = start.outgoing
  stalled : d.stalled = start.stalled
  progress : d.Dry ∨
    passes + d.arrivals.length ≤ start.arrivals.length + taken.length

theorem toRead_pos {s : UartLoop} (h : 0 < s.bytesLeft.toNat) :
    0 < s.toRead.toNat := by
  unfold UartLoop.toRead minUint32
  split
  · exact h
  · decide

theorem Dry.pass (h : d.Dry) (toRead : Nat) : (d.pass toRead).2.Dry := by
  rcases h with ⟨hwaiting, harrivals⟩
  simp [UartDevice.pass, Dry, hwaiting, harrivals]

/-- A pass uses up an arrival or takes a byte, or else the device is dry. -/
theorem pass_progress {toRead : Nat} (hpos : 0 < toRead) (d : UartDevice) :
    (d.pass toRead).2.Dry ∨
      (d.pass toRead).2.arrivals.length + 1 ≤
        d.arrivals.length + (d.pass toRead).1.bytes.length := by
  cases harrivals : d.arrivals with
  | cons arrived later =>
      right
      simp only [pass, harrivals, List.tail_cons, List.length_cons]
      lia
  | nil =>
      rcases pass_cases hpos d with ⟨-, hnone⟩ | ⟨b, bytes, hread⟩
      · left
        simp only [harrivals, List.headD_nil, List.append_nil] at hnone
        exact Dry.pass ⟨hnone, harrivals⟩ toRead
      · right
        rw [hread]
        simp [pass, harrivals, UartOutcome.bytes]

/-- A pass of a loop that still misses bytes goes on, or has them all and ends
the loop. -/
theorem Reading.loopPass {start : UartDevice} {passes : Nat}
    (h : Reading count start passes taken s d)
    (hmissing : s.totalBytes < count.toNat) (i : Nat) :
    exists taken' s' d', Reading count start (passes + 1) taken' s' d' ∧
      ((s'.totalBytes < count.toNat ∧
          UartDevice.loopPass count i (s, d) = (none, s', d')) ∨
        (s'.totalBytes = count.toNat ∧
          UartDevice.loopPass count i (s, d) = (some (), s', d'))) := by
  have hleft := h.filled.bytesLeft
  have hpos : 0 < s.toRead.toNat := toRead_pos (by lia)
  have hbytes := pass_bytes s.toRead.toNat d
  have hfilled := h.filled.uartPass (pass_length_le s.toRead.toNat d)
  have hrest : taken ++ (d.pass s.toRead.toNat).1.bytes ++
      (d.pass s.toRead.toNat).2.bytes = start.bytes := by
    rw [List.append_assoc, hbytes, h.bytes]
  refine ⟨taken ++ (d.pass s.toRead.toNat).1.bytes,
    (uartPass count (d.pass s.toRead.toNat).1 s).2,
    (d.pass s.toRead.toNat).2, ?_, ?_⟩
  · refine ⟨hfilled, ?_, hrest, h.outgoing, h.stalled, ?_⟩
    · rcases pass_cases hpos d with ⟨hnone, -⟩ | ⟨b, bytes, hread⟩
      · rw [hnone, uartPass, uartTest_snd]
        exact h.retryCount
      · rw [hread, uartPass, uartTest_snd]
        simp
    · rw [List.length_append]
      rcases h.progress with hdry | hprogress
      · exact Or.inl (hdry.pass _)
      · rcases pass_progress hpos d with hdry | hstep
        · exact Or.inl hdry
        · right
          lia
  · have htest : uartPass count (d.pass s.toRead.toNat).1 s =
        uartTest count (uartPass count (d.pass s.toRead.toNat).1 s).2 := by
      rcases pass_cases hpos d with ⟨hnone, -⟩ | ⟨b, bytes, hread⟩
      · rw [hnone, uartPass, uartTest_snd]
      · rw [hread, uartPass, uartTest_snd]
        simp
    have hle := hfilled.totalBytes_le
    unfold UartDevice.loopPass
    simp only
    rcases uartTest_cases count
      (uartPass count (d.pass s.toRead.toNat).1 s).2
      with ⟨hlt, hgoes⟩ | ⟨hge, hends⟩
    · left
      refine ⟨hlt, ?_⟩
      rw [htest, hgoes]
    · right
      refine ⟨by lia, ?_⟩
      rw [htest, hends]

/-- What has been taken is in the buffer. -/
theorem Reading.stored {start : UartDevice} {passes : Nat}
    (h : Reading count start passes taken s d) :
    s.memory.load 0 s.totalBytes = taken := by
  rw [h.filled.contents, h.filled.totalBytes, Memory.load_store_same]

/-- After that many passes, a loop that still misses bytes has taken all that
there are. -/
theorem Reading.took_all {start : UartDevice}
    (h : Reading count start (start.arrivals.length + count.toNat) taken s d)
    (hmissing : s.totalBytes < count.toNat) :
    d.bytes = [] ∧ taken = start.bytes ∧ start.bytes.length < count.toNat := by
  have hlength := h.filled.totalBytes
  have hdry : d.Dry := by
    rcases h.progress with hdry | hprogress
    · exact hdry
    · lia
  have hnone : d.bytes = [] := by
    rw [UartDevice.bytes, hdry.1, hdry.2]
    rfl
  have hall := h.bytes
  rw [hnone, List.append_nil] at hall
  refine ⟨hnone, hall, ?_⟩
  rw [← hall]
  lia

theorem reading_start (start : UartDevice) :
    Reading count start 0 [] (uartStart 0 (fun _ => 0) count) start := by
  refine ⟨filled_start, rfl, rfl, rfl, rfl, Or.inr ?_⟩
  simp

end Pass

/-!
## A read
-/

section Read

variable {count : UInt32}

theorem loop_succ_of_none {d : UartDevice} {passes : Nat}
    {state : UartLoop × UartDevice} (h : d.loop count passes = (none, state)) :
    d.loop count (passes + 1) = loopPass count passes state := by
  rw [loop, List.range_succ, loopOver_append_of_none _ h]
  cases hpass : loopPass count passes state with
  | mk stop state' =>
      cases stop with
      | none =>
          rw [loopOver_cons_of_none _ hpass, loopOver_nil]
      | some u =>
          rw [loopOver_cons_of_some _ hpass]

theorem loop_succ_of_some {d : UartDevice} {passes : Nat}
    {state : UartLoop × UartDevice} (h : d.loop count passes = (some (), state)) :
    d.loop count (passes + 1) = (some (), state) := by
  rw [loop, List.range_succ]
  exact loopOver_append_of_some _ h

/-- The loop after a number of passes: it misses bytes and is still running, or
it has ended with all of them. -/
theorem loop_reading (hcount : 0 < count.toNat) (start : UartDevice)
    (passes : Nat) :
    exists taken s d,
      (start.loop count passes = (none, s, d) ∧ s.totalBytes < count.toNat ∧
        Reading count start passes taken s d) ∨
      (start.loop count passes = (some (), s, d) ∧
        s.totalBytes = count.toNat ∧
        exists earlier, Reading count start earlier taken s d) := by
  induction passes with
  | zero =>
      exact ⟨[], _, _, Or.inl ⟨rfl, hcount, reading_start start⟩⟩
  | succ passes ih =>
      rcases ih with ⟨taken, s, d, ⟨hloop, hmissing, hreading⟩ |
        ⟨hloop, htotal, hreading⟩⟩
      · rcases hreading.loopPass hmissing passes with
          ⟨taken', s', d', hreading', ⟨hmissing', hpass⟩ | ⟨htotal', hpass⟩⟩
        · exact ⟨taken', s', d', Or.inl
            ⟨(loop_succ_of_none hloop).trans hpass, hmissing', hreading'⟩⟩
        · exact ⟨taken', s', d', Or.inr
            ⟨(loop_succ_of_none hloop).trans hpass, htotal', _, hreading'⟩⟩
      · exact ⟨taken, s, d, Or.inr
          ⟨loop_succ_of_some hloop, htotal, hreading⟩⟩

/-- A read delivers the bytes of the stream, and it returns exactly if there are
enough of them. -/
theorem read_stream (count : UInt32) (d : UartDevice) :
    (d.read count).1 = d.bytes.take count.toNat ∧
      (d.read count).2.bytes = d.bytes.drop count.toNat ∧
      (d.read count).2.outgoing = d.outgoing ∧
      ((d.read count).2.stalled = true <->
        d.stalled = true ∨ d.bytes.length < count.toNat) := by
  by_cases hzero : count = 0
  · subst hzero
    simp [read]
  · have hcount : 0 < count.toNat := by
      have hne : count.toNat ≠ 0 := by
        simpa [← UInt32.toNat_inj] using hzero
      lia
    rcases loop_reading hcount d (d.arrivals.length + count.toNat) with
      ⟨taken, s, d', ⟨hloop, hmissing, hreading⟩ |
        ⟨hloop, htotal, earlier, hreading⟩⟩
    · rcases hreading.took_all hmissing with ⟨hnone, rfl, hshort⟩
      have hread : d.read count = (d.bytes, { d' with stalled := true }) := by
        simp only [read, if_neg hzero, hloop, hreading.stored]
      rw [hread, List.take_of_length_le (le_of_lt hshort),
        List.drop_eq_nil_of_le (le_of_lt hshort)]
      exact ⟨rfl, hnone, hreading.outgoing, iff_of_true rfl (Or.inr hshort)⟩
    · have hlength := hreading.filled.totalBytes
      have hread : d.read count = (taken, d') := by
        simp only [read, if_neg hzero, hloop, hreading.stored]
      have hfull : taken.length = count.toNat := by
        lia
      have henough : ¬ d.bytes.length < count.toNat := by
        rw [← hreading.bytes, List.length_append]
        lia
      rw [hread, ← hreading.stalled]
      refine ⟨?_, ?_, hreading.outgoing, by simp [henough]⟩
      · rw [← hreading.bytes, List.take_left' hfull]
      · rw [← hreading.bytes, List.drop_left' hfull]

/-- What `select` and `read` come to on the device in each pass of the loop. -/
def outcomes (count : UInt32) (d : UartDevice) (pass : Nat) : UartOutcome :=
  ((d.loop count pass).2.2.pass (d.loop count pass).2.1.toRead.toNat).1

/-- On these outcomes, `dal_uart_read` goes through the loop of the device. -/
theorem uartAfter_outcomes (count : UInt32) (d : UartDevice) (passes : Nat) :
    uartAfter 0 (fun _ => 0) count (d.outcomes count) passes =
      ((d.loop count passes).1, (d.loop count passes).2.1) := by
  induction passes with
  | zero =>
      rfl
  | succ passes ih =>
      cases hloop : d.loop count passes with
      | mk stop state =>
          rw [hloop] at ih
          cases stop with
          | none =>
              rw [uartAfter_succ ih, loop_succ_of_none hloop, outcomes, hloop]
              rfl
          | some u =>
              rw [loop_succ_of_some hloop, uartAfter, firstOutcomes_succ]
              exact loopOver_append_of_some _ ih

/-- `dal_uart_read` returns on the device exactly if enough bytes arrive, and it
then leaves in the buffer what the device has delivered. -/
theorem dalUartRead_outcomes_iff (hcount : 0 < count.toNat) (d : UartDevice)
    (timeoutUsec : UInt32) :
    (exists passes, dalUartRead 0 (fun _ => 0) count
        (fun _ => d.outcomes count) timeoutUsec passes ≠ none) <->
      count.toNat ≤ d.bytes.length := by
  simp only [dalUartRead, uartAfter_outcomes]
  constructor
  · rintro ⟨passes, hreturns⟩
    rcases loop_reading hcount d passes with
      ⟨taken, s, d', ⟨hloop, -, -⟩ | ⟨-, htotal, earlier, hreading⟩⟩
    · rw [hloop] at hreturns
      exact absurd rfl hreturns
    · rw [← hreading.bytes, List.length_append, ← hreading.filled.totalBytes]
      lia
  · intro henough
    refine ⟨d.arrivals.length + count.toNat, ?_⟩
    rcases loop_reading hcount d (d.arrivals.length + count.toNat) with
      ⟨taken, s, d', ⟨-, hmissing, hreading⟩ | ⟨hloop, -, -⟩⟩
    · have hshort := (hreading.took_all hmissing).2.2
      lia
    · rw [hloop]
      simp

end Read

end UartDevice

end Dal
end GardHub
