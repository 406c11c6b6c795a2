import GardHub.Foundation.SocketCalls
import GardHub.KtApp.EventStream

/-!
# Whole messages over a socket

Every message of the two sockets goes through a loop that calls `recv` or `send`
until all of it has been transferred.  There are four of them, three in C and
one in Python.
-/

namespace GardHub
namespace KtApp

open Foundation

/-! ## The loops that receive -/

/-- What `recv_all` has of a message, with the bytes that its calls have got. -/
structure RecvState where
  off : Nat
  heap : Memory
  received : List UInt8

/-- A call of `recv` writes to `buf + off`. -/
def recvAllSink (buf : Int) : ByteSink RecvState where
  size := fun s => s.off
  push := fun s bytes =>
    { off := s.off + bytes.length
      heap := s.heap.store (buf + s.off) bytes
      received := s.received ++ bytes }
  size_push := fun _ _ => rfl
  push_nil := by
    intro s
    simp [Memory.store_nil]
  push_push := by
    intro s front back
    simp [← Memory.store_store_append, Nat.add_assoc, Int.add_assoc]

/-- The value of `recv_all`; there is none while it waits. -/
def recvAllRet : RecvEnd -> Option Int
  | .complete => some 0
  | .closed => some (-1)
  | .failed => some (-1)
  | .pending => none

structure RecvAllRun where
  ret : Option Int
  state : RecvState
  left : List Arrival

/-- `recv_all` -/
def recvAll (heap : Memory) (buf : Int) (len : Nat) (arrivals : List Arrival) :
    RecvAllRun :=
  let run := recvLoop (recvAllSink buf) len (arrivals.length + 1) ⟨0, heap, []⟩
    arrivals
  ⟨recvAllRet run.1, run.2.1, run.2.2⟩

def recvExactSink : ByteSink (List UInt8) where
  size := fun buf => buf.length
  push := fun buf chunk => buf ++ chunk
  size_push := fun _ _ => List.length_append
  push_nil := List.append_nil
  push_push := List.append_assoc

/-- What comes of a call of `recv_exact`. -/
inductive RecvExactResult where
  | returned (bytes : List UInt8)
  | returnedNone
  | raised
deriving DecidableEq

def recvExactResult (buf : List UInt8) : RecvEnd -> Option RecvExactResult
  | .complete => some (.returned buf)
  | .closed => some .returnedNone
  | .failed => some .raised
  | .pending => none

structure RecvExactRun where
  result : Option RecvExactResult
  left : List Arrival

/-- `recv_exact` on a socket whose calls may be interrupted, in which case
`sock.recv` makes the call again, or fail. -/
def recvExactOn (n : Nat) (arrivals : List Arrival) : RecvExactRun :=
  let run := recvLoop recvExactSink n (arrivals.length + 1) [] arrivals
  ⟨recvExactResult run.2.1 run.1, run.2.2⟩

/-! ## The loops that send -/

/-- `send_all`, whose loop is that of `kt_app_ipc_send_data_on_fd` -/
def sendAll (data : List UInt8) (outcomes : List SendOutcome) :
    Option Int × List UInt8 :=
  sendFrom data 0 outcomes

/-! ## What they are to do -/

/-- A call of `recv_all` has received a message exactly if it returns 0; what it
has received lies in the buffer, in the order of the stream. -/
structure ReceivesExactly (heap : Memory) (buf : Int) (len : Nat)
    (arrivals : List Arrival) (run : RecvAllRun) : Prop where
  zero_iff : run.ret = some 0 <-> run.state.received.length = len
  whole : run.ret = some 0 -> run.state.heap.load buf len = run.state.received
  stored : run.state.heap = heap.store buf run.state.received
  inOrder : run.state.received <+: (arriving arrivals).1
  failing : run.ret = some (-1) ->
    run.state.received = (arriving arrivals).1 ∧ run.state.received.length < len
  returns : run.ret ≠ none -> run.ret = some 0 ∨ run.ret = some (-1)

/-- The bytes that the calls of `send` take, interrupted or not, and whether one
of them fails behind these. -/
def accepting : List SendOutcome -> Nat × Bool
  | [] => (0, false)
  | .interrupted :: rest => accepting rest
  | .failed :: _ => (0, true)
  | .sent count :: rest => (count + (accepting rest).1, (accepting rest).2)

/-- A call hands over what the calls of `send` take, up to the end of the data.
It returns 0 exactly if they take all bytes, once and in order, and -1 exactly if
one of them fails before; what it has handed over then is a part in front. -/
structure SendsExactly (data : List UInt8) (outcomes : List SendOutcome)
    (run : Option Int × List UInt8) : Prop where
  zero_iff : run.1 = some 0 <-> run.2 = data
  inOrder : run.2 <+: data
  returns : run.1 ≠ none -> run.1 = some 0 ∨ run.1 = some (-1)
  handed : run.2 = data.take (accepting outcomes).1
  zero_iff_accepted : run.1 = some 0 <-> data.length ≤ (accepting outcomes).1
  failing_iff : run.1 = some (-1) <->
    (accepting outcomes).1 < data.length ∧ (accepting outcomes).2 = true

/-- `recv_exact` returns the bytes that `recv_all` has in its buffer, and both
leave the same stream; where one has no message, neither has the other. -/
structure AgreesWithRecvExact (run : RecvAllRun) (exact : RecvExactRun) :
    Prop where
  whole : forall bytes, exact.result = some (.returned bytes) <->
    run.ret = some 0 ∧ run.state.received = bytes
  short : exact.result = some .returnedNone ∨ exact.result = some .raised <->
    run.ret = some (-1)
  left : run.ret = some 0 -> arriving exact.left = arriving run.left

/-! ## Receiving -/

section Receive

variable {heap : Memory} {buf : Int} {len : Nat} {arrivals : List Arrival}

theorem recvAll_gathers (heap : Memory) (buf : Int) (len : Nat)
    (arrivals : List Arrival) :
    Gathered (recvAllSink buf) len ⟨0, heap, []⟩ (arriving arrivals)
      (recvLoop (recvAllSink buf) len (arrivals.length + 1) ⟨0, heap, []⟩ arrivals) :=
  recvLoop_gathers (Nat.lt_succ_self _)

theorem recvAll_received (heap : Memory) (buf : Int) (len : Nat)
    (arrivals : List Arrival) :
    (recvAll heap buf len arrivals).state.received =
      (arriving arrivals).1.take len := by
  have hcontents := (recvAll_gathers heap buf len arrivals).contents
  exact congrArg RecvState.received hcontents

theorem recvAll_heap (heap : Memory) (buf : Int) (len : Nat)
    (arrivals : List Arrival) :
    (recvAll heap buf len arrivals).state.heap =
      heap.store buf (recvAll heap buf len arrivals).state.received := by
  have hcontents := (recvAll_gathers heap buf len arrivals).contents
  rw [recvAll_received]
  calc (recvAll heap buf len arrivals).state.heap
      = heap.store (buf + (0 : Nat)) ((arriving arrivals).1.take len) :=
        congrArg RecvState.heap hcontents
    _ = heap.store buf ((arriving arrivals).1.take len) := by
        rw [Nat.cast_zero, Int.add_zero]

theorem recvAll_ret (heap : Memory) (buf : Int) (len : Nat)
    (arrivals : List Arrival) :
    (recvAll heap buf len arrivals).ret =
      recvAllRet (recvVerdict len (arriving arrivals)) :=
  congrArg recvAllRet (recvAll_gathers heap buf len arrivals).ending

theorem recvAllRet_eq_zero {ending : RecvEnd} :
    recvAllRet ending = some 0 <-> ending = .complete := by
  cases ending <;> decide

theorem recvAllRet_eq_failure {ending : RecvEnd} :
    recvAllRet ending = some (-1) <-> ending = .closed ∨ ending = .failed := by
  cases ending <;> decide

theorem recvAll_zero_iff (heap : Memory) (buf : Int) (len : Nat)
    (arrivals : List Arrival) :
    (recvAll heap buf len arrivals).ret = some 0 <->
      len ≤ (arriving arrivals).1.length := by
  rw [recvAll_ret, recvAllRet_eq_zero, recvVerdict_complete_iff]

theorem recvAll_receives (heap : Memory) (buf : Int) (len : Nat)
    (arrivals : List Arrival) :
    ReceivesExactly heap buf len arrivals (recvAll heap buf len arrivals) where
  zero_iff := by
    rw [recvAll_zero_iff, recvAll_received, List.length_take]
    lia
  whole := by
    intro hzero
    have hlength : (recvAll heap buf len arrivals).state.received.length = len := by
      rw [recvAll_zero_iff] at hzero
      rw [recvAll_received, List.length_take_of_le hzero]
    have hload := Memory.load_store_same heap buf
      (recvAll heap buf len arrivals).state.received
    rw [recvAll_heap]
    rwa [hlength] at hload
  stored := recvAll_heap heap buf len arrivals
  inOrder := by
    rw [recvAll_received]
    exact List.take_prefix _ _
  failing := by
    intro hfailure
    have hshort : ¬ len ≤ (arriving arrivals).1.length := by
      intro hle
      rw [(recvAll_zero_iff heap buf len arrivals).mpr hle] at hfailure
      cases hfailure
    rw [recvAll_received, List.take_of_length_le (by lia)]
    exact ⟨rfl, by lia⟩
  returns := by
    rw [recvAll_ret]
    cases recvVerdict len (arriving arrivals) <;> decide

end Receive

/-! ## Python against C -/

section Exact

variable {n : Nat} {arrivals others : List Arrival}

theorem recvExactOn_gathers (n : Nat) (arrivals : List Arrival) :
    Gathered recvExactSink n [] (arriving arrivals)
      (recvLoop recvExactSink n (arrivals.length + 1) [] arrivals) :=
  recvLoop_gathers (Nat.lt_succ_self _)

theorem recvExactOn_result (n : Nat) (arrivals : List Arrival) :
    (recvExactOn n arrivals).result =
      recvExactResult ((arriving arrivals).1.take n)
        (recvVerdict n (arriving arrivals)) := by
  have hgathers := recvExactOn_gathers n arrivals
  have hbuf : (recvLoop recvExactSink n (arrivals.length + 1) [] arrivals).2.1 =
      (arriving arrivals).1.take n :=
    hgathers.contents
  have hend : (recvLoop recvExactSink n (arrivals.length + 1) [] arrivals).1 =
      recvVerdict n (arriving arrivals) :=
    hgathers.ending
  rw [recvExactOn, hbuf, hend]

theorem recvExactResult_eq_returned {buf bytes : List UInt8} {ending : RecvEnd} :
    recvExactResult buf ending = some (.returned bytes) <->
      ending = .complete ∧ buf = bytes := by
  cases ending <;> simp [recvExactResult]

theorem recvExactResult_eq_failure {buf : List UInt8} {ending : RecvEnd} :
    recvExactResult buf ending = some .returnedNone ∨
        recvExactResult buf ending = some .raised <->
      ending = .closed ∨ ending = .failed := by
  cases ending <;> simp [recvExactResult]

/-- The two loops see the same stream, and not how it is split up. -/
theorem recvAll_agrees (heap : Memory) (buf : Int) (len : Nat)
    (hstream : arriving others = arriving arrivals) :
    AgreesWithRecvExact (recvAll heap buf len arrivals) (recvExactOn len others) where
  whole := by
    intro bytes
    rw [recvExactOn_result, recvExactResult_eq_returned, recvAll_ret, recvAllRet_eq_zero,
      recvAll_received, hstream]
  short := by
    rw [recvExactOn_result, recvExactResult_eq_failure, recvAll_ret, recvAllRet_eq_failure,
      hstream]
  left := by
    intro hzero
    rw [recvAll_ret, recvAllRet_eq_zero] at hzero
    have hall := recvAll_gathers heap buf len arrivals
    have hexact := recvExactOn_gathers len others
    have hall' := hall.left (hall.ending.trans hzero)
    rw [hstream] at hexact
    have hexact' := hexact.left (hexact.ending.trans hzero)
    exact hexact'.trans hall'.symm

/-- What a socket whose calls are neither interrupted nor fail has for them. -/
def chunkArrivals (sock : ChunkedStream) : List Arrival :=
  sock.chunks.map Arrival.bytes ++ [.bytes []]

theorem arriving_chunkArrivals (sock : ChunkedStream) :
    arriving (chunkArrivals sock) = (sock.bytes, .closed) := by
  rw [chunkArrivals, arriving_chunks _ sock.nonempty]
  exact Prod.ext (List.append_nil _) rfl

/-- On such a socket the call is the one that the listener makes. -/
theorem recvExactOn_chunks (n : Nat) (sock : ChunkedStream) :
    (recvExactOn n (chunkArrivals sock)).result =
      some (match recvExact n sock with
        | none => .returnedNone
        | some (bytes, _) => .returned bytes) := by
  have hexact := recvExact_bytes n sock
  rw [takeBytes] at hexact
  rw [recvExactOn_result, arriving_chunkArrivals, recvVerdict]
  split at hexact
  next hle =>
    rcases Option.map_eq_some_iff.mp hexact with ⟨taken, htaken, hbytes⟩
    have htake : taken.1 = sock.bytes.take n := congrArg Prod.fst hbytes
    rw [if_pos hle, htaken]
    change some (RecvExactResult.returned (sock.bytes.take n)) =
      some (RecvExactResult.returned taken.1)
    rw [htake]
  next hgt =>
    rw [if_neg hgt, Option.map_eq_none_iff.mp hexact]
    rfl

end Exact

/-! ## Sending -/

section Send

variable {data handed : List UInt8} {outcomes : List SendOutcome}
  {ret : Option Int}

theorem sendsExactly_nil (outcomes : List SendOutcome) :
    SendsExactly [] outcomes (some 0, []) where
  zero_iff := iff_of_true rfl rfl
  inOrder := List.prefix_refl []
  returns := fun _ => Or.inl rfl
  handed := List.take_nil.symm
  zero_iff_accepted := iff_of_true rfl (Nat.zero_le _)
  failing_iff := by simp

/-- A loop that stops in front of bytes has not returned 0. -/
theorem sendsExactly_stop (hdata : data ≠ [])
    (haccepted : (accepting outcomes).1 = 0)
    (hret : ret = if (accepting outcomes).2 then some (-1) else none) :
    SendsExactly data outcomes (ret, []) where
  zero_iff := by
    apply iff_of_false
    · rw [hret]
      split <;> simp
    · exact Ne.symm hdata
  inOrder := List.nil_prefix
  returns := by
    rw [hret]
    split <;> simp
  handed := by rw [haccepted, List.take_zero]
  zero_iff_accepted := by
    apply iff_of_false
    · rw [hret]
      split <;> simp
    · rw [haccepted, Nat.le_zero, List.length_eq_zero_iff]
      exact hdata
  failing_iff := by
    have hpositive := List.length_pos_iff.mpr hdata
    rw [hret, haccepted]
    split <;> simp_all

/-- A call takes some bytes, and the loop goes on with the others. -/
theorem SendsExactly.sent (count : Nat)
    (h : SendsExactly (data.drop count) outcomes (ret, handed)) :
    SendsExactly data (.sent count :: outcomes)
      (ret, data.take count ++ handed) where
  zero_iff := by
    have hsplit : data.take count ++ handed = data <->
        handed = data.drop count := by
      conv_lhs => rhs; rw [← List.take_append_drop count data]
      exact List.append_right_inj _
    exact h.zero_iff.trans hsplit.symm
  inOrder := by
    have hprefix := (List.prefix_append_right_inj (data.take count)).mpr
      h.inOrder
    rwa [List.take_append_drop] at hprefix
  returns := h.returns
  handed := by
    have hlater : handed = (data.drop count).take (accepting outcomes).1 :=
      h.handed
    rw [accepting, List.take_add, ← hlater]
  zero_iff_accepted := by
    refine h.zero_iff_accepted.trans ?_
    rw [List.length_drop, accepting]
    lia
  failing_iff := by
    refine h.failing_iff.trans ?_
    rw [List.length_drop, accepting]
    exact and_congr_left' (by lia)

theorem drop_ne_nil {off : Nat} (h : off < data.length) :
    data.drop off ≠ [] := by
  rw [Ne, List.drop_eq_nil_iff]
  exact Nat.not_le.mpr h

theorem sendFrom_sends (data : List UInt8) (off : Nat)
    (outcomes : List SendOutcome) :
    SendsExactly (data.drop off) outcomes (sendFrom data off outcomes) := by
  induction outcomes generalizing off with
  | nil =>
      rw [sendFrom]
      split
      next hlt =>
        exact sendsExactly_stop (drop_ne_nil hlt) rfl rfl
      next hge =>
        rw [List.drop_eq_nil_of_le (Nat.le_of_not_lt hge)]
        exact sendsExactly_nil _
  | cons outcome rest ih =>
      simp only [sendFrom]
      split
      next hlt =>
        cases outcome with
        | interrupted =>
            have hrest := ih off
            exact ⟨hrest.zero_iff, hrest.inOrder, hrest.returns, hrest.handed,
              hrest.zero_iff_accepted, hrest.failing_iff⟩
        | failed =>
            exact sendsExactly_stop (drop_ne_nil hlt) rfl rfl
        | sent count =>
            have hrest := ih (off + count)
            rw [← List.drop_drop] at hrest
            exact hrest.sent count
      next hge =>
        rw [List.drop_eq_nil_of_le (Nat.le_of_not_lt hge)]
        exact sendsExactly_nil _

theorem sendAll_sends (data : List UInt8) (outcomes : List SendOutcome) :
    SendsExactly data outcomes (sendAll data outcomes) :=
  sendFrom_sends data 0 outcomes

theorem ktAppIpcSendDataOnFd_sends {sockfd : Int} (outcomes : List SendOutcome)
    (hfd : 0 ≤ sockfd) (hdata : 1 ≤ data.length) :
    SendsExactly data outcomes (ktAppIpcSendDataOnFd sockfd data outcomes) := by
  have hvalid : ¬ (sockfd < 0 ∨ data.length = 0) := by lia
  rw [ktAppIpcSendDataOnFd, if_neg hvalid]
  exact sendFrom_sends data 0 outcomes

end Send

/-! ## All loops -/

/-- On every splitting of the stream and every sequence of short transfers,
interruptions and errors, the loops transfer a message or report that they have
not. -/
theorem socketLoops_exact (heap : Memory) (buf : Int) (len : Nat)
    (arrivals others : List Arrival) (sockfd : Int) (data : List UInt8)
    (outcomes : List SendOutcome) (hfd : 0 ≤ sockfd) (hdata : 1 ≤ data.length)
    (hstream : arriving others = arriving arrivals) :
    ReceivesExactly heap buf len arrivals (recvAll heap buf len arrivals) ∧
      SendsExactly data outcomes (sendAll data outcomes) ∧
      SendsExactly data outcomes (ktAppIpcSendDataOnFd sockfd data outcomes) ∧
      AgreesWithRecvExact (recvAll heap buf len arrivals) (recvExactOn len others) :=
  ⟨recvAll_receives heap buf len arrivals, sendAll_sends data outcomes,
    ktAppIpcSendDataOnFd_sends outcomes hfd hdata, recvAll_agrees heap buf len hstream⟩

/-- Four bytes in pieces on one socket, and in one piece with a fifth on
another.  A second send fails behind the first byte, an interrupted one does
not. -/
theorem socketLoops_exact_pieces :
    ((recvAll (fun _ => 0) 100 4
          [.bytes [1], .interrupted, .bytes [2, 3], .bytes [4, 5]]).ret = some 0 ∧
        (recvAll (fun _ => 0) 100 4
          [.bytes [1], .interrupted, .bytes [2, 3], .bytes [4, 5]]).state.received =
          [1, 2, 3, 4]) ∧
      (sendAll [1, 2, 3, 4] [.sent 1, .interrupted, .sent 3]).2 = [1, 2, 3, 4] ∧
      (ktAppIpcSendDataOnFd 5 [1, 2, 3, 4] [.sent 1, .interrupted, .sent 3]).1 =
        some 0 ∧
      ktAppIpcSendDataOnFd 5 [1, 2, 3, 4] [.sent 1, .failed, .sent 3] =
        (some (-1), [1]) := by
  have h := socketLoops_exact (fun _ => 0) 100 4
    [.bytes [1], .interrupted, .bytes [2, 3], .bytes [4, 5]] [.bytes [1, 2, 3, 4, 5]]
    5 [1, 2, 3, 4] [.sent 1, .interrupted, .sent 3] (by decide) (by decide) rfl
  have h' := socketLoops_exact (fun _ => 0) 100 4 [] [] 5 [1, 2, 3, 4]
    [.sent 1, .failed, .sent 3] (by decide) (by decide) rfl
  exact ⟨(h.2.2.2.whole [1, 2, 3, 4]).mp (by decide),
    h.2.1.zero_iff.mp (by decide), h.2.2.1.zero_iff_accepted.mpr (by decide),
    Prod.ext (h'.2.2.1.failing_iff.mpr (by decide)) h'.2.2.1.handed⟩

end KtApp
end GardHub
