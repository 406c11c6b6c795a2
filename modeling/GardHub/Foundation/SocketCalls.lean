import GardHub.Foundation.Memory

/-!
# Calls on a socket

## What a call meets

A call for bytes gets some of those that have come, at most as many as it asks
for, and leaves the others to the next call.  No bytes mean that the other side
has closed the connection.  A call may also be interrupted, or fail.

However the bytes are split up, and wherever calls are interrupted, there is
one stream of bytes and one way in which it ends.
-/

namespace GardHub
namespace Foundation

/-- What is there when a call for bytes is made. -/
inductive Arrival where
  | bytes (chunk : List UInt8)
  | interrupted
  | failed

/-- A call for at most `count` bytes: what it gets, and what stays.  It does not
return while nothing is there. -/
def recvCall (count : Nat) : List Arrival -> Option (Arrival × List Arrival)
  | [] => none
  | .bytes chunk :: rest =>
      if chunk.length ≤ count then some (.bytes chunk, rest)
      else some (.bytes (chunk.take count), .bytes (chunk.drop count) :: rest)
  | outcome :: rest => some (outcome, rest)

/-- How a loop of calls for bytes ends. -/
inductive RecvEnd where
  | complete
  | closed
  | failed
  | pending
deriving DecidableEq

/-- The bytes of the stream, and how it ends. -/
def arriving : List Arrival -> List UInt8 × RecvEnd
  | [] => ([], .pending)
  | .bytes [] :: _ => ([], .closed)
  | .bytes chunk :: rest => (chunk ++ (arriving rest).1, (arriving rest).2)
  | .interrupted :: rest => arriving rest
  | .failed :: _ => ([], .failed)

theorem arriving_bytes (chunk : List UInt8) (rest : List Arrival)
    (h : chunk ≠ []) :
    arriving (.bytes chunk :: rest) =
      (chunk ++ (arriving rest).1, (arriving rest).2) := by
  cases chunk with
  | nil =>
      exact absurd rfl h
  | cons byte bytes =>
      rfl

theorem arriving_chunks {chunks : List (List UInt8)} (rest : List Arrival)
    (h : forall chunk, chunk ∈ chunks -> chunk ≠ []) :
    arriving (chunks.map Arrival.bytes ++ rest) =
      (chunks.flatten ++ (arriving rest).1, (arriving rest).2) := by
  induction chunks with
  | nil =>
      rfl
  | cons chunk later ih =>
      have hchunk : chunk ≠ [] := h chunk List.mem_cons_self
      have hlater := ih fun other hother => h other (List.mem_cons_of_mem _ hother)
      rw [List.map_cons, List.cons_append, arriving_bytes _ _ hchunk, hlater,
        List.flatten_cons, List.append_assoc]

section Call

variable {count : Nat} {arrivals rest : List Arrival}

theorem recvCall_none (h : recvCall count arrivals = none) :
    arriving arrivals = ([], .pending) := by
  cases arrivals with
  | nil =>
      rfl
  | cons outcome later =>
      cases outcome with
      | bytes chunk =>
          rw [recvCall] at h
          split at h <;> cases h
      | interrupted =>
          cases h
      | failed =>
          cases h

theorem recvCall_pos {called : Arrival × List Arrival}
    (h : recvCall count arrivals = some called) : 0 < arrivals.length := by
  cases arrivals with
  | nil =>
      cases h
  | cons outcome later =>
      exact Nat.succ_pos _

theorem recvCall_failed (h : recvCall count arrivals = some (.failed, rest)) :
    arriving arrivals = ([], .failed) := by
  cases arrivals with
  | nil =>
      cases h
  | cons outcome later =>
      cases outcome with
      | bytes chunk =>
          rw [recvCall] at h
          split at h <;> cases h
      | interrupted =>
          cases h
      | failed =>
          rfl

theorem recvCall_interrupted
    (h : recvCall count arrivals = some (.interrupted, rest)) :
    arriving arrivals = arriving rest ∧ rest.length < arrivals.length := by
  cases arrivals with
  | nil =>
      cases h
  | cons outcome later =>
      cases outcome with
      | bytes chunk =>
          rw [recvCall] at h
          split at h <;> cases h
      | interrupted =>
          cases h
          exact ⟨rfl, Nat.lt_succ_self _⟩
      | failed =>
          cases h

/-- A call for some bytes gets none only at the end of the stream. -/
theorem recvCall_closed (hcount : 0 < count)
    (h : recvCall count arrivals = some (.bytes [], rest)) :
    arriving arrivals = ([], .closed) := by
  cases arrivals with
  | nil =>
      cases h
  | cons outcome later =>
      cases outcome with
      | bytes chunk =>
          rw [recvCall] at h
          split at h
          · cases h
            rfl
          · have hlength : (chunk.take count).length = 0 := by
              have hbytes := congrArg Prod.fst (Option.some.inj h)
              injection hbytes with hbytes
              rw [hbytes]
              rfl
            rw [List.length_take] at hlength
            lia
      | interrupted =>
          cases h
      | failed =>
          cases h

/-- What a call gets is the front of the stream.  Either it is all that the call
has asked for, or there is less to come. -/
theorem recvCall_bytes {chunk : List UInt8} (hchunk : chunk ≠ [])
    (h : recvCall count arrivals = some (.bytes chunk, rest)) :
    arriving arrivals = (chunk ++ (arriving rest).1, (arriving rest).2) ∧
      chunk.length ≤ count ∧
      (chunk.length = count ∨ rest.length < arrivals.length) := by
  cases arrivals with
  | nil =>
      cases h
  | cons outcome later =>
      cases outcome with
      | bytes all =>
          rw [recvCall] at h
          split at h
          next hle =>
            cases h
            exact ⟨arriving_bytes _ _ hchunk, hle, Or.inr (Nat.lt_succ_self _)⟩
          next hgt =>
            cases h
            have htake : (all.take count).length = count := by
              rw [List.length_take]
              lia
            have hdrop : all.drop count ≠ [] := by
              rw [Ne, List.drop_eq_nil_iff]
              exact hgt
            have hall : all ≠ [] := by
              rintro rfl
              exact hgt (Nat.zero_le _)
            refine ⟨?_, htake.le, Or.inl htake⟩
            rw [arriving_bytes _ _ hall, arriving_bytes _ _ hdrop, ← List.append_assoc,
              List.take_append_drop]
      | interrupted =>
          cases h
      | failed =>
          cases h

end Call

/-! ## Where the bytes go -/

/-- Something that bytes are added to at the end. -/
structure ByteSink (sink : Type) where
  size : sink -> Nat
  push : sink -> List UInt8 -> sink
  size_push : forall s bytes, size (push s bytes) = size s + bytes.length
  push_nil : forall s, push s [] = s
  push_push : forall s front back,
    push (push s front) back = push s (front ++ back)

variable {sink : Type}

/-- Call for what is missing until `count` bytes are there, at most a number of
times. -/
def recvLoop (into : ByteSink sink) (count : Nat) :
    Nat -> sink -> List Arrival -> RecvEnd × sink × List Arrival
  | 0, s, arrivals => (.pending, s, arrivals)
  | calls + 1, s, arrivals =>
      if into.size s < count then
        match recvCall (count - into.size s) arrivals with
        | none => (.pending, s, arrivals)
        | some (.bytes [], rest) => (.closed, s, rest)
        | some (.bytes chunk, rest) =>
            recvLoop into count calls (into.push s chunk) rest
        | some (.interrupted, rest) => recvLoop into count calls s rest
        | some (.failed, rest) => (.failed, s, rest)
      else (.complete, s, arrivals)

/-- How a loop for `missing` bytes has to end. -/
def recvVerdict (missing : Nat) (stream : List UInt8 × RecvEnd) : RecvEnd :=
  if missing ≤ stream.1.length then .complete else stream.2

theorem arriving_end_ne_complete (arrivals : List Arrival) :
    (arriving arrivals).2 ≠ .complete := by
  induction arrivals with
  | nil =>
      decide
  | cons outcome rest ih =>
      cases outcome with
      | bytes chunk =>
          cases chunk with
          | nil =>
              exact fun h => RecvEnd.noConfusion h
          | cons byte bytes =>
              exact ih
      | interrupted =>
          exact ih
      | failed =>
          exact fun h => RecvEnd.noConfusion h

/-- A loop is complete exactly if there are as many bytes as it needs. -/
theorem recvVerdict_complete_iff {missing : Nat} {arrivals : List Arrival} :
    recvVerdict missing (arriving arrivals) = .complete <->
      missing ≤ (arriving arrivals).1.length := by
  rw [recvVerdict]
  split
  next hle =>
    exact iff_of_true rfl hle
  next hgt =>
    exact iff_of_false (arriving_end_ne_complete arrivals) hgt

section Loop

variable {into : ByteSink sink} {count : Nat}

theorem recvLoop_full {calls : Nat} {s : sink} (arrivals : List Arrival)
    (hcalls : 0 < calls) (h : count ≤ into.size s) :
    recvLoop into count calls s arrivals = (.complete, s, arrivals) := by
  cases calls with
  | zero =>
      cases hcalls
  | succ calls =>
      rw [recvLoop, if_neg (Nat.not_lt.mpr h)]

/-- What a loop has done: the front of the stream is in the sink, and a loop
that is complete leaves what is behind it. -/
structure Gathered (into : ByteSink sink) (count : Nat) (s : sink)
    (stream : List UInt8 × RecvEnd) (run : RecvEnd × sink × List Arrival) :
    Prop where
  ending : run.1 = recvVerdict (count - into.size s) stream
  contents : run.2.1 = into.push s (stream.1.take (count - into.size s))
  left : run.1 = .complete ->
    arriving run.2.2 = (stream.1.drop (count - into.size s), stream.2)

/-- A loop that ends before it has what it needs has taken the whole stream. -/
theorem gathered_of_end {s : sink} {ending : RecvEnd} (arrivals : List Arrival)
    (hmissing : into.size s < count) (hending : ending ≠ .complete) :
    Gathered into count s ([], ending) (ending, s, arrivals) where
  ending := by
    have hnone : ¬ count - into.size s ≤ ([] : List UInt8).length := by
      rw [List.length_nil]
      lia
    rw [recvVerdict, if_neg hnone]
  contents := by
    rw [List.take_nil, into.push_nil]
  left := fun h => absurd h hending

theorem gathered_of_full {s : sink} (arrivals : List Arrival)
    (h : count ≤ into.size s) :
    Gathered into count s (arriving arrivals) (.complete, s, arrivals) where
  ending := by
    rw [Nat.sub_eq_zero_of_le h, recvVerdict, if_pos (Nat.zero_le _)]
  contents := by
    rw [Nat.sub_eq_zero_of_le h, List.take_zero, into.push_nil]
  left := by
    intro _
    rw [Nat.sub_eq_zero_of_le h, List.drop_zero]

theorem gathered_of_chunk {s : sink} {chunk : List UInt8}
    {stream : List UInt8 × RecvEnd} {run : RecvEnd × sink × List Arrival}
    (hsize : into.size s + chunk.length ≤ count)
    (h : Gathered into count (into.push s chunk) stream run) :
    Gathered into count s (chunk ++ stream.1, stream.2) run := by
  have hmissing : count - into.size s =
      chunk.length + (count - into.size (into.push s chunk)) := by
    rw [into.size_push]
    lia
  constructor
  · rw [h.ending, hmissing]
    simp only [recvVerdict, List.length_append, Nat.add_le_add_iff_left]
  · rw [h.contents, hmissing, into.push_push, List.take_length_add_append]
  · intro hcomplete
    rw [h.left hcomplete, hmissing, List.drop_length_add_append]

/-- The loop gathers the front of the stream, however the stream is split up.
As many calls as there are arrivals and one more are enough. -/
theorem recvLoop_gathers {calls : Nat} {s : sink} {arrivals : List Arrival}
    (hcalls : arrivals.length < calls) :
    Gathered into count s (arriving arrivals)
      (recvLoop into count calls s arrivals) := by
  induction calls generalizing s arrivals with
  | zero =>
      cases hcalls
  | succ calls ih =>
      by_cases hmissing : into.size s < count
      · rw [recvLoop, if_pos hmissing]
        cases hcall : recvCall (count - into.size s) arrivals with
        | none =>
            rw [recvCall_none hcall]
            exact gathered_of_end arrivals hmissing (by decide)
        | some called =>
            rcases called with ⟨outcome, rest⟩
            cases outcome with
            | bytes chunk =>
                cases chunk with
                | nil =>
                    rw [recvCall_closed (by lia) hcall]
                    exact gathered_of_end rest hmissing (by decide)
                | cons byte bytes =>
                    rcases recvCall_bytes (List.cons_ne_nil byte bytes) hcall
                      with ⟨hstream, hle, hfull | hfewer⟩
                    all_goals
                      rw [hstream]
                      apply gathered_of_chunk (by lia)
                    · -- The call may have left bytes behind: the next pass
                      -- ends the loop without a call.
                      have hpos : 0 < arrivals.length := recvCall_pos hcall
                      have hfull' : count ≤ into.size (into.push s (byte :: bytes)) := by
                        rw [into.size_push]
                        lia
                      change Gathered into count _ _ (recvLoop into count calls _ rest)
                      rw [recvLoop_full rest (by lia) hfull']
                      exact gathered_of_full rest hfull'
                    · exact ih (by lia)
            | interrupted =>
                have hrest := recvCall_interrupted hcall
                rw [hrest.1]
                exact ih (by lia)
            | failed =>
                rw [recvCall_failed hcall]
                exact gathered_of_end rest hmissing (by decide)
      · have hfull : count ≤ into.size s := Nat.le_of_not_lt hmissing
        rw [recvLoop_full arrivals (Nat.succ_pos calls) hfull]
        exact gathered_of_full arrivals hfull

end Loop

end Foundation
end GardHub
