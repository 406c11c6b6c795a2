import GardHub.Foundation.ByteReader

/-!
# Streams in chunks

A stream that arrives in chunks, as a socket delivers it.  A call for a number
of bytes gets what is in the first chunk, and at most as many as it asked for;
what it does not take stays.  No bytes mean the end of the stream.

Whoever collects the bytes until they are complete does not see the chunks.
-/

namespace GardHub
namespace Foundation

/-- What a call for at most `count` bytes gets, and the chunks that stay. -/
def recvChunk (count : Nat) : List (List UInt8) ->
    List UInt8 × List (List UInt8)
  | [] => ([], [])
  | chunk :: rest =>
      if chunk.length ≤ count then (chunk, rest)
      else (chunk.take count, chunk.drop count :: rest)

theorem recvChunk_flatten (count : Nat) (chunks : List (List UInt8)) :
    (recvChunk count chunks).1 ++ (recvChunk count chunks).2.flatten =
      chunks.flatten := by
  cases chunks with
  | nil =>
      rfl
  | cons chunk rest =>
      rw [recvChunk]
      split
      · rw [List.flatten_cons]
      · rw [List.flatten_cons, List.flatten_cons, ← List.append_assoc,
          List.take_append_drop]

theorem recvChunk_length_le (count : Nat) (chunks : List (List UInt8)) :
    (recvChunk count chunks).1.length ≤ count := by
  cases chunks with
  | nil =>
      exact Nat.zero_le count
  | cons chunk rest =>
      rw [recvChunk]
      split
      · assumption
      · exact List.length_take_le _ _

theorem recvChunk_nonempty {count : Nat} {chunks : List (List UInt8)}
    (h : forall chunk, chunk ∈ chunks -> chunk ≠ []) :
    forall chunk, chunk ∈ (recvChunk count chunks).2 -> chunk ≠ [] := by
  cases chunks with
  | nil =>
      exact h
  | cons first rest =>
      have hrest : forall chunk, chunk ∈ rest -> chunk ≠ [] :=
        fun chunk hchunk => h chunk (List.mem_cons_of_mem _ hchunk)
      rw [recvChunk]
      split
      · exact hrest
      · intro chunk hchunk
        rcases List.mem_cons.mp hchunk with rfl | hlater
        · rw [Ne, List.drop_eq_nil_iff]
          assumption
        · exact hrest chunk hlater

/-- A stream whose chunks all have bytes in them. -/
structure ChunkedStream where
  chunks : List (List UInt8)
  nonempty : forall chunk, chunk ∈ chunks -> chunk ≠ []

namespace ChunkedStream

variable {count : Nat} {s : ChunkedStream}

/-- The bytes that are still to come. -/
def bytes (s : ChunkedStream) : List UInt8 :=
  s.chunks.flatten

/-- A call for at most `count` bytes. -/
def recv (count : Nat) (s : ChunkedStream) : List UInt8 × ChunkedStream :=
  ((recvChunk count s.chunks).1,
    { chunks := (recvChunk count s.chunks).2
      nonempty := recvChunk_nonempty s.nonempty })

theorem recv_append (count : Nat) (s : ChunkedStream) :
    (s.recv count).1 ++ (s.recv count).2.bytes = s.bytes :=
  recvChunk_flatten count s.chunks

theorem recv_length_le (count : Nat) (s : ChunkedStream) :
    (s.recv count).1.length ≤ count :=
  recvChunk_length_le count s.chunks

/-- A call for some bytes gets none only at the end of the stream. -/
theorem bytes_of_recv_eq_nil (hcount : 0 < count)
    (h : (s.recv count).1 = []) : s.bytes = [] := by
  rcases s with ⟨_ | ⟨chunk, rest⟩, hnonempty⟩
  · rfl
  · have hchunk : chunk ≠ [] := hnonempty chunk List.mem_cons_self
    have htaken : (recvChunk count (chunk :: rest)).1 = [] := h
    rw [recvChunk] at htaken
    split at htaken
    · exact absurd htaken hchunk
    · have hnil := List.take_eq_nil_iff.mp htaken
      rcases hnil with hzero | hempty
      · lia
      · exact absurd hempty hchunk

/-- Call for what is missing until `count` bytes are there or the stream has
ended, at most a number of times. -/
def collect (count : Nat) : Nat -> List UInt8 -> ChunkedStream ->
    Option (List UInt8 × ChunkedStream)
  | 0, _, _ => none
  | calls + 1, buf, s =>
      if buf.length < count then
        let chunk := s.recv (count - buf.length)
        if chunk.1 = [] then none
        else collect count calls (buf ++ chunk.1) chunk.2
      else some (buf, s)

/-- Collecting takes the bytes from the front of what is there and to come. -/
theorem collect_bytes {buf : List UInt8} {calls : Nat}
    (hbuf : buf.length ≤ count) (hcalls : count - buf.length < calls) :
    (collect count calls buf s).map (Prod.map id bytes) =
      takeBytes count (buf ++ s.bytes) := by
  induction calls generalizing buf s with
  | zero =>
      cases hcalls
  | succ calls ih =>
      rw [collect]
      by_cases hmissing : buf.length < count
      · have happend := recv_append (count - buf.length) s
        have hlength := recv_length_le (count - buf.length) s
        rw [if_pos hmissing]
        by_cases hend : (s.recv (count - buf.length)).1 = []
        · have hnil := bytes_of_recv_eq_nil (by lia) hend
          have hshort : ¬ count ≤ buf.length := by lia
          simp [hend, hnil, takeBytes, hshort]
        · have hpos : 0 < (s.recv (count - buf.length)).1.length :=
            List.length_pos_of_ne_nil hend
          simp only [if_neg hend]
          rw [ih (by rw [List.length_append]; lia)
            (by rw [List.length_append]; lia), List.append_assoc, happend]
      · have hfull : buf.length = count := by lia
        rw [if_neg hmissing, takeBytes_append hfull]
        rfl

/-- Read `count` bytes.  Every call for what is missing gets a byte or more, so
that `count` calls are enough. -/
def recvAll (count : Nat) (s : ChunkedStream) :
    Option (List UInt8 × ChunkedStream) :=
  collect count (count + 1) [] s

theorem recvAll_bytes (count : Nat) (s : ChunkedStream) :
    (s.recvAll count).map (Prod.map id bytes) = takeBytes count s.bytes := by
  have hbuf : ([] : List UInt8).length ≤ count := Nat.zero_le count
  rw [recvAll, collect_bytes hbuf (Nat.lt_succ_self count), List.nil_append]

/-!
## Messages
-/

variable {message : Type}

/-- Read messages from a stream in chunks, as `readMessages` does from bytes. -/
def readAll (read : ChunkedStream -> Option (message × ChunkedStream)) :
    Nat -> ChunkedStream -> List message
  | 0, _ => []
  | passes + 1, s =>
      match read s with
      | none => []
      | some (m, rest) => m :: readAll read passes rest

/-- A reader that does not see the chunks reads the messages of the bytes. -/
theorem readAll_bytes
    {read : ChunkedStream -> Option (message × ChunkedStream)}
    {readBytes : List UInt8 -> Option (message × List UInt8)}
    (h : forall s, (read s).map (Prod.map id bytes) = readBytes s.bytes)
    (passes : Nat) (s : ChunkedStream) :
    readAll read passes s = (readMessages readBytes passes s.bytes).1 := by
  induction passes generalizing s with
  | zero =>
      rfl
  | succ passes ih =>
      rw [readAll, readMessages, ← h s]
      cases read s with
      | none =>
          rfl
      | some taken =>
          simp only [Option.map_some, Prod.map_fst, Prod.map_snd, id]
          rw [ih]

end ChunkedStream

end Foundation
end GardHub
