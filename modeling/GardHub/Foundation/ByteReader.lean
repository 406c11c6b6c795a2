import GardHub.Foundation.Memory

/-!
# Reading messages from a byte stream

A reader takes a message from the front of a stream and leaves the rest, or
fails because the message is not complete.  Messages that follow each other
without anything in between are read one after another.
-/

namespace GardHub
namespace Foundation

/-- Take a number of bytes, all or none. -/
def takeBytes (count : Nat) (input : List UInt8) :
    Option (List UInt8 × List UInt8) :=
  if count ≤ input.length then some (input.take count, input.drop count)
  else none

theorem takeBytes_append {front : List UInt8} {count : Nat}
    (h : front.length = count) (back : List UInt8) :
    takeBytes count (front ++ back) = some (front, back) := by
  rw [takeBytes, if_pos (by rw [List.length_append]; lia), ← h,
    List.take_left, List.drop_left]

theorem takeBytes_length {count : Nat} {input taken rest : List UInt8}
    (h : takeBytes count input = some (taken, rest)) :
    input.length = count + rest.length := by
  rw [takeBytes] at h
  by_cases hle : count ≤ input.length
  · rw [if_pos hle] at h
    cases h
    rw [List.length_drop]
    lia
  · rw [if_neg hle] at h
    cases h

theorem takeBytes_taken_length {count : Nat} {input taken rest : List UInt8}
    (h : takeBytes count input = some (taken, rest)) :
    taken.length = count := by
  rw [takeBytes] at h
  by_cases hle : count ≤ input.length
  · rw [if_pos hle] at h
    cases h
    rw [List.length_take_of_le hle]
  · rw [if_neg hle] at h
    cases h

/-!
## Packed fields

A packed record is its fields in a row, little-endian, with nothing between
them.  A field is a width and a value.
-/

/-- The bytes of a packed record. -/
def packFields (fields : List (Nat × Nat)) : List UInt8 :=
  fields.flatMap fun field => leBytes field.1 field.2

/-- The values of the fields of a packed record, if it has just their bytes. -/
def unpackFields : List Nat -> List UInt8 -> Option (List Nat)
  | [], [] => some []
  | [], _ :: _ => none
  | width :: widths, bytes =>
      match takeBytes width bytes with
      | none => none
      | some (taken, rest) =>
          (unpackFields widths rest).map fun values => leValue taken :: values

/-- Values that fit their fields are read back. -/
theorem unpackFields_packFields {fields : List (Nat × Nat)}
    (h : forall field, field ∈ fields -> field.2 < 256 ^ field.1) :
    unpackFields (fields.map Prod.fst) (packFields fields) =
      some (fields.map Prod.snd) := by
  induction fields with
  | nil =>
      rfl
  | cons field fields ih =>
      have htail : unpackFields (fields.map Prod.fst) (packFields fields) =
          some (fields.map Prod.snd) :=
        ih fun other hother => h other (List.mem_cons_of_mem field hother)
      have hvalue : leValue (leBytes field.1 field.2) = field.2 :=
        leValue_leBytes_of_lt (h field (by simp))
      rw [packFields, List.flatMap_cons, List.map_cons, unpackFields,
        takeBytes_append (leBytes_length _ _)]
      change Option.map _ (unpackFields _ (packFields fields)) = _
      rw [htail, Option.map_some, hvalue, List.map_cons]

theorem unpackFields_length {widths : List Nat} {bytes : List UInt8}
    {values : List Nat} (h : unpackFields widths bytes = some values) :
    bytes.length = widths.sum := by
  induction widths generalizing bytes values with
  | nil =>
      cases bytes with
      | nil =>
          rfl
      | cons byte rest =>
          cases h
  | cons width widths ih =>
      rw [unpackFields] at h
      cases htaken : takeBytes width bytes with
      | none =>
          rw [htaken] at h
          cases h
      | some taken =>
          rw [htaken] at h
          rcases Option.map_eq_some_iff.mp h with ⟨later, hlater, -⟩
          rw [takeBytes_length htaken, ih hlater, List.sum_cons]

/-!
## Messages that arrive byte by byte

A receiver that keeps the bytes of a message until it is complete.  What
completes a message, and what it does to the receiver, may depend on the
messages that came before.
-/

/-- A receiver with the bytes of a message that is not complete. -/
structure Receiver (state : Type) where
  state : state
  pending : List UInt8
deriving DecidableEq

section Receiving

variable {state : Type} (take : state -> List UInt8 -> Option state)

/-- Take in one byte; `take` has a next state when a message is complete. -/
def feedByte (r : Receiver state) (byte : UInt8) : Receiver state :=
  match take r.state (r.pending ++ [byte]) with
  | none => { r with pending := r.pending ++ [byte] }
  | some next => { state := next, pending := [] }

variable {take} {s : state}

theorem foldl_feedByte_pending {front back : List UInt8}
    (h : forall part, part ≠ [] -> part <+: back ->
      take s (front ++ part) = none) :
    back.foldl (feedByte take) { state := s, pending := front } =
      { state := s, pending := front ++ back } := by
  induction back generalizing front with
  | nil =>
      rw [List.append_nil]
      rfl
  | cons byte back ih =>
      have hbyte : feedByte take { state := s, pending := front } byte =
          { state := s, pending := front ++ [byte] } := by
        rw [feedByte, h [byte] (by simp) (by simp)]
      have hback : forall part, part ≠ [] -> part <+: back ->
          take s ((front ++ [byte]) ++ part) = none := by
        intro part hne hpart
        rw [List.append_assoc]
        exact h (byte :: part) (by simp) (List.prefix_cons_inj byte |>.mpr hpart)
      rw [List.foldl_cons, hbyte, ih hback, List.append_assoc]
      rfl

/-- A message whose fronts are not messages is taken in as a whole. -/
theorem foldl_feedByte_message {message : List UInt8} {next : state}
    (hne : message ≠ []) (h : take s message = some next)
    (hfronts : forall part, part <+: message -> part.length < message.length ->
      take s part = none) :
    message.foldl (feedByte take) { state := s, pending := [] } =
      { state := next, pending := [] } := by
  rcases List.eq_nil_or_concat' message with hnil | ⟨front, last, rfl⟩
  · exact absurd hnil hne
  · have hfront : forall part, part ≠ [] -> part <+: front ->
        take s ([] ++ part) = none := by
      intro part _ hpart
      apply hfronts part (hpart.trans (List.prefix_append front [last]))
      rw [List.length_append]
      exact Nat.lt_succ_of_le hpart.length_le
    rw [List.foldl_append, foldl_feedByte_pending hfront, List.foldl_cons,
      List.foldl_nil, feedByte, List.nil_append, h]

end Receiving

/-!
## Messages in a row
-/

variable {message : Type}

/-- Read messages until a number of them is read or the reader fails. -/
def readMessages (read : List UInt8 -> Option (message × List UInt8)) :
    Nat -> List UInt8 -> List message × List UInt8
  | 0, input => ([], input)
  | count + 1, input =>
      match read input with
      | none => ([], input)
      | some (m, rest) =>
          (m :: (readMessages read count rest).1,
            (readMessages read count rest).2)

variable {read : List UInt8 -> Option (message × List UInt8)}

/-- What was written piece by piece is read piece by piece. -/
theorem readMessages_flatMap_take {source : Type} {value : source -> message}
    {write : source -> List UInt8} (sources : List source)
    (h : forall a, a ∈ sources -> forall rest,
      read (write a ++ rest) = some (value a, rest))
    (hempty : read [] = none) (count : Nat) :
    (readMessages read count (sources.flatMap write)).1 =
      (sources.map value).take count := by
  induction count generalizing sources with
  | zero =>
      rw [readMessages, List.take_zero]
  | succ count ih =>
      cases sources with
      | nil =>
          rw [List.flatMap_nil, readMessages, hempty, List.map_nil,
            List.take_nil]
      | cons a later =>
          have hlater := ih later
            fun a' ha' => h a' (List.mem_cons_of_mem _ ha')
          rw [List.flatMap_cons, readMessages, h a List.mem_cons_self,
            List.map_cons, List.take_succ_cons]
          simp only [hlater]

/-- A reader that takes from the front of more bytes what it takes from the
front of some. -/
def FrontReader (read : List UInt8 -> Option (message × List UInt8)) : Prop :=
  forall input m rest more, read input = some (m, rest) ->
    read (input ++ more) = some (m, rest ++ more)

theorem takeBytes_front (count : Nat) : FrontReader (takeBytes count) := by
  intro input taken rest more h
  rw [takeBytes] at h
  by_cases hle : count ≤ input.length
  · rw [if_pos hle] at h
    cases h
    rw [takeBytes, if_pos (hle.trans (by simp)),
      List.take_append_of_le_length hle, List.drop_append_of_le_length hle]
  · rw [if_neg hle] at h
    cases h

/-- From the front of a stream come the first ones of its messages. -/
theorem readMessages_front (hread : FrontReader read) (count : Nat)
    {input whole : List UInt8} (h : input <+: whole) :
    (readMessages read count input).1 <+: (readMessages read count whole).1 := by
  rcases h with ⟨more, rfl⟩
  induction count generalizing input with
  | zero =>
      exact List.prefix_rfl
  | succ count ih =>
      rw [readMessages, readMessages]
      cases hfirst : read input with
      | none =>
          exact List.nil_prefix
      | some taken =>
          simp only [hread input taken.1 taken.2 more hfirst]
          exact (List.prefix_cons_inj taken.1).mpr ih

/-!
## Messages up to a last one
-/

/-- Read messages until one of them is the last, a number of them is read or the
reader fails. -/
def readMessagesUntil (last : message -> Bool)
    (read : List UInt8 -> Option (message × List UInt8)) :
    Nat -> List UInt8 -> List message × List UInt8
  | 0, input => ([], input)
  | count + 1, input =>
      match read input with
      | none => ([], input)
      | some (m, rest) =>
          if last m then ([m], rest)
          else
            (m :: (readMessagesUntil last read count rest).1,
              (readMessagesUntil last read count rest).2)

section Until

variable {last : message -> Bool}

/-- Messages that are read back one by one are read back in a row, if none in
front of others is the last. -/
theorem readMessagesUntil_flatMap {write : message -> List UInt8}
    (messages : List message)
    (h : forall m, m ∈ messages -> forall rest,
      read (write m ++ rest) = some (m, rest))
    (hempty : read [] = none)
    (hlast : forall m, m ∈ messages.dropLast -> last m = false) {count : Nat}
    (hcount : messages.length ≤ count) :
    readMessagesUntil last read count (messages.flatMap write) =
      (messages, []) := by
  induction messages generalizing count with
  | nil =>
      cases count with
      | zero =>
          rfl
      | succ count =>
          rw [List.flatMap_nil, readMessagesUntil, hempty]
  | cons m later ih =>
      cases count with
      | zero =>
          cases hcount
      | succ count =>
          rw [List.flatMap_cons, readMessagesUntil, h m List.mem_cons_self]
          cases later with
          | nil =>
              have hnone := ih (by simp) (by simp) (Nat.zero_le count)
              simp only [hnone]
              exact ite_self _
          | cons m' later =>
              rw [List.dropLast_cons_cons] at hlast
              have hlater := ih (fun _ h' => h _ (List.mem_cons_of_mem _ h'))
                (fun _ h' => hlast _ (List.mem_cons_of_mem _ h'))
                (Nat.le_of_succ_le_succ hcount)
              simp only [hlater, hlast m List.mem_cons_self,
                Bool.false_eq_true, if_false]

/-- Behind a last message nothing is read. -/
theorem readMessagesUntil_dropLast (count : Nat) (input : List UInt8) :
    forall m, m ∈ (readMessagesUntil last read count input).1.dropLast ->
      last m = false := by
  induction count generalizing input with
  | zero =>
      simp [readMessagesUntil]
  | succ count ih =>
      intro m hm
      rw [readMessagesUntil] at hm
      split at hm
      next =>
        cases hm
      next first rest hread =>
        split at hm
        next =>
          cases hm
        next hgoesOn =>
          have hmem := List.mem_of_mem_dropLast hm
          rcases List.mem_cons.mp hmem with rfl | hlater
          · exact Bool.eq_false_iff.mpr hgoesOn
          · cases hrest : (readMessagesUntil last read count rest).1 with
            | nil =>
                rw [hrest] at hlater
                cases hlater
            | cons second later =>
                rw [hrest, List.dropLast_cons_cons] at hm
                rcases List.mem_cons.mp hm with rfl | hm
                · exact Bool.eq_false_iff.mpr hgoesOn
                · exact ih rest m (hrest ▸ hm)

theorem readMessagesUntil_length {size : message -> Nat}
    (h : forall input m rest, read input = some (m, rest) ->
      input.length = size m + rest.length) (count : Nat) (input : List UInt8) :
    input.length =
      ((readMessagesUntil last read count input).1.map size).sum +
        (readMessagesUntil last read count input).2.length := by
  induction count generalizing input with
  | zero =>
      simp [readMessagesUntil]
  | succ count ih =>
      rw [readMessagesUntil]
      cases hread : read input with
      | none =>
          simp
      | some taken =>
          have hfirst := h input taken.1 taken.2 hread
          have hrest := ih taken.2
          simp only
          split
          · simpa using hfirst
          · simp only [List.map_cons, List.sum_cons]
            lia

end Until

end Foundation
end GardHub
