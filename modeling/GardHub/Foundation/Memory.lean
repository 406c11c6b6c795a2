import Mathlib

/-!
# Byte memory

Memory is a total map from addresses to bytes.  Addresses are integers, so that
an address in front of an object is an address like any other and a program
that computes one can be described without a special case.

Multi-byte values are little-endian: `leBytes` writes a value in a fixed
number of bytes, `leValue` reads it back.
-/

namespace GardHub
namespace Foundation

/-- The contents of an address space. -/
abbrev Memory := Int -> UInt8

/-- The value of a byte sequence, least significant byte first. -/
def leValue (bytes : List UInt8) : Nat :=
  Nat.ofDigits 256 (bytes.map UInt8.toNat)

/-- The low `width` bytes of a value, least significant byte first. -/
def leBytes (width value : Nat) : List UInt8 :=
  (List.range width).map fun i => UInt8.ofNat (value / 256 ^ i)

@[simp] theorem leBytes_length (width value : Nat) :
    (leBytes width value).length = width := by
  simp [leBytes]

@[simp] theorem leValue_nil : leValue [] = 0 := rfl

@[simp] theorem leValue_cons (byte : UInt8) (rest : List UInt8) :
    leValue (byte :: rest) = byte.toNat + 256 * leValue rest := by
  simp [leValue, Nat.ofDigits_cons]

theorem leValue_append (front back : List UInt8) :
    leValue (front ++ back) =
      leValue front + 256 ^ front.length * leValue back := by
  simp [leValue, Nat.ofDigits_append]

theorem leValue_lt (bytes : List UInt8) :
    leValue bytes < 256 ^ bytes.length := by
  induction bytes with
  | nil =>
      simp
  | cons byte rest ih =>
      have hbyte : byte.toNat < 256 := byte.toNat_lt
      rw [leValue_cons, List.length_cons, pow_succ]
      lia

theorem leBytes_succ (width value : Nat) :
    leBytes (width + 1) value =
      leBytes width value ++ [UInt8.ofNat (value / 256 ^ width)] := by
  simp [leBytes, List.range_succ]

theorem leBytes_one (byte : UInt8) : leBytes 1 byte.toNat = [byte] := by
  simp [leBytes]

theorem leBytes_zero (width : Nat) :
    leBytes width 0 = List.replicate width 0 := by
  simp [leBytes]

theorem leValue_leBytes (width value : Nat) :
    leValue (leBytes width value) = value % 256 ^ width := by
  induction width with
  | zero =>
      simp [leBytes, Nat.mod_one]
  | succ width ih =>
      rw [leBytes_succ, leValue_append, ih, leBytes_length, Nat.mod_pow_succ]
      simp

theorem leValue_leBytes_of_lt {width value : Nat} (h : value < 256 ^ width) :
    leValue (leBytes width value) = value := by
  rw [leValue_leBytes, Nat.mod_eq_of_lt h]

theorem leValue_inj {bytes others : List UInt8}
    (hlength : bytes.length = others.length)
    (h : leValue bytes = leValue others) : bytes = others := by
  induction bytes generalizing others with
  | nil =>
      exact (List.eq_nil_of_length_eq_zero hlength.symm).symm
  | cons byte rest ih =>
      cases others with
      | nil =>
          cases hlength
      | cons other others =>
          have hbyte : byte.toNat < 256 := byte.toNat_lt
          have hother : other.toNat < 256 := other.toNat_lt
          rw [leValue_cons, leValue_cons] at h
          have hhead : byte = other := UInt8.toNat_inj.mp (by lia)
          have htail : rest = others :=
            ih (Nat.succ_injective hlength) (by lia)
          rw [hhead, htail]

/-!
## Buffers

A buffer is an object of its own, addressed from its first byte.
-/

/-- Overwrite the bytes of a buffer from an offset on. -/
def overwrite (buffer : List UInt8) (offset : Nat) (bytes : List UInt8) :
    List UInt8 :=
  buffer.take offset ++ bytes ++ buffer.drop (offset + bytes.length)

/-- The value of a field of a buffer. -/
def fieldValue (buffer : List UInt8) (offset width : Nat) : Nat :=
  leValue ((buffer.drop offset).take width)

theorem fieldValue_lt (buffer : List UInt8) (offset width : Nat) :
    fieldValue buffer offset width < 256 ^ width :=
  lt_of_lt_of_le (leValue_lt _)
    (Nat.pow_le_pow_right (by decide) (List.length_take_le _ _))

theorem overwrite_zero (buffer bytes : List UInt8) :
    overwrite buffer 0 bytes = bytes ++ buffer.drop bytes.length := by
  simp [overwrite]

theorem overwrite_append_right (front back bytes : List UInt8) :
    overwrite (front ++ back) front.length bytes =
      front ++ overwrite back 0 bytes := by
  simp [overwrite, List.append_assoc]

theorem overwrite_full {buffer bytes : List UInt8}
    (h : buffer.length ≤ bytes.length) :
    overwrite buffer 0 bytes = bytes := by
  simp [overwrite, List.drop_eq_nil_of_le h]

/-- A buffer that is overwritten in two parts holds the two parts. -/
theorem overwrite_overwrite_full {buffer front back : List UInt8}
    (h : buffer.length ≤ front.length + back.length) :
    overwrite (overwrite buffer 0 front) front.length back = front ++ back := by
  have hrest : (buffer.drop front.length).length ≤ back.length := by
    rw [List.length_drop]
    lia
  rw [overwrite_zero, overwrite_append_right, overwrite_full hrest]

theorem take_overwrite {buffer : List UInt8} {offset : Nat}
    (bytes : List UInt8) (h : offset ≤ buffer.length) :
    (overwrite buffer offset bytes).take offset = buffer.take offset := by
  have hlength : (buffer.take offset).length = offset := by
    simpa using h
  rw [overwrite, List.append_assoc, List.take_append_of_le_length (by lia),
    List.take_take, min_self]

/-- Behind what overwrites its front, a buffer is what it was. -/
theorem getD_overwrite (buffer bytes : List UInt8) (i : Nat) (fill : UInt8) :
    (overwrite buffer 0 bytes).getD i fill =
      if i < bytes.length then bytes.getD i fill else buffer.getD i fill := by
  rw [overwrite_zero]
  by_cases h : i < bytes.length
  · rw [if_pos h, List.getD_append _ _ _ _ h]
  · have hle : bytes.length ≤ i := Nat.le_of_not_lt h
    rw [if_neg h, List.getD_append_right _ _ _ _ hle]
    simp only [List.getD_eq_getElem?_getD, List.getElem?_drop,
      Nat.add_sub_cancel' hle]

/-!
## Loads and stores
-/

namespace Memory

/-- The `count` bytes from an address on. -/
def load (m : Memory) (a : Int) (count : Nat) : List UInt8 :=
  (List.range count).map fun i : Nat => m (a + (i : Int))

/-- Overwrite the bytes from an address on. -/
def store (m : Memory) (a : Int) (bytes : List UInt8) : Memory :=
  fun x =>
    if a ≤ x ∧ x < a + bytes.length then bytes.getD (x - a).toNat 0 else m x

@[simp] theorem load_length (m : Memory) (a : Int) (count : Nat) :
    (m.load a count).length = count := by
  simp [load]

theorem store_apply_of_mem {m : Memory} {a x : Int} {bytes : List UInt8}
    (h : a ≤ x ∧ x < a + bytes.length) :
    m.store a bytes x = bytes.getD (x - a).toNat 0 := by
  simp [store, h]

theorem store_apply_of_not_mem {m : Memory} {a x : Int} {bytes : List UInt8}
    (h : x < a ∨ a + bytes.length ≤ x) :
    m.store a bytes x = m x := by
  have hout : ¬ (a ≤ x ∧ x < a + bytes.length) := by lia
  simp [store, hout]

theorem store_nil (m : Memory) (a : Int) : m.store a [] = m := by
  funext x
  apply store_apply_of_not_mem
  rw [List.length_nil]
  lia

theorem load_congr {m m' : Memory} {a : Int} {count : Nat}
    (h : forall x, a ≤ x -> x < a + count -> m x = m' x) :
    m.load a count = m'.load a count := by
  apply List.map_congr_left
  intro i hi
  have hlt : i < count := List.mem_range.mp hi
  exact h _ (by lia) (by lia)

/-- A load behind or in front of a store does not see it. -/
theorem load_store_disjoint (m : Memory) {a b : Int} {count : Nat}
    {bytes : List UInt8}
    (h : a + count ≤ b ∨ b + bytes.length ≤ a) :
    (m.store b bytes).load a count = m.load a count := by
  apply load_congr
  intro x hlow hhigh
  exact store_apply_of_not_mem (by lia)

theorem load_store_same (m : Memory) (a : Int) (bytes : List UInt8) :
    (m.store a bytes).load a bytes.length = bytes := by
  apply List.ext_getElem
  · simp
  · intro i hi hi'
    have hmem : a ≤ a + i ∧ a + (i : Int) < a + bytes.length := by lia
    simp [load, store_apply_of_mem hmem, hi']

theorem load_add (m : Memory) (a : Int) (front back : Nat) :
    m.load a (front + back) = m.load a front ++ m.load (a + front) back := by
  simp only [load, List.range_add, List.map_append, List.map_map]
  congr 1
  apply List.map_congr_left
  intro i hi
  simp [Int.add_assoc]

/-- A store behind a store is one store of both. -/
theorem store_store_append (m : Memory) (a : Int) (front back : List UInt8) :
    (m.store a front).store (a + front.length) back =
      m.store a (front ++ back) := by
  funext x
  by_cases hback : a + front.length ≤ x ∧
      x < a + front.length + back.length
  · have hmem : a ≤ x ∧ x < a + (front ++ back).length := by
      rw [List.length_append]
      lia
    have hindex : (x - a).toNat = front.length +
        (x - (a + front.length)).toNat := by
      lia
    rw [store_apply_of_mem hback, store_apply_of_mem hmem, hindex,
      List.getD_append_right _ _ _ _ (Nat.le_add_right _ _),
      Nat.add_sub_cancel_left]
  · rw [store_apply_of_not_mem (by lia)]
    by_cases hfront : a ≤ x ∧ x < a + front.length
    · have hmem : a ≤ x ∧ x < a + (front ++ back).length := by
        rw [List.length_append]
        lia
      rw [store_apply_of_mem hfront, store_apply_of_mem hmem,
        List.getD_append _ _ _ _ (by lia)]
    · rw [store_apply_of_not_mem (by lia), store_apply_of_not_mem (by
        rw [List.length_append]
        lia)]

/-- Two stores in a row are one store of the bytes in a row. -/
theorem load_store_append (m : Memory) (a : Int) (front back : List UInt8) :
    ((m.store a front).store (a + front.length) back).load a
        (front.length + back.length) = front ++ back := by
  rw [load_add, load_store_same, load_store_disjoint _ (Or.inl (le_refl _)),
    load_store_same]

/-- The 32-bit value at an address. -/
def load32 (m : Memory) (a : Int) : Nat :=
  leValue (m.load a 4)

/-- The 64-bit value at an address. -/
def load64 (m : Memory) (a : Int) : Nat :=
  leValue (m.load a 8)

/-!
Loads of fixed width from stored memory, with the relation between the two
addresses as a hypothesis, so that a simplifier can decide it.
-/

theorem load32_store_disjoint {m : Memory} {a b : Int} {bytes : List UInt8}
    (h : b + 4 ≤ a ∨ a + bytes.length ≤ b) :
    (m.store a bytes).load32 b = m.load32 b := by
  rw [load32, load_store_disjoint _ h, load32]

theorem load32_store_same {m : Memory} {a b : Int} {bytes : List UInt8}
    (haddress : b = a) (hwidth : bytes.length = 4) :
    (m.store a bytes).load32 b = leValue bytes := by
  have hload := load_store_same m a bytes
  rw [hwidth] at hload
  rw [haddress, load32, hload]

theorem store_byte_same {m : Memory} {a b : Int} {byte : UInt8}
    (haddress : b = a) : m.store a [byte] b = byte := by
  rw [haddress, store_apply_of_mem (by simp)]
  simp

theorem load32_congr {m m' : Memory} {a : Int}
    (h : forall x, a ≤ x -> x < a + 4 -> m x = m' x) :
    m.load32 a = m'.load32 a := by
  rw [load32, load32, load_congr h]

end Memory

end Foundation
end GardHub
