import Mathlib

/-!
# Machine integers

Signed values are integers and unsigned ones naturals; the conversions that C
applies between fixed-width types are spelled out.
-/

namespace GardHub
namespace Foundation

/-- The `int32_t` with the given low 32 bits. -/
def toInt32 (value : Nat) : Int :=
  if value % 2 ^ 32 < 2 ^ 31 then (value % 2 ^ 32 : Nat)
  else (value % 2 ^ 32 : Nat) - 2 ^ 32

/-- Conversion of a signed value to `uint32_t`. -/
def toUInt32 (value : Int) : Nat :=
  (value % 2 ^ 32).toNat

/-- Conversion of a signed value to the 64-bit `size_t`. -/
def toSizeT (value : Int) : Nat :=
  (value % 2 ^ 64).toNat

theorem toInt32_of_lt {value : Nat} (h : value < 2 ^ 31) :
    toInt32 value = value := by
  have hmod : value % 2 ^ 32 = value := Nat.mod_eq_of_lt (by lia)
  rw [toInt32, hmod, if_pos h]

theorem toInt32_of_ge {value : Nat} (h : 2 ^ 31 ≤ value)
    (hlt : value < 2 ^ 32) : toInt32 value = value - 2 ^ 32 := by
  have hmod : value % 2 ^ 32 = value := Nat.mod_eq_of_lt hlt
  rw [toInt32, hmod, if_neg (by lia)]

/-- Only what is below 2^31 is kept by the conversion. -/
theorem toInt32_eq_iff (value : Nat) :
    toInt32 value = value <-> value < 2 ^ 31 := by
  constructor
  · intro h
    unfold toInt32 at h
    split at h <;> lia
  · exact toInt32_of_lt

theorem toUInt32_natCast {value : Nat} (h : value < 2 ^ 32) :
    toUInt32 value = value := by
  unfold toUInt32
  lia

theorem toSizeT_natCast {value : Nat} (h : value < 2 ^ 64) :
    toSizeT value = value := by
  unfold toSizeT
  lia

/-! ## Signed arithmetic

Signed arithmetic that leaves the range of `int` is undefined in C, and so is a
shift by a negative count, by the width or more, or of a negative value. These
operations have no result then.
-/

def InInt (value : Int) : Prop :=
  -2 ^ 31 ≤ value ∧ value < 2 ^ 31

instance (value : Int) : Decidable (InInt value) :=
  inferInstanceAs (Decidable (_ ∧ _))

def checkInt (value : Int) : Option Int :=
  if InInt value then some value else none

def addInt (a b : Int) : Option Int :=
  checkInt (a + b)

def subInt (a b : Int) : Option Int :=
  checkInt (a - b)

/-- `a << count` in `int`. -/
def shiftLeftInt (a count : Int) : Option Int :=
  if 0 ≤ a ∧ 0 ≤ count ∧ count < 32 then checkInt (a * 2 ^ count.toNat) else none

/-- `a >> count` in `uint32_t`. -/
def shiftRightUInt32 (a : Nat) (count : Int) : Option Nat :=
  if 0 ≤ count ∧ count < 32 then some (a / 2 ^ count.toNat) else none

theorem checkInt_of_inInt {value : Int} (h : InInt value) :
    checkInt value = some value :=
  if_pos h

theorem checkInt_eq_none {value : Int} (h : ¬InInt value) :
    checkInt value = none :=
  if_neg h

/-- A single bit can be shifted up to below the sign. -/
theorem shiftLeftInt_one {count : Nat} (h : count ≤ 30) :
    shiftLeftInt 1 count = some (2 ^ count) := by
  have hle : (2 : Int) ^ count ≤ 2 ^ 30 := pow_le_pow_right₀ (by decide) h
  have hpos : (0 : Int) < 2 ^ count := by positivity
  have hin : InInt (1 * 2 ^ count) := by
    unfold InInt
    lia
  rw [shiftLeftInt, if_pos (by lia), Int.toNat_natCast, checkInt_of_inInt hin, one_mul]

theorem shiftRightUInt32_of_lt (a : Nat) {count : Nat} (h : count < 32) :
    shiftRightUInt32 a count = some (a / 2 ^ count) := by
  rw [shiftRightUInt32, if_pos (by lia), Int.toNat_natCast]

end Foundation
end GardHub
