import GardHub.Foundation.MachineInt
import GardHub.Foundation.Rounding

/-!
# Fixed point values

## The conversion to an integer

The conversion mixes `uint32_t` and `int`: the value is shifted as an unsigned
number, everything computed from it is an `int`.  An `int` that does not fit
leaves the call without a result.
-/

namespace GardHub
namespace KtLib

open Foundation

def asUInt32 (value : Int) : UInt32 :=
  UInt32.ofNat (toUInt32 value)

def ktConvertFixedPointToInteger (fracBits : UInt8) (fixedPointValue : UInt32) :
    Option UInt32 := do
  let fracMask <- subInt (<- shiftLeftInt 1 fracBits.toNat) 1
  let halfFrac <- shiftLeftInt 1 (<- subInt fracBits.toNat 1)
  let fracPart := toInt32 (fixedPointValue.toNat &&& toUInt32 fracMask)
  let floor := toInt32 (<- shiftRightUInt32 fixedPointValue.toNat fracBits.toNat)
  if fracPart = halfFrac then
    if floor.tmod 2 = 0 then
      some (asUInt32 floor)
    else
      return asUInt32 (<- addInt floor 1)
  else if fracPart > halfFrac then
    return asUInt32 (<- addInt floor 1)
  else
    some (asUInt32 floor)

/-! ## The parts of the value -/

theorem asUInt32_natCast {value : Nat} (h : value < 2 ^ 32) :
    asUInt32 value = UInt32.ofNat value := by
  rw [asUInt32, toUInt32_natCast h]

/-- The mask keeps the remainder of the division by the unit. -/
theorem and_fracMask (value : Nat) {fracBits : Nat} (h : fracBits ≤ 30) :
    value &&& toUInt32 (2 ^ fracBits - 1) = value % 2 ^ fracBits := by
  have hle : 2 ^ fracBits ≤ 2 ^ 30 := Nat.pow_le_pow_right (by decide) h
  have hpos : 0 < 2 ^ fracBits := Nat.two_pow_pos fracBits
  have hmask : ((2 : Int) ^ fracBits - 1) = ((2 ^ fracBits - 1 : Nat) : Int) := by
    rw [Nat.cast_sub hpos]
    norm_cast
  rw [hmask, toUInt32_natCast (by lia), Nat.and_two_pow_sub_one_eq_mod]

theorem subInt_fracMask {fracBits : Nat} (h : fracBits ≤ 30) :
    subInt (2 ^ fracBits) 1 = some (2 ^ fracBits - 1) := by
  have hle : (2 : Int) ^ fracBits ≤ 2 ^ 30 := pow_le_pow_right₀ (by decide) h
  have hpos : (0 : Int) < 2 ^ fracBits := by positivity
  apply checkInt_of_inInt
  unfold InInt
  lia

theorem subInt_one {fracBits : Nat} (hpos : 1 ≤ fracBits) (hle : fracBits ≤ 30) :
    subInt fracBits 1 = some ((fracBits - 1 : Nat) : Int) := by
  have heq : ((fracBits - 1 : Nat) : Int) = fracBits - 1 := by lia
  rw [heq]
  apply checkInt_of_inInt
  unfold InInt
  lia

theorem two_mul_half {fracBits : Nat} (h : 1 ≤ fracBits) :
    2 * 2 ^ (fracBits - 1) = 2 ^ fracBits := by
  rw [← Nat.pow_add_one', Nat.sub_add_cancel h]

/-- The integer part fits an `int`, since at least one bit is shifted out. -/
theorem integerPart_lt (value : UInt32) {fracBits : Nat} (h : 1 ≤ fracBits) :
    value.toNat / 2 ^ fracBits < 2 ^ 31 := by
  have hvalue : value.toNat < 2 ^ 32 := value.toNat_lt
  have hpow : 2 ^ 1 ≤ 2 ^ fracBits := Nat.pow_le_pow_right (by decide) h
  have hdiv : value.toNat / 2 ^ fracBits ≤ value.toNat / 2 ^ 1 :=
    Nat.div_le_div_left hpow (by decide)
  lia

theorem fractionPart_lt (value : UInt32) {fracBits : Nat} (h : fracBits ≤ 30) :
    value.toNat % 2 ^ fracBits < 2 ^ 31 := by
  have hlt := Nat.mod_lt value.toNat (Nat.two_pow_pos fracBits)
  have hpow : 2 ^ fracBits ≤ 2 ^ 30 := Nat.pow_le_pow_right (by decide) h
  lia

/-- The three cases of the call, by the integer part `n` and the remainder `r`. -/
theorem ktConvertFixedPointToInteger_parts {fracBits : UInt8} {value : UInt32}
    (hpos : 1 ≤ fracBits.toNat) (hle : fracBits.toNat ≤ 30) {n r : Nat}
    (hn : value.toNat / 2 ^ fracBits.toNat = n)
    (hr : value.toNat % 2 ^ fracBits.toNat = r) :
    ktConvertFixedPointToInteger fracBits value =
      (if 2 * r = 2 ^ fracBits.toNat then
        if n % 2 = 0 then some (asUInt32 n) else (addInt n 1).map asUInt32
      else if 2 ^ fracBits.toNat < 2 * r then (addInt n 1).map asUInt32
      else some (asUInt32 n)) := by
  have hnlt : n < 2 ^ 31 := hn ▸ integerPart_lt value hpos
  have hrlt : r < 2 ^ 31 := hr ▸ fractionPart_lt value hle
  have hhalf := two_mul_half hpos
  have hcast : (2 : Int) ^ (fracBits.toNat - 1) = (2 ^ (fracBits.toNat - 1) : Nat) := by
    norm_cast
  have htie : (r : Int) = 2 ^ (fracBits.toNat - 1) <-> 2 * r = 2 ^ fracBits.toNat := by
    lia
  have habove : (r : Int) > 2 ^ (fracBits.toNat - 1) <-> 2 ^ fracBits.toNat < 2 * r := by
    lia
  have heven : (n : Int).tmod 2 = 0 <-> n % 2 = 0 := by
    lia
  rw [ktConvertFixedPointToInteger, shiftLeftInt_one hle, subInt_one hpos hle,
    shiftRightUInt32_of_lt _ (by lia)]
  simp only [Option.bind_eq_bind, Option.bind_some, subInt_fracMask hle,
    shiftLeftInt_one (by lia : fracBits.toNat - 1 ≤ 30), and_fracMask _ hle, hn, hr,
    toInt32_of_lt hnlt, toInt32_of_lt hrlt, htie, habove, heven]
  cases addInt n 1 <;> rfl

/-- The increment fits an `int` unless the integer part is the largest one. -/
theorem increment_eq {n : Nat} (h : n < 2 ^ 31) :
    (addInt n 1).map asUInt32 =
      if n = 2 ^ 31 - 1 then none else some (UInt32.ofNat (n + 1)) := by
  split
  next htop =>
    have hout : ¬InInt (n + 1) := by
      unfold InInt
      lia
    rw [addInt, checkInt_eq_none hout]
    rfl
  next htop =>
    have hin : InInt (n + 1) := by
      unfold InInt
      lia
    have hasUInt32 : asUInt32 (n + 1) = UInt32.ofNat (n + 1) :=
      asUInt32_natCast (by lia)
    rw [addInt, checkInt_of_inInt hin, Option.map_some, hasUInt32]

/-- The largest integer part comes from a shift by one bit only. -/
theorem integerPart_top {value : UInt32} {fracBits : Nat} (hpos : 1 ≤ fracBits)
    (htop : value.toNat / 2 ^ fracBits = 2 ^ 31 - 1) : fracBits = 1 := by
  have hvalue : value.toNat < 2 ^ 32 := value.toNat_lt
  by_contra hne
  have hpow : 2 ^ 2 ≤ 2 ^ fracBits := Nat.pow_le_pow_right (by decide) (by lia)
  have hdiv : value.toNat / 2 ^ fracBits ≤ value.toNat / 2 ^ 2 :=
    Nat.div_le_div_left hpow (by decide)
  lia

/-- The one input whose result is not an `int`: half of the largest value. -/
def roundsPastInt (fracBits : UInt8) (value : UInt32) : Prop :=
  fracBits = 1 ∧ value = 0xFFFFFFFF

theorem roundsPastInt_iff {fracBits : UInt8} {value : UInt32}
    (hpos : 1 ≤ fracBits.toNat) (hle : fracBits.toNat ≤ 30) :
    roundsPastInt fracBits value <->
      2 ^ fracBits.toNat ≤ 2 * (value.toNat % 2 ^ fracBits.toNat) ∧
        value.toNat / 2 ^ fracBits.toNat = 2 ^ 31 - 1 := by
  constructor
  · rintro ⟨rfl, rfl⟩
    decide
  · rintro ⟨hfrac, htop⟩
    have hone : fracBits.toNat = 1 := integerPart_top hpos htop
    rw [hone] at hfrac htop
    constructor
    · exact UInt8.toNat_inj.mp hone
    · apply UInt32.toNat_inj.mp
      have hmax : (0xFFFFFFFF : UInt32).toNat = 4294967295 := rfl
      lia

/-! ## Rounding -/

/-- Apart from the one input, the call is the rounded division. -/
theorem ktConvertFixedPointToInteger_eq {fracBits : UInt8} {value : UInt32}
    (hpos : 1 ≤ fracBits.toNat) (hle : fracBits.toNat ≤ 30)
    (hfits : ¬roundsPastInt fracBits value) :
    ktConvertFixedPointToInteger fracBits value =
      some (UInt32.ofNat (divRoundEven value.toNat (2 ^ fracBits.toNat))) := by
  have hn := integerPart_lt value hpos
  rw [roundsPastInt_iff hpos hle] at hfits
  rw [ktConvertFixedPointToInteger_parts hpos hle rfl rfl, increment_eq hn,
    asUInt32_natCast (by lia), divRoundEven]
  split
  next htie =>
    have htop : value.toNat / 2 ^ fracBits.toNat ≠ 2 ^ 31 - 1 := by lia
    rw [if_neg htop]
    split <;> rfl
  next =>
    split
    next habove =>
      have htop : value.toNat / 2 ^ fracBits.toNat ≠ 2 ^ 31 - 1 := by lia
      rw [if_neg htop]
    next =>
      rfl

/-- The half of the largest value is a tie, and its integer part is odd. -/
theorem ktConvertFixedPointToInteger_none :
    ktConvertFixedPointToInteger 1 0xFFFFFFFF = none := by
  decide

/-- The conversion rounds to the nearest integer and a tie to the even one,
within the range of `int`, for every value except `0xFFFFFFFF` with one
fractional bit: `floor + 1` is no `int` there. -/
theorem ktConvertFixedPointToInteger_rounds_iff (fracBits : UInt8) (value : UInt32)
    (hpos : 1 ≤ fracBits.toNat) (hle : fracBits.toNat ≤ 30) :
    (exists result, ktConvertFixedPointToInteger fracBits value = some result ∧
      RoundsToEven ((value.toNat : ℚ) / 2 ^ fracBits.toNat) result.toNat) <->
    ¬(fracBits = 1 ∧ value = 0xFFFFFFFF) := by
  constructor
  · rintro ⟨result, hresult, _⟩ ⟨rfl, rfl⟩
    rw [ktConvertFixedPointToInteger_none] at hresult
    exact absurd hresult (by simp)
  · intro hfits
    have hn := integerPart_lt value hpos
    have hbound := divRoundEven_le value.toNat (2 ^ fracBits.toNat)
    have htoNat : (UInt32.ofNat (divRoundEven value.toNat (2 ^ fracBits.toNat))).toNat =
        divRoundEven value.toNat (2 ^ fracBits.toNat) :=
      UInt32.toNat_ofNat_of_lt' (by lia)
    have hrounds : RoundsToEven ((value.toNat : ℚ) / (2 ^ fracBits.toNat : Nat))
        (divRoundEven value.toNat (2 ^ fracBits.toNat) : Nat) :=
      divRoundEven_rounds value.toNat (Nat.two_pow_pos fracBits.toNat)
    refine ⟨_, ktConvertFixedPointToInteger_eq hpos hle hfits, ?_⟩
    rw [htoNat]
    exact_mod_cast hrounds

/-- 24 sixteenths are a tie between 1 and 2. -/
theorem ktConvertFixedPointToInteger_rounds_tie :
    exists result, ktConvertFixedPointToInteger 4 24 = some result ∧
      RoundsToEven (((24 : UInt32).toNat : ℚ) / 2 ^ (4 : UInt8).toNat) result.toNat :=
  (ktConvertFixedPointToInteger_rounds_iff 4 24 (by decide) (by decide)).mpr (by decide)

theorem ktConvertFixedPointToInteger_overflows :
    ¬ exists result, ktConvertFixedPointToInteger 1 0xFFFFFFFF = some result ∧
      RoundsToEven (((0xFFFFFFFF : UInt32).toNat : ℚ) / 2 ^ (1 : UInt8).toNat)
        result.toNat := by
  rintro ⟨result, hresult, _⟩
  rw [ktConvertFixedPointToInteger_none] at hresult
  exact absurd hresult (by simp)

end KtLib
end GardHub
