import Mathlib

/-!
# Rounding to an integer

## Nearest integers, ties to the even one

The specification speaks of all integer candidates, over any ordered field. A
quotient of naturals is rounded by comparing twice the remainder with the
divisor.
-/

namespace GardHub
namespace Foundation

variable {K : Type} [Field K] [LinearOrder K] [IsStrictOrderedRing K]

/-- No integer is nearer to `x` than `n`, and where another one is as near, `n`
is the even one of the two. -/
structure RoundsToEven (x : K) (n : Int) : Prop where
  nearest : forall k : Int, |x - n| ≤ |x - k|
  tie : forall k : Int, k ≠ n -> |x - k| = |x - n| -> Even n

/-- Two different integers share a distance of at least one between them. -/
theorem one_le_distances (x : K) {n k : Int} (h : k ≠ n) :
    1 ≤ |x - n| + |x - k| := by
  have habs : (1 : Int) ≤ |k - n| := Int.one_le_abs (sub_ne_zero.mpr h)
  have hcast : (1 : K) ≤ |(k : K) - n| := by exact_mod_cast habs
  calc (1 : K) ≤ |(k : K) - n| := hcast
    _ = |(x - n) - (x - k)| := by ring_nf
    _ ≤ |x - n| + |x - k| := abs_sub _ _

/-- Half a unit of error, taken only by an even integer, is enough. -/
theorem roundsToEven_of_le_half {x : K} {n : Int} (hle : |x - n| ≤ 1 / 2)
    (htie : |x - n| = 1 / 2 -> Even n) : RoundsToEven x n where
  nearest := by
    intro k
    by_cases hk : k = n
    · rw [hk]
    · have hsum := one_le_distances x hk
      linarith
  tie := by
    intro k hk heq
    have hsum := one_le_distances x hk
    have hhalf : |x - n| = 1 / 2 := by linarith
    exact htie hhalf

theorem roundsToEven_of_lt_half {x : K} {n : Int} (h : |x - n| < 1 / 2) :
    RoundsToEven x n :=
  roundsToEven_of_le_half h.le (fun heq => absurd heq h.ne)

/-! ## Integer and fractional part

Below, `n` is the integer part of the number and `t` its fractional part.
-/

theorem roundsToEven_down {n : Int} {t : K} (hnn : 0 ≤ t) (ht : t < 1 / 2) :
    RoundsToEven (n + t) n := by
  apply roundsToEven_of_lt_half
  rw [add_sub_cancel_left, abs_of_nonneg hnn]
  exact ht

theorem roundsToEven_up {n : Int} {t : K} (ht : 1 / 2 < t) (hlt : t < 1) :
    RoundsToEven (n + t) (n + 1) := by
  apply roundsToEven_of_lt_half
  push_cast
  rw [add_sub_add_left_eq_sub, abs_sub_comm, abs_of_pos (by linarith)]
  linarith

theorem roundsToEven_tie_down {n : Int} (heven : Even n) :
    RoundsToEven ((n : K) + 1 / 2) n := by
  apply roundsToEven_of_le_half
  · rw [add_sub_cancel_left, abs_of_pos (by norm_num)]
  · intro _
    exact heven

theorem roundsToEven_tie_up {n : Int} (hodd : ¬Even n) :
    RoundsToEven ((n : K) + 1 / 2) (n + 1) := by
  apply roundsToEven_of_le_half
  · push_cast
    rw [add_sub_add_left_eq_sub, abs_sub_comm, abs_of_pos (by norm_num)]
    norm_num
  · intro _
    exact Int.even_add_one.mpr hodd

/-! ## Quotients -/

/-- `a / b` rounded by the remainder of the integer division. -/
def divRoundEven (a b : Nat) : Nat :=
  if 2 * (a % b) = b then
    if (a / b) % 2 = 0 then a / b else a / b + 1
  else if b < 2 * (a % b) then a / b + 1
  else a / b

theorem divRoundEven_le (a b : Nat) : divRoundEven a b ≤ a / b + 1 := by
  unfold divRoundEven
  split
  · split <;> lia
  · split <;> lia

theorem cast_div_eq (a : Nat) {b : Nat} (hb : 0 < b) :
    (a : K) / b = (((a / b : Nat) : Int) : K) + ((a % b : Nat) : K) / b := by
  have hcast : (a : K) = b * (a / b : Nat) + (a % b : Nat) := by
    exact_mod_cast (Nat.div_add_mod a b).symm
  have hne : (b : K) ≠ 0 := by exact_mod_cast hb.ne'
  rw [Int.cast_natCast, div_eq_iff hne, add_mul, div_mul_cancel₀ _ hne, mul_comm _ (b : K)]
  exact hcast

theorem divRoundEven_rounds (a : Nat) {b : Nat} (hb : 0 < b) :
    RoundsToEven ((a : K) / b) (divRoundEven a b : Nat) := by
  have hpos : (0 : K) < b := by exact_mod_cast hb
  rw [cast_div_eq a hb]
  unfold divRoundEven
  split
  next htie =>
    have hhalf : ((a % b : Nat) : K) / b = 1 / 2 := by
      rw [div_eq_div_iff hpos.ne' two_ne_zero]
      exact_mod_cast (by lia : a % b * 2 = 1 * b)
    rw [hhalf]
    split
    next heven =>
      exact roundsToEven_tie_down (by exact_mod_cast Nat.even_iff.mpr heven)
    next hodd =>
      exact roundsToEven_tie_up (by exact_mod_cast fun h => hodd (Nat.even_iff.mp h))
  next =>
    split
    next habove =>
      apply roundsToEven_up
      · rw [div_lt_div_iff₀ two_pos hpos]
        exact_mod_cast (by lia : 1 * b < a % b * 2)
      · rw [div_lt_one hpos]
        exact_mod_cast Nat.mod_lt a hb
    next hbelow =>
      apply roundsToEven_down
      · positivity
      · rw [div_lt_div_iff₀ hpos two_pos]
        exact_mod_cast (by lia : a % b * 2 < 1 * b)

end Foundation
end GardHub
