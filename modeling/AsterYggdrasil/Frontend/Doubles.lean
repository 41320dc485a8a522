import Mathlib

/-!
# Doubles

The numbers of a script are doubles.  A natural number is rounded to 53 significant bits, a tie
to the even neighbour; what has no more bits is exact.
-/

namespace AsterYggdrasil.Doubles

/-- The double nearest to a natural number. -/
def nearest (n : Nat) : Nat :=
  if n < 2 ^ 53 then n
  else
    let unit := 2 ^ (n.log2 - 52)
    let quotient := n / unit
    let remainder := n % unit
    if unit < 2 * remainder || (2 * remainder == unit && quotient % 2 == 1) then
      (quotient + 1) * unit
    else quotient * unit

/-- The unit of a number with 53 bits divides it. -/
theorem unit_dvd {a e : Nat} (ha : a < 2 ^ 53) : 2 ^ ((a * 2 ^ e).log2 - 52) ∣ a * 2 ^ e := by
  by_cases hzero : a * 2 ^ e = 0
  · rw [hzero]
    exact Nat.dvd_zero _
  · have hle : (a * 2 ^ e).log2 - 52 ≤ e := by
      by_contra hlarge
      have hlog : 53 + e ≤ (a * 2 ^ e).log2 := by omega
      have hpow : 2 ^ (53 + e) ≤ a * 2 ^ e := (Nat.le_log2 hzero).mp hlog
      rw [Nat.pow_add] at hpow
      have hlt : a * 2 ^ e < 2 ^ 53 * 2 ^ e := Nat.mul_lt_mul_of_pos_right ha (by positivity)
      omega
    exact Nat.dvd_trans (Nat.pow_dvd_pow 2 hle) (Nat.dvd_mul_left _ a)

/-- **A number with 53 bits is exact.** -/
theorem nearest_exact {a e : Nat} (ha : a < 2 ^ 53) : nearest (a * 2 ^ e) = a * 2 ^ e := by
  have hdvd := unit_dvd (e := e) ha
  unfold nearest
  split
  · rfl
  · have hunit : 0 < 2 ^ ((a * 2 ^ e).log2 - 52) := by positivity
    generalize 2 ^ ((a * 2 ^ e).log2 - 52) = unit at *
    dsimp only
    rw [Nat.mod_eq_zero_of_dvd hdvd, if_neg, Nat.div_mul_cancel hdvd]
    simp only [Nat.mul_zero, Bool.or_eq_true, Bool.and_eq_true, decide_eq_true_eq, beq_iff_eq]
    omega

/-- The double nearest to an integer. -/
def nearestInt (z : Int) : Int := z.sign * nearest z.natAbs

/-- **Integers of 53 bits are exact.** -/
theorem nearestInt_exact {z : Int} (hz : z.natAbs < 2 ^ 53) : nearestInt z = z := by
  have hsame : nearest z.natAbs = z.natAbs := if_pos hz
  rw [nearestInt, hsame, Int.sign_mul_natAbs]

end AsterYggdrasil.Doubles
