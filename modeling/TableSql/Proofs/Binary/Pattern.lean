import Mathlib.Data.Rat.Cast.Order
import Mathlib.Tactic.IntervalCases
import Mathlib.Tactic.Linarith
import Mathlib.Tactic.Ring
import TableSql.Binary.Double

/-! The numbers that doubles are, as exact rationals, against the integers that their bits are. -/

namespace TableSql

open Binary

def Binary.Datum.toRat? : Datum → Option ℚ
  | .finite negative significand exponent =>
    some ((if negative then -1 else 1) * significand * 2 ^ exponent)
  | _ => none

namespace Double

def toRat? (d : Double) : Option ℚ := d.datum.toRat?

/-- The bits as an integer in two's complement. -/
def pattern (d : Double) : Int :=
  if d.bits.toNat < 2 ^ 63 then d.bits.toNat else d.bits.toNat - 2 ^ 64

def signWeight (negative : Bool) : Int := if negative then 2 ^ 63 else 0

theorem pattern_eq (d : Double) :
    d.pattern = (d.bits.toNat % 2 ^ 63 : Nat) - signWeight (decide (2 ^ 63 ≤ d.bits.toNat)) := by
  have hlt : d.bits.toNat < 2 ^ 64 := d.bits.toNat_lt
  unfold pattern signWeight
  by_cases hneg : 2 ^ 63 ≤ d.bits.toNat
  · rw [if_neg (by omega), decide_eq_true hneg, if_pos rfl]
    omega
  · rw [if_pos (by omega), decide_eq_false hneg, if_neg Bool.false_ne_true]
    omega

private theorem eq_zero_of_pattern_eq_zero {d : Double} (h : d.pattern = 0) : d = ⟨0⟩ := by
  have hlt : d.bits.toNat < 2 ^ 64 := d.bits.toNat_lt
  have hbits : d.bits.toNat = 0 := by
    unfold pattern at h
    split at h <;> omega
  obtain ⟨bits⟩ := d
  exact congrArg Double.mk (UInt64.toNat_inj.mp (hbits.trans UInt64.toNat_zero.symm))

/-- A finite number is a fraction of the least power of two, or it has a leading bit. -/
theorem toRat?_cases {d : Double} {x : ℚ} (h : d.toRat? = some x) :
    ∃ (negative : Bool) (significand : Nat) (power : Int),
      x = (if negative then -1 else 1) * significand * 2 ^ power ∧
      (power = -1074 ∧ significand < 2 ^ 52 ∧ d.pattern = significand - signWeight negative ∨
        -1074 ≤ power ∧ power ≤ 971 ∧ 2 ^ 52 ≤ significand ∧ significand < 2 ^ 53 ∧
          d.pattern = (power + 1074) * 2 ^ 52 + significand - signWeight negative) := by
  have hsign : Format.double.signBit = 2 ^ 63 := rfl
  have hinfinity : Format.double.infinity = 2047 * 2 ^ 52 := rfl
  have hleast : Format.double.least = -1074 := rfl
  have hfraction : twoPow Format.double.fractionBits = 2 ^ 52 := rfl
  have hpattern := d.pattern_eq
  unfold toRat? datum Format.datum at h
  dsimp only at h
  rw [hsign, hinfinity, hfraction, hleast] at h
  split at h
  · cases h
  · split at h
    · cases h
    · split at h
      · refine ⟨_, _, _, (Option.some.inj h).symm, .inl ⟨rfl, by omega, ?_⟩⟩
        rw [hpattern]
        congr 2
        omega
      · refine ⟨_, _, _, (Option.some.inj h).symm, .inr ?_⟩
        refine ⟨by omega, by omega, by omega, by omega, ?_⟩
        rw [hpattern]
        congr 1
        push_cast
        omega

private theorem mul_zpow_eq_iff (m n : Int) (power : Int) :
    (m : ℚ) * 2 ^ power = n ↔ m * 2 ^ power.toNat = n * 2 ^ (-power).toNat := by
  rcases le_total 0 power with hpower | hpower
  · lift power to ℕ using hpower
    have hneg : (-(power : Int)).toNat = 0 := by omega
    rw [hneg, pow_zero, mul_one, Int.toNat_natCast, zpow_natCast]
    exact_mod_cast Iff.rfl
  · obtain ⟨k, rfl⟩ : ∃ k : ℕ, power = -k := ⟨(-power).toNat, by omega⟩
    have hneg : (-(k : Int)).toNat = 0 := by omega
    rw [hneg, pow_zero, mul_one, neg_neg, Int.toNat_natCast, zpow_neg, zpow_natCast,
      mul_inv_eq_iff_eq_mul₀ (by positivity)]
    exact_mod_cast Iff.rfl

/-- Readings of a pattern that ought to give `factor` times the number: as an integer, and as
microseconds from 2000, counted from 1970, of a number of milliseconds. -/
def Reading (factor offset : Int) : Prop :=
  factor = 1 ∧ offset = 0 ∨ factor = 1000 ∧ offset = 946684800000000

section Powers

variable {factor offset sign weight m power : Int} (hreading : Reading factor offset)
  (hsign : sign = 1 ∧ weight = 0 ∨ sign = -1 ∧ weight = 2 ^ 63)
  (hlow : 2 ^ 52 ≤ m) (hhigh : m < 2 ^ 53)

include hreading hsign hlow hhigh

private theorem ne_of_power_small (hleast : -1074 ≤ power) (hpower : power ≤ -11) :
    factor * sign * m * 2 ^ power.toNat ≠
      (offset + ((power + 1074) * 2 ^ 52 + m - weight)) * 2 ^ (-power).toNat := by
  have hzero : power.toNat = 0 := by omega
  have hscale : (2 : Int) ^ 11 ≤ 2 ^ (-power).toNat := pow_le_pow_right₀ (by norm_num) (by omega)
  rw [hzero, pow_zero, mul_one]
  generalize (2 : Int) ^ (-power).toNat = scale at hscale
  obtain ⟨n, hn⟩ : ∃ n, n = offset + ((power + 1074) * 2 ^ 52 + m - weight) := ⟨_, rfl⟩
  rw [← hn]
  rcases hsign with ⟨rfl, rfl⟩ | ⟨rfl, rfl⟩
  · have hn_large : m ≤ n := by
      rcases hreading with ⟨rfl, rfl⟩ | ⟨rfl, rfl⟩ <;> omega
    have hproduct : n * 2 ^ 11 ≤ n * scale := mul_le_mul_of_nonneg_left hscale (by omega)
    rcases hreading with ⟨rfl, rfl⟩ | ⟨rfl, rfl⟩ <;> omega
  · have hn_small : n ≤ -(900 * 2 ^ 52) := by
      rcases hreading with ⟨rfl, rfl⟩ | ⟨rfl, rfl⟩ <;> omega
    have hproduct : n * scale ≤ n * 2 ^ 11 := mul_le_mul_of_nonpos_left hscale (by omega)
    rcases hreading with ⟨rfl, rfl⟩ | ⟨rfl, rfl⟩ <;> omega

private theorem ne_of_power_large (hpower : 13 ≤ power) (hgreatest : power ≤ 971) :
    factor * sign * m * 2 ^ power.toNat ≠
      (offset + ((power + 1074) * 2 ^ 52 + m - weight)) * 2 ^ (-power).toNat := by
  have hzero : (-power).toNat = 0 := by omega
  have hscale : (2 : Int) ^ 13 ≤ 2 ^ power.toNat := pow_le_pow_right₀ (by norm_num) (by omega)
  rw [hzero, pow_zero, mul_one]
  generalize (2 : Int) ^ power.toNat = scale at hscale
  have hproduct : m * 2 ^ 13 ≤ m * scale := mul_le_mul_of_nonneg_left hscale (by omega)
  generalize hp : m * scale = product at hproduct
  rw [mul_assoc _ m, hp]
  rcases hsign with ⟨rfl, rfl⟩ | ⟨rfl, rfl⟩ <;>
    rcases hreading with ⟨rfl, rfl⟩ | ⟨rfl, rfl⟩ <;> omega

/-- Of the few powers between, none has a significand that solves the equation. -/
theorem ne_of_power_middle (hfrom : -10 ≤ power) (hto : power ≤ 12) :
    factor * sign * m * 2 ^ power.toNat ≠
      (offset + ((power + 1074) * 2 ^ 52 + m - weight)) * 2 ^ (-power).toNat := by
  rcases hsign with ⟨rfl, rfl⟩ | ⟨rfl, rfl⟩ <;>
    rcases hreading with ⟨rfl, rfl⟩ | ⟨rfl, rfl⟩ <;>
    interval_cases power <;>
    simp only [Int.reduceToNat, Int.reduceNeg, neg_neg, pow_zero] <;> omega

end Powers

/-- No number is what its bits are as an integer but positive zero, and none is a number of
milliseconds that its bits count in microseconds. -/
theorem eq_zero_of_pattern {d : Double} {x : ℚ} {factor offset : Int} (h : d.toRat? = some x)
    (hreading : Reading factor offset) (heq : (factor : ℚ) * x = (offset + d.pattern : Int)) :
    factor = 1 ∧ d = ⟨0⟩ := by
  obtain ⟨negative, significand, power, rfl, hcases⟩ := toRat?_cases h
  obtain ⟨sign, hsign⟩ : ∃ sign : Int, sign = if negative then -1 else 1 := ⟨_, rfl⟩
  have hsigns : sign = 1 ∧ signWeight negative = 0 ∨ sign = -1 ∧ signWeight negative = 2 ^ 63 := by
    cases negative <;> simp [hsign, signWeight]
  have hscaled : factor * sign * significand * 2 ^ power.toNat =
      (offset + d.pattern) * 2 ^ (-power).toNat := by
    refine (mul_zpow_eq_iff _ _ power).mp ?_
    rw [← heq, hsign]
    push_cast
    ring
  rcases hcases with ⟨rfl, hlt, hpattern⟩ | ⟨hleast, hgreatest, hlow, hhigh, hpattern⟩
  · -- The number is less than one in size, so that both sides are zero.
    have hsmall : -(2 ^ 1074) < factor * sign * significand ∧
        factor * sign * significand < 2 ^ 1074 := by
      have hm : (significand : Int) < 2 ^ 52 := by exact_mod_cast hlt
      rcases hsigns with ⟨hs, -⟩ | ⟨hs, -⟩ <;> rcases hreading with ⟨rfl, -⟩ | ⟨rfl, -⟩ <;>
        rw [hs] <;> omega
    have hzero : offset + d.pattern = 0 := by
      have hone : ((-1074 : Int)).toNat = 0 := rfl
      have hpower : (-(-1074 : Int)).toNat = 1074 := rfl
      rw [hone, hpower, pow_zero, mul_one] at hscaled
      rw [hscaled] at hsmall
      clear hscaled heq
      generalize offset + d.pattern = n at hsmall
      omega
    rcases hreading with ⟨rfl, rfl⟩ | ⟨rfl, rfl⟩
    · exact ⟨rfl, eq_zero_of_pattern_eq_zero (by omega)⟩
    · rcases hsigns with ⟨-, hweight⟩ | ⟨-, hweight⟩ <;> omega
  · rw [hpattern] at hscaled
    have hlow' : (2 : Int) ^ 52 ≤ significand := by exact_mod_cast hlow
    have hhigh' : (significand : Int) < 2 ^ 53 := by exact_mod_cast hhigh
    rcases lt_or_ge power (-10) with hsmall | hfrom
    · exact absurd hscaled
        (ne_of_power_small hreading hsigns hlow' hhigh' hleast (by omega))
    · rcases lt_or_ge 12 power with hlarge | hto
      · exact absurd hscaled
          (ne_of_power_large hreading hsigns hlow' hhigh' (by omega) hgreatest)
      · exact absurd hscaled (ne_of_power_middle hreading hsigns hlow' hhigh' hfrom hto)

end Double

end TableSql
