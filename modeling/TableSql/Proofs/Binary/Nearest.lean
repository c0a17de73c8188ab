import Mathlib.Algebra.Order.Ring.Nat
import TableSql.Binary.Double

/-! Integers that are rounded to doubles: those of 64 bits are near finite numbers. -/

namespace TableSql

namespace Binary

theorem roundEven_le (num den : Nat) : roundEven num den ≤ num / den + 1 := by
  unfold roundEven
  dsimp only
  split
  · omega
  · split <;> omega

private theorem floorLog_one {num : Nat} (h : num ≠ 0) : floorLog num 1 = num.log2 := by
  have hle : twoPow num.log2 ≤ num := Nat.log2_self_le h
  have hguess : (num.log2 : Int) - (Nat.log2 1 : Nat) = num.log2 := Int.sub_zero _
  unfold floorLog
  dsimp only
  rw [hguess, if_pos (Int.natCast_nonneg _), Int.toNat_natCast, Nat.one_mul, decide_eq_true hle,
    if_pos rfl]

/-- An integer scaled to a leading bit of weight `2 ^ 52` rounds to 53 bits, or to the next power
of two. -/
theorem roundScaled_le (num : Nat) : roundScaled num 1 (num.log2 - 52) ≤ 2 ^ 53 := by
  have hlt : num < 2 ^ (num.log2 + 1) := Nat.lt_log2_self
  unfold roundScaled
  split
  · obtain ⟨k, hk⟩ : ∃ k, num.log2 = 52 + k := ⟨num.log2 - 52, by omega⟩
    have hpower : ((num.log2 : Int) - 52).toNat = k := by omega
    have hquotient : num / 2 ^ k < 2 ^ 53 := by
      refine Nat.div_lt_of_lt_mul (hlt.trans_eq ?_)
      rw [hk, ← pow_add]
      congr 1
      omega
    rw [hpower, Nat.one_mul]
    exact (roundEven_le num _).trans hquotient
  · obtain ⟨k, hk⟩ : ∃ k, 52 = num.log2 + k := ⟨52 - num.log2, by omega⟩
    have hpower : (-((num.log2 : Int) - 52)).toNat = k := by omega
    have hproduct : num * 2 ^ k < 2 ^ 53 := by
      refine (Nat.mul_lt_mul_of_pos_right hlt (Nat.two_pow_pos k)).trans_eq ?_
      rw [← pow_add]
      congr 1
      omega
    rw [hpower]
    refine (roundEven_le _ 1).trans ?_
    rw [Nat.div_one]
    exact hproduct

private theorem nearest_lt_infinity {num : Nat} (h : num < 2 ^ 64) :
    Format.double.nearest num 1 < Format.double.infinity := by
  have hinfinity : Format.double.infinity = 2047 * 2 ^ 52 := rfl
  have hleast : Format.double.least = -1074 := rfl
  have hfraction : Format.double.fractionBits = 52 := rfl
  unfold Format.nearest
  split
  · decide
  · next hnum =>
    have hlog : num.log2 < 64 := (Nat.log2_lt hnum).mpr h
    have hexponent : max (-1074) ((num.log2 : Int) - (52 : Nat)) = num.log2 - 52 := by omega
    have hpower : ((num.log2 : Int) - 52 - -1074).toNat = num.log2 + 1022 := by omega
    have hround := roundScaled_le num
    rw [hinfinity, hleast, hfraction, floorLog_one hnum]
    dsimp only
    rw [hexponent, hpower]
    refine (Nat.min_le_right _ _).trans_lt ?_
    change (num.log2 + 1022) * 2 ^ 52 + _ < _
    omega

end Binary

namespace Double
open Binary

theorem isFinite_ofBits (negative : Bool) {magnitude : Nat}
    (h : magnitude < Format.double.infinity) :
    (ofBits (Format.double.signed negative magnitude)).isFinite := by
  have hsign : Format.double.signBit = 2 ^ 63 := rfl
  have hinfinity : Format.double.infinity = 2047 * 2 ^ 52 := rfl
  have hbits : (ofBits (Format.double.signed negative magnitude)).bits.toNat % 2 ^ 63 =
      magnitude := by
    unfold ofBits Format.signed
    rw [UInt64.toNat_ofNat', hsign]
    split <;> omega
  unfold isFinite datum Format.datum
  dsimp only
  rw [hsign, hbits, if_neg (by omega), if_neg (by omega)]
  by_cases hfield : magnitude / twoPow Format.double.fractionBits = 0
  · rw [if_pos hfield]
  · rw [if_neg hfield]

theorem isFinite_ofInt {i : Int} (h : i.natAbs < 2 ^ 64) : (ofInt i).isFinite :=
  isFinite_ofBits _ (nearest_lt_infinity h)

end Double

end TableSql
