import TableSql.Proofs.Wire.Bytes
import TableSql.Wire.Decoding
import TableSql.Wire.Encoding

/-! Values of one scalar type: what is read from bytes of it, and what is written for it. -/

namespace TableSql.Wire
open Decimal

theorem decodeInteger_eq_ok_iff {width : Nat} {raw : Bytes} {v : Value} :
    decodeInteger width raw = .ok v ↔
      raw.length = width ∧ v = .int (Int64.ofInt (ofSigned raw)) := by
  unfold decodeInteger
  rw [bind_eq_ok_iff]
  constructor
  · rintro ⟨taken, htaken, h⟩
    obtain ⟨hlength, rfl⟩ := exactly_eq_ok_iff.mp htaken
    exact ⟨hlength, (Except.ok.inj h).symm⟩
  · rintro ⟨hlength, rfl⟩
    exact ⟨raw, exactly_eq_ok_iff.mpr ⟨hlength, rfl⟩, rfl⟩

theorem decodeInteger_signed {width : Nat} {i : Int64}
    (hlow : -(twoPow (8 * width) : Int) ≤ 2 * i.toInt)
    (hhigh : 2 * i.toInt < (twoPow (8 * width) : Int)) :
    decodeInteger width (signed width i.toInt) = .ok (.int i) := by
  refine decodeInteger_eq_ok_iff.mpr ⟨length_signed _ _, ?_⟩
  rw [ofSigned_signed hlow hhigh, Int64.ofInt_toInt]

theorem decodeInstant_eq_ok_iff {raw : Bytes} {v : Value} :
    decodeInstant raw = .ok v ↔
      raw.length = 8 ∧ ∃ t, ofMicros (ofSigned raw) = .ok t ∧ v = .timestamp t := by
  unfold decodeInstant
  rw [bind_eq_ok_iff]
  constructor
  · rintro ⟨taken, htaken, h⟩
    obtain ⟨hlength, rfl⟩ := exactly_eq_ok_iff.mp htaken
    obtain ⟨t, ht, h⟩ := bind_eq_ok_iff.mp h
    exact ⟨hlength, t, ht, (Except.ok.inj h).symm⟩
  · rintro ⟨hlength, t, ht, rfl⟩
    exact ⟨raw, exactly_eq_ok_iff.mpr ⟨hlength, rfl⟩, bind_eq_ok_iff.mpr ⟨t, ht, rfl⟩⟩

theorem decodeDate_eq_ok_iff {raw : Bytes} {v : Value} :
    decodeScalar .date raw = .ok v ↔
      raw.length = 4 ∧ ∃ d, ofDays (ofSigned raw) = .ok d ∧ v = .text d.text := by
  rw [decodeScalar, bind_eq_ok_iff]
  constructor
  · rintro ⟨taken, htaken, h⟩
    obtain ⟨hlength, rfl⟩ := exactly_eq_ok_iff.mp htaken
    obtain ⟨d, hd, h⟩ := bind_eq_ok_iff.mp h
    exact ⟨hlength, d, hd, (Except.ok.inj h).symm⟩
  · rintro ⟨hlength, d, hd, rfl⟩
    exact ⟨raw, exactly_eq_ok_iff.mpr ⟨hlength, rfl⟩, bind_eq_ok_iff.mpr ⟨d, hd, rfl⟩⟩

theorem narrow_eq_ok_iff {width : Nat} (hwidth : 0 < width) {i : Int} {bound : Option Bytes} :
    narrow width i = .ok bound ↔
      (-(twoPow (8 * width) : Int) ≤ 2 * i ∧ 2 * i < twoPow (8 * width)) ∧
        bound = some (signed width i) := by
  have hhalf : twoPow (8 * width) = 2 * twoPow (8 * width - 1) := by
    change 2 ^ (8 * width) = 2 * 2 ^ (8 * width - 1)
    rw [← pow_succ']
    congr 1
    omega
  unfold narrow Bounds.check Bounds.signed send
  dsimp only
  rw [hhalf]
  split
  · next j hj =>
    split at hj
    · cases hj
    · split at hj
      · cases hj
      · obtain rfl := Except.ok.inj hj
        constructor
        · intro h
          exact ⟨by push_cast; omega, (Except.ok.inj h).symm⟩
        · rintro ⟨-, rfl⟩
          rfl
  · next f hf =>
    constructor
    · intro h
      cases h
    · rintro ⟨hbounds, -⟩
      push_cast at hbounds
      rw [if_neg (by omega), if_neg (by omega)] at hf
      cases hf

end TableSql.Wire
