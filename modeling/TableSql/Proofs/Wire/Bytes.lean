import Mathlib.Tactic.Ring
import TableSql.Proofs.Outcome
import TableSql.Wire.Bytes

/-! Integers and their bytes: each is had back from the other, and integers are taken from the
front of longer bytes. -/

namespace TableSql.Wire

theorem twoPow_bits_succ (width : Nat) : twoPow (8 * (width + 1)) = 256 * twoPow (8 * width) := by
  change 2 ^ (8 * (width + 1)) = 256 * 2 ^ (8 * width)
  rw [Nat.mul_succ, pow_add]
  omega

theorem twoPow_pos (n : Nat) : 0 < twoPow n := Nat.two_pow_pos n

@[simp] theorem length_bigEndian (width n : Nat) : (bigEndian width n).length = width := by
  induction width with
  | zero => rfl
  | succ width ih => rw [bigEndian, List.length_cons, ih]

@[simp] theorem length_signed (width : Nat) (i : Int) : (signed width i).length = width :=
  length_bigEndian _ _

/-- What is beyond the lowest bytes does not count. -/
theorem bigEndian_add_mul (width n k : Nat) :
    bigEndian width (n + k * twoPow (8 * width)) = bigEndian width n := by
  induction width generalizing k with
  | zero => rfl
  | succ width ih =>
    have hsum : n + k * twoPow (8 * (width + 1)) = n + k * 256 * twoPow (8 * width) := by
      rw [twoPow_bits_succ, Nat.mul_assoc]
    have hbyte : (n + k * 256 * twoPow (8 * width)) / twoPow (8 * width) =
        n / twoPow (8 * width) + k * 256 := Nat.add_mul_div_right _ _ (twoPow_pos _)
    rw [hsum, bigEndian, bigEndian, ih, hbyte]
    congr 1
    apply UInt8.toNat_inj.mp
    simp

private theorem foldl_bytes (bytes : Bytes) (n : Nat) :
    bytes.foldl (fun n b => n * 256 + b.toNat) n =
      n * twoPow (8 * bytes.length) + ofBigEndian bytes := by
  induction bytes generalizing n with
  | nil => simp [ofBigEndian]
  | cons b rest ih =>
    rw [ofBigEndian, List.foldl_cons, List.foldl_cons, ih, ih (0 * 256 + b.toNat),
      List.length_cons, twoPow_bits_succ]
    ring

theorem ofBigEndian_cons (b : UInt8) (rest : Bytes) :
    ofBigEndian (b :: rest) = b.toNat * twoPow (8 * rest.length) + ofBigEndian rest := by
  have h := foldl_bytes rest b.toNat
  rw [ofBigEndian, List.foldl_cons, Nat.zero_mul, Nat.zero_add, h]

theorem ofBigEndian_lt (bytes : Bytes) : ofBigEndian bytes < twoPow (8 * bytes.length) := by
  induction bytes with
  | nil => exact Nat.one_pos
  | cons b rest ih =>
    have hb : (b.toNat + 1) * twoPow (8 * rest.length) ≤ 256 * twoPow (8 * rest.length) :=
      Nat.mul_le_mul_right _ b.toNat_lt
    rw [Nat.succ_mul] at hb
    rw [ofBigEndian_cons, List.length_cons, twoPow_bits_succ]
    omega

theorem ofBigEndian_bigEndian {width n : Nat} (h : n < twoPow (8 * width)) :
    ofBigEndian (bigEndian width n) = n := by
  induction width generalizing n with
  | zero =>
    have hzero : n = 0 := by simpa using h
    rw [hzero]
    rfl
  | succ width ih =>
    let high := n / twoPow (8 * width)
    have hpos := twoPow_pos (8 * width)
    have hhigh : high < 256 := by
      rw [twoPow_bits_succ, Nat.mul_comm] at h
      exact Nat.div_lt_of_lt_mul h
    have hsplit : n = n % twoPow (8 * width) + high * twoPow (8 * width) :=
      (Nat.mod_add_div' _ _).symm
    have hlow : bigEndian width n = bigEndian width (n % twoPow (8 * width)) := by
      conv_lhs => rw [hsplit]
      exact bigEndian_add_mul _ _ _
    have hbyte : (UInt8.ofNat high).toNat = high := by
      rw [UInt8.toNat_ofNat', Nat.mod_eq_of_lt hhigh]
    rw [bigEndian, ofBigEndian_cons, length_bigEndian, hbyte, hlow, ih (Nat.mod_lt _ hpos)]
    omega

theorem bigEndian_ofBigEndian (bytes : Bytes) :
    bigEndian bytes.length (ofBigEndian bytes) = bytes := by
  induction bytes with
  | nil => rfl
  | cons b rest ih =>
    have hdiv : (ofBigEndian rest + b.toNat * twoPow (8 * rest.length)) /
        twoPow (8 * rest.length) = b.toNat := by
      rw [Nat.add_mul_div_right _ _ (twoPow_pos _), Nat.div_eq_of_lt (ofBigEndian_lt rest),
        Nat.zero_add]
    rw [List.length_cons, bigEndian, ofBigEndian_cons, Nat.add_comm, hdiv, bigEndian_add_mul, ih,
      UInt8.ofNat_toNat]

/-- Two's complement holds the numbers from minus a half to below a half of all patterns. -/
theorem ofSigned_bounds (bytes : Bytes) :
    -(twoPow (8 * bytes.length) : Int) ≤ 2 * ofSigned bytes ∧
      2 * ofSigned bytes < twoPow (8 * bytes.length) := by
  have hlt := ofBigEndian_lt bytes
  unfold ofSigned
  dsimp only
  split <;> constructor <;> omega

theorem signed_ofSigned (bytes : Bytes) : signed bytes.length (ofSigned bytes) = bytes := by
  have hlt := ofBigEndian_lt bytes
  have hmod : (ofSigned bytes % (twoPow (8 * bytes.length) : Nat)).toNat = ofBigEndian bytes := by
    unfold ofSigned
    dsimp only
    split
    · rw [Int.emod_eq_of_lt (by omega) (by omega), Int.toNat_natCast]
    · rw [Int.sub_emod_right, Int.emod_eq_of_lt (by omega) (by omega), Int.toNat_natCast]
  rw [signed, hmod, bigEndian_ofBigEndian]

theorem ofSigned_signed {width : Nat} {i : Int} (hlow : -(twoPow (8 * width) : Int) ≤ 2 * i)
    (hhigh : 2 * i < twoPow (8 * width)) : ofSigned (signed width i) = i := by
  have hpos := twoPow_pos (8 * width)
  have hnonneg : 0 ≤ i % (twoPow (8 * width) : Nat) := Int.emod_nonneg _ (by omega)
  have hlt : i % (twoPow (8 * width) : Nat) < twoPow (8 * width) :=
    Int.emod_lt_of_pos _ (by omega)
  have hread : ofBigEndian (signed width i) = (i % (twoPow (8 * width) : Nat)).toNat :=
    ofBigEndian_bigEndian (by omega)
  rw [ofSigned, hread, length_signed]
  by_cases hi : 0 ≤ i
  · rw [Int.emod_eq_of_lt hi (by omega)]
    split <;> omega
  · have hmod : i % (twoPow (8 * width) : Nat) = i + twoPow (8 * width) := by
      rw [← Int.add_emod_right, Int.emod_eq_of_lt (by omega) (by omega)]
    rw [hmod]
    split <;> omega

theorem take_eq_ok_iff {width : Nat} {bytes front rest : Bytes} :
    take width bytes = .ok (front, rest) ↔ bytes = front ++ rest ∧ front.length = width := by
  unfold take
  constructor
  · intro h
    split at h
    · cases h
    · next hlength =>
      rw [List.splitAt_eq] at h
      obtain ⟨rfl, rfl⟩ := Prod.mk.inj (Except.ok.inj h)
      refine ⟨(List.take_append_drop _ _).symm, ?_⟩
      rw [List.length_take]
      omega
  · rintro ⟨rfl, rfl⟩
    rw [if_neg (by simp), List.splitAt_eq, List.take_left, List.drop_left]

theorem exactly_eq_ok_iff {width : Nat} {extra : Fault} {bytes taken : Bytes} :
    exactly width extra bytes = .ok taken ↔ bytes.length = width ∧ taken = bytes := by
  unfold exactly
  rw [bind_eq_ok_iff]
  constructor
  · rintro ⟨⟨front, rest⟩, htake, h⟩
    obtain ⟨rfl, rfl⟩ := take_eq_ok_iff.mp htake
    cases rest with
    | nil =>
      obtain rfl := Except.ok.inj h
      simp
    | cons b rest => cases h
  · rintro ⟨hlength, rfl⟩
    exact ⟨(taken, []), take_eq_ok_iff.mpr ⟨(List.append_nil _).symm, hlength⟩, rfl⟩

theorem takeInt_eq_ok_iff {bytes rest : Bytes} {i : Int} :
    takeInt bytes = .ok (i, rest) ↔
      ∃ front, bytes = front ++ rest ∧ front.length = 4 ∧ i = ofSigned front := by
  unfold takeInt
  rw [bind_eq_ok_iff]
  constructor
  · rintro ⟨⟨front, after⟩, htake, h⟩
    obtain ⟨rfl, hlength⟩ := take_eq_ok_iff.mp htake
    obtain ⟨rfl, rfl⟩ := Prod.mk.inj (Except.ok.inj h)
    exact ⟨front, rfl, hlength, rfl⟩
  · rintro ⟨front, rfl, hlength, rfl⟩
    exact ⟨(front, rest), take_eq_ok_iff.mpr ⟨rfl, hlength⟩, rfl⟩

theorem bounds_of_takeInt {bytes rest : Bytes} {i : Int} (h : takeInt bytes = .ok (i, rest)) :
    -2147483648 ≤ i ∧ i < 2147483648 := by
  obtain ⟨front, -, hlength, rfl⟩ := takeInt_eq_ok_iff.mp h
  have hbounds := ofSigned_bounds front
  rw [hlength, show (twoPow (8 * 4) : Int) = 4294967296 from rfl] at hbounds
  omega

theorem takeInt_signed {i : Int} (hlow : -2147483648 ≤ i) (hhigh : i < 2147483648) (rest : Bytes) :
    takeInt (signed 4 i ++ rest) = .ok (i, rest) := by
  have hfour : (twoPow (8 * 4) : Int) = 4294967296 := rfl
  have hread : ofSigned (signed 4 i) = i := ofSigned_signed (by omega) (by omega)
  exact takeInt_eq_ok_iff.mpr ⟨signed 4 i, rfl, length_signed _ _, hread.symm⟩

end TableSql.Wire
