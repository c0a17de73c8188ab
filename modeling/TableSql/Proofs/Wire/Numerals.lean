import TableSql.Proofs.Decimal.Integer
import TableSql.Proofs.Wire.Scalar

/-! Integers and their numerals as parameters: one is bound exactly where the other is, and as the
same bytes. -/

namespace TableSql.Wire
open Decimal

def integerTypes : List (Scalar × Nat) := [(.int2, 2), (.int4, 4), (.int8, 8)]

private theorem signed_low_neg (bits : Nat) : (Bounds.signed bits).low < 0 := by
  have hpos := twoPow_pos (bits - 1)
  unfold Bounds.signed
  dsimp only
  omega

private theorem signed_high_nonneg (bits : Nat) : 0 ≤ (Bounds.signed bits).high := by
  have hpos := twoPow_pos (bits - 1)
  unfold Bounds.signed
  dsimp only
  omega

/-- What text is bound as by an integer type of so many bytes. -/
def sendNumeral (width : Nat) (s : String) : Bound := do
  send (signed width (← (readInteger (.signed (8 * width)) s).mapError .integer))

/-- A numeral is narrowed like its integer; only the faults have other names. -/
theorem sendNumeral_eq_ok_iff {width : Nat} {i : Int} {bound : Option Bytes} :
    sendNumeral width (signedNumeral i) = .ok bound ↔ narrow width i = .ok bound := by
  unfold sendNumeral narrow
  rw [readInteger_signedNumeral (signed_low_neg _) (signed_high_nonneg _)]
  cases hcheck : (Bounds.signed (8 * width)).check i with
  | error fault => exact iff_of_false nofun nofun
  | ok j => exact Iff.rfl

theorem integerTypes_cases {s : Scalar} {width : Nat} (h : (s, width) ∈ integerTypes) :
    s = .int2 ∧ width = 2 ∨ s = .int4 ∧ width = 4 ∨ s = .int8 ∧ width = 8 := by
  simpa only [integerTypes, List.mem_cons, Prod.mk.injEq, List.not_mem_nil, or_false] using h

section Integer

variable {s : Scalar} {width : Nat} (hs : (s, width) ∈ integerTypes)
include hs

private theorem width_pos_of_mem : 0 < width := by
  have hcases := integerTypes_cases hs
  omega

theorem encode_int_of_mem (i : Int64) :
    (Value.int i).encode (.scalar s) = narrow width i.toInt := by
  rcases integerTypes_cases hs with ⟨rfl, rfl⟩ | ⟨rfl, rfl⟩ | ⟨rfl, rfl⟩
  · rfl
  · rfl
  · -- No integer of 64 bits is out of the bounds of eight bytes.
    have hlow := i.le_toInt
    have hhigh := i.toInt_lt
    refine ((narrow_eq_ok_iff (by decide)).mpr ⟨?_, rfl⟩).symm
    rw [show (twoPow (8 * 8) : Int) = 2 ^ 64 from rfl]
    omega

private theorem encode_text_of_mem (text : String) :
    (Value.text text).encode (.scalar s) = sendNumeral width text := by
  rcases integerTypes_cases hs with ⟨rfl, rfl⟩ | ⟨rfl, rfl⟩ | ⟨rfl, rfl⟩ <;> rfl

private theorem decode_of_mem (bytes : Bytes) :
    Value.decode (.scalar s) bytes = decodeInteger width bytes := by
  rcases integerTypes_cases hs with ⟨rfl, rfl⟩ | ⟨rfl, rfl⟩ | ⟨rfl, rfl⟩ <;> rfl

/-- An integer is bound to an integer type exactly where it is in the range of the type, and is read
from the bytes again. -/
theorem encode_int_spec (i : Int64) :
    ((∃ bound, (Value.int i).encode (.scalar s) = .ok bound) ↔
      -2 ^ (8 * width - 1) ≤ i.toInt ∧ i.toInt < 2 ^ (8 * width - 1)) ∧
    ∀ bound, (Value.int i).encode (.scalar s) = .ok bound →
      ∃ bytes, bound = some bytes ∧ Value.decode (.scalar s) bytes = .ok (.int i) := by
  have hwidth := width_pos_of_mem hs
  have hhalf : (twoPow (8 * width) : Int) = 2 * 2 ^ (8 * width - 1) := by
    change ((2 ^ (8 * width) : Nat) : Int) = _
    rw [← pow_succ', Nat.sub_add_cancel (by omega)]
    push_cast
    rfl
  have hrange : (-(twoPow (8 * width) : Int) ≤ 2 * i.toInt ∧ 2 * i.toInt < twoPow (8 * width)) ↔
      -2 ^ (8 * width - 1) ≤ i.toInt ∧ i.toInt < 2 ^ (8 * width - 1) := by
    rw [hhalf]
    omega
  rw [encode_int_of_mem hs, ← hrange]
  refine ⟨⟨?_, fun h => ⟨_, (narrow_eq_ok_iff hwidth).mpr ⟨h, rfl⟩⟩⟩, fun bound hbound => ?_⟩
  · rintro ⟨bound, hbound⟩
    exact ((narrow_eq_ok_iff hwidth).mp hbound).1
  · obtain ⟨⟨hlow, hhigh⟩, rfl⟩ := (narrow_eq_ok_iff hwidth).mp hbound
    exact ⟨_, rfl, (decode_of_mem hs _).trans (decodeInteger_signed hlow hhigh)⟩

end Integer

/-- An integer and its numeral are bound alike to the types of integers and of text: as the same
bytes, or not at all. To an integer type they are bound exactly where the integer is in the range
of the type, and the bytes are read as the integer. -/
theorem numeral_binds_as_integer (i : Int64) {s : Scalar}
    (hs : s ∈ [Scalar.int2, .int4, .int8, .text, .varchar, .bpchar]) :
    let integer := (Value.int i).encode (.scalar s)
    let numeral := (Value.text (signedNumeral i.toInt)).encode (.scalar s)
    (∀ bound, integer = .ok bound ↔ numeral = .ok bound) ∧
    ∀ width, (s, width) ∈ integerTypes →
      ((∃ bound, integer = .ok bound) ↔
        -2 ^ (8 * width - 1) ≤ i.toInt ∧ i.toInt < 2 ^ (8 * width - 1)) ∧
      ∀ bound, integer = .ok bound →
        ∃ bytes, bound = some bytes ∧ Value.decode (.scalar s) bytes = .ok (.int i) := by
  intro integer numeral
  refine ⟨fun bound => ?_, fun width hwidth => encode_int_spec hwidth i⟩
  by_cases hinteger : ∃ width, (s, width) ∈ integerTypes
  · obtain ⟨width, hwidth⟩ := hinteger
    unfold integer numeral
    rw [encode_int_of_mem hwidth, encode_text_of_mem hwidth, sendNumeral_eq_ok_iff]
  · have htext : integer = numeral := by
      simp only [List.mem_cons, List.not_mem_nil, or_false] at hs
      rcases hs with rfl | rfl | rfl | rfl | rfl | rfl
      · exact absurd ⟨2, by decide⟩ hinteger
      · exact absurd ⟨4, by decide⟩ hinteger
      · exact absurd ⟨8, by decide⟩ hinteger
      · rfl
      · rfl
      · rfl
    rw [htext]

/-- The least integer of two bytes, and the one below it. -/
theorem least_small_integer_binds_as_numeral :
    (∃ bytes, (Value.text "-32768").encode (.scalar .int2) = .ok (some bytes) ∧
      Value.decode (.scalar .int2) bytes = .ok (.int (-32768))) ∧
    ¬ ∃ bound, (Value.text "-32769").encode (.scalar .int2) = .ok bound := by
  have hleast : signedNumeral (Int64.toInt (-32768)) = "-32768" := by decide +kernel
  have hbelow : signedNumeral (Int64.toInt (-32769)) = "-32769" := by decide +kernel
  obtain ⟨hsame, hspec⟩ := numeral_binds_as_integer (-32768) (s := .int2) (by decide)
  obtain ⟨hsame', hspec'⟩ := numeral_binds_as_integer (-32769) (s := .int2) (by decide)
  rw [hleast] at hsame
  rw [hbelow] at hsame'
  obtain ⟨hrange, hread⟩ := hspec 2 (by decide)
  obtain ⟨hrange', -⟩ := hspec' 2 (by decide)
  constructor
  · obtain ⟨bound, hbound⟩ := hrange.mpr (by decide)
    obtain ⟨bytes, rfl, hbytes⟩ := hread bound hbound
    exact ⟨bytes, (hsame _).mp hbound, hbytes⟩
  · rintro ⟨bound, hbound⟩
    exact absurd (hrange'.mp ⟨bound, (hsame' bound).mpr hbound⟩) (by decide)

end TableSql.Wire
