import Mathlib.Tactic.IntervalCases
import TableSql.Wire.Uuid

/-! Universally unique identifiers are read back from their texts. -/

namespace TableSql

namespace Text

theorem hexValue?_digitChar {n : Nat} (h : n < 16) : hexValue? (Nat.digitChar n) = some n := by
  interval_cases n <;> rfl

private theorem ofHex?_flatMap_hexDigits (bytes : List UInt8) :
    ofHex? (bytes.flatMap hexDigits) = some bytes := by
  induction bytes with
  | nil => rfl
  | cons b rest ih =>
    have hhigh : b.toNat / 16 < 16 := Nat.div_lt_of_lt_mul b.toNat_lt
    have hlow : b.toNat % 16 < 16 := Nat.mod_lt _ (by decide)
    have hbyte : UInt8.ofNat (b.toNat / 16 * 16 + b.toNat % 16) = b := by
      rw [Nat.div_add_mod', UInt8.ofNat_toNat]
    rw [List.flatMap_cons, hexDigits, List.cons_append, List.cons_append, List.nil_append, ofHex?,
      hexValue?_digitChar hhigh, hexValue?_digitChar hlow, ih]
    exact congrArg (fun b => some (b :: rest)) hbyte

private theorem length_flatMap_hexDigits (bytes : List UInt8) :
    (bytes.flatMap hexDigits).length = 2 * bytes.length := by
  induction bytes with
  | nil => rfl
  | cons b rest ih =>
    rw [List.flatMap_cons, List.length_append, ih, List.length_cons]
    change 2 + _ = _
    omega

end Text

namespace Wire.Uuid
open Text

private theorem exists_front (n : Nat) {cs : List Char} (h : n ≤ cs.length) :
    ∃ front rest, cs = front ++ rest ∧ front.length = n :=
  ⟨cs.take n, cs.drop n, (List.take_append_drop n cs).symm, List.length_take_of_le h⟩

private theorem ungrouped?_hyphen {cs : List Char} (h : cs.length = 32) :
    ungrouped? (hyphen cs) = some cs := by
  obtain ⟨a, rest, rfl, ha⟩ := exists_front 8 (show 8 ≤ cs.length by omega)
  rw [List.length_append] at h
  obtain ⟨b, rest, rfl, hb⟩ := exists_front 4 (show 4 ≤ rest.length by omega)
  rw [List.length_append] at h
  obtain ⟨c, rest, rfl, hc⟩ := exists_front 4 (show 4 ≤ rest.length by omega)
  rw [List.length_append] at h
  obtain ⟨d, e, rfl, hd⟩ := exists_front 4 (show 4 ≤ rest.length by omega)
  rw [List.length_append] at h
  have he : e.length = 12 := by omega
  simp (disch := omega) [hyphen, ungrouped?, List.drop_append, List.drop_eq_nil_of_le,
    List.getElem?_append_right, ha, hb, hc, hd, he]
  rfl

private theorem head?_text (bytes : List UInt8) : (text bytes).toList.head? ≠ some '\x7b' := by
  cases bytes with
  | nil => decide
  | cons b rest =>
    have hhigh : b.toNat / 16 < 16 := Nat.div_lt_of_lt_mul b.toNat_lt
    have hbrace : ∀ n < 16, Nat.digitChar n ≠ '\x7b' := by decide
    simp [text, hyphen, hexDigits, hbrace _ hhigh]

theorem ofText?_text {bytes : List UInt8} (h : bytes.length = 16) :
    ofText? (text bytes) = some bytes := by
  have hdigits : (bytes.flatMap hexDigits).length = 32 := by
    rw [length_flatMap_hexDigits, h]
  have hlength : (text bytes).toList.length = 36 := by
    simp [text, hyphen, hdigits]
  have hread : ungrouped? (text bytes).toList = some (bytes.flatMap hexDigits) := by
    rw [text, String.toList_ofList, ungrouped?_hyphen hdigits]
  unfold ofText?
  dsimp only
  rw [if_neg (by omega), if_neg (head?_text bytes), if_neg (by omega), hread, Option.bind_some,
    ofHex?_flatMap_hexDigits]

end Wire.Uuid

end TableSql
