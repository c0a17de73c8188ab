import Mathlib.Tactic.IntervalCases
import TableSql.Decimal.Integer

/-! Digits of numerals: padding with zeros changes neither that they are digits nor their value, and
a numeral is read within bounds exactly as its integer is checked against them. -/

namespace TableSql.Decimal

theorem toList_padded (width n : Nat) :
    (padded width n).toList =
      List.replicate (width - (Nat.toDigits 10 n).length) '0' ++ Nat.toDigits 10 n :=
  String.toList_ofList

theorem isDigit_of_mem_padded {width n : Nat} {c : Char} (h : c ∈ (padded width n).toList) :
    c.isDigit := by
  rw [toList_padded] at h
  rcases List.mem_append.mp h with hzero | hdigit
  · rw [List.eq_of_mem_replicate hzero]
    decide
  · exact Nat.isDigit_of_mem_toDigits (by decide) (by decide) hdigit

theorem ofDigitChars_padded (width n : Nat) :
    Nat.ofDigitChars 10 (padded width n).toList 0 = n := by
  rw [toList_padded, Nat.ofDigitChars_append, Nat.ofDigitChars_replicate_zero, Nat.mul_zero,
    Nat.ofDigitChars_ten_toDigits]

theorem le_length_padded (width n : Nat) : width ≤ (padded width n).toList.length := by
  rw [toList_padded, List.length_append, List.length_replicate]
  omega

theorem length_padded {width n : Nat} (hwidth : 0 < width) (h : n < 10 ^ width) :
    (padded width n).toList.length = width := by
  have hdigits : (Nat.toDigits 10 n).length ≤ width :=
    (Nat.length_toDigits_le_iff (by decide) hwidth).mpr h
  rw [toList_padded, List.length_append, List.length_replicate]
  omega

theorem exists_padded_eq_cons (width n : Nat) :
    ∃ c rest, (padded width n).toList = c :: rest ∧ c.isDigit := by
  cases hpadded : (padded width n).toList with
  | nil =>
    have hdigits : Nat.toDigits 10 n = [] := by
      rw [toList_padded] at hpadded
      exact (List.append_eq_nil_iff.mp hpadded).2
    exact absurd hdigits Nat.toDigits_ne_nil
  | cons c rest =>
    exact ⟨c, rest, rfl, isDigit_of_mem_padded (hpadded ▸ List.mem_cons_self)⟩

theorem exists_toDigits_eq_cons {n : Nat} (h : 0 < n) :
    ∃ c cs, Nat.toDigits 10 n = c :: cs ∧ c ≠ '0' := by
  induction n using Nat.strong_induction_on with
  | _ n ih =>
    rcases Nat.lt_or_ge n 10 with hlt | hge
    · refine ⟨n.digitChar, [], Nat.toDigits_of_lt_base hlt, ?_⟩
      interval_cases n <;> decide
    · obtain ⟨c, cs, hdigits, hc⟩ :=
        ih (n / 10) (Nat.div_lt_self h (by decide)) (Nat.div_pos hge (by decide))
      refine ⟨c, cs ++ [(n % 10).digitChar], ?_, hc⟩
      rw [Nat.toDigits_of_base_le (by decide) hge, hdigits, List.cons_append]

private theorem digit?_of_isDigit {c : Char} (h : c.isDigit) :
    digit? c = some (c.toNat - '0'.toNat) :=
  if_pos h

def ofMagnitude (negative : Bool) (n : Nat) : Int := if negative then -n else n

@[simp] theorem ofMagnitude_false (n : Nat) : ofMagnitude false n = n := rfl

@[simp] theorem ofMagnitude_true (n : Nat) : ofMagnitude true n = -n := rfl

@[simp] theorem ofMagnitude_zero (negative : Bool) : ofMagnitude negative 0 = 0 := by
  cases negative <;> rfl

private theorem ofMagnitude_step (negative : Bool) (n d : Nat) :
    (if negative then ofMagnitude negative n * 10 - d else ofMagnitude negative n * 10 + d) =
      ofMagnitude negative (10 * n + d) := by
  cases negative <;> simp <;> omega

def Bounds.HasZero (b : Bounds) : Prop := b.low ≤ 0 ∧ 0 ≤ b.high

section Read

variable {b : Bounds}

theorem Bounds.check_eq_ok {i j : Int} (h : b.check i = .ok j) : j = i := by
  unfold check at h
  split at h
  · cases h
  · split at h
    · cases h
    · exact (Except.ok.inj h).symm

/-- What is out of bounds stays so, on the same side, when its magnitude grows. -/
private theorem Bounds.check_error_of_le (hb : b.HasZero) {negative : Bool} {m n : Nat}
    {fault : IntegerFault} (hle : m ≤ n) (h : b.check (ofMagnitude negative m) = .error fault) :
    b.check (ofMagnitude negative n) = .error fault := by
  obtain ⟨hlow, hhigh⟩ := hb
  unfold check at h ⊢
  cases negative with
  | false =>
    rw [ofMagnitude_false, if_neg (by omega)] at h ⊢
    split at h
    · rwa [if_pos (by omega)]
    · cases h
  | true =>
    rw [ofMagnitude_true] at h ⊢
    split at h
    · rwa [if_pos (by omega)]
    · rw [if_neg (by omega)] at h
      cases h

theorem le_ofDigitChars (cs : List Char) (start : Nat) : start ≤ Nat.ofDigitChars 10 cs start := by
  rw [Nat.ofDigitChars_eq_ofDigitChars_zero]
  exact (Nat.le_mul_of_pos_left _ (Nat.pow_pos (by decide))).trans (Nat.le_add_right _ _)

/-- Digits are read as the number that they make with those before them. The check after each digit
finds no fault but that of the whole number. -/
theorem readDigits_eq_check (hb : b.HasZero) {negative : Bool} {cs : List Char}
    (hcs : ∀ c ∈ cs, c.isDigit) {start : Nat}
    (hstart : b.check (ofMagnitude negative start) = .ok (ofMagnitude negative start)) :
    readDigits b negative (ofMagnitude negative start) cs =
      b.check (ofMagnitude negative (Nat.ofDigitChars 10 cs start)) := by
  induction cs generalizing start with
  | nil => exact hstart.symm
  | cons c rest ih =>
    obtain ⟨hc, hrest⟩ := List.forall_mem_cons.mp hcs
    rw [readDigits, digit?_of_isDigit hc]
    dsimp only
    rw [ofMagnitude_step, Nat.ofDigitChars_cons]
    cases hstep : b.check (ofMagnitude negative (10 * start + (c.toNat - '0'.toNat))) with
    | error fault => exact (Bounds.check_error_of_le hb (le_ofDigitChars _ _) hstep).symm
    | ok j =>
      obtain rfl := Bounds.check_eq_ok hstep
      exact ih hrest hstep

theorem readDigits_toDigits (hb : b.HasZero) (negative : Bool) (n : Nat) :
    readDigits b negative 0 (Nat.toDigits 10 n) = b.check (ofMagnitude negative n) := by
  have hdigits : ∀ c ∈ Nat.toDigits 10 n, c.isDigit := fun c hc =>
    Nat.isDigit_of_mem_toDigits (by decide) (by decide) hc
  have hstart : b.check (ofMagnitude negative 0) = .ok (ofMagnitude negative 0) := by
    obtain ⟨hlow, hhigh⟩ := hb
    rw [ofMagnitude_zero, Bounds.check, if_neg (by omega), if_neg (by omega)]
  have hread := readDigits_eq_check hb hdigits hstart
  rwa [ofMagnitude_zero, Nat.ofDigitChars_ten_toDigits] at hread

private theorem readInteger_digit {text : String} {c : Char} {cs : List Char}
    (htext : text.toList = c :: cs) (hc : c.isDigit) :
    readInteger b text = readDigits b false 0 (c :: cs) := by
  have hplus : c ≠ '+' := by
    rintro rfl
    cases hc
  have hminus : c ≠ '-' := by
    rintro rfl
    cases hc
  unfold readInteger
  rw [htext]
  split <;> simp_all

private theorem readInteger_minus (hlow : b.low < 0) {text : String} {c : Char} {cs : List Char}
    (htext : text.toList = '-' :: c :: cs) :
    readInteger b text = readDigits b true 0 (c :: cs) := by
  unfold readInteger
  rw [htext]
  exact if_pos hlow

/-- The numeral of an integer is read as the integer where it is within the bounds, and is refused
otherwise, for the same fault as the integer. -/
theorem readInteger_signedNumeral (hlow : b.low < 0) (hhigh : 0 ≤ b.high) (i : Int) :
    readInteger b (signedNumeral i) = b.check i := by
  have hb : b.HasZero := ⟨hlow.le, hhigh⟩
  cases i with
  | ofNat n =>
    obtain ⟨c, cs, hcons⟩ := List.exists_cons_of_ne_nil (Nat.toDigits_ne_nil (n := n) (b := 10))
    have htext : (signedNumeral (Int.ofNat n)).toList = c :: cs :=
      String.toList_ofList.trans hcons
    have hc : c.isDigit := Nat.isDigit_of_mem_toDigits (by decide) (by decide)
      (hcons ▸ List.mem_cons_self)
    rw [readInteger_digit htext hc, ← hcons]
    exact readDigits_toDigits hb false n
  | negSucc n =>
    obtain ⟨c, cs, hcons⟩ := List.exists_cons_of_ne_nil
      (Nat.toDigits_ne_nil (n := n + 1) (b := 10))
    have htext : (signedNumeral (Int.negSucc n)).toList = '-' :: c :: cs := by
      simp [signedNumeral, numeral, hcons]
    rw [readInteger_minus hlow htext, ← hcons]
    exact readDigits_toDigits hb true (n + 1)

end Read

end TableSql.Decimal
