import TableSql.Calendar.Reading
import TableSql.Proofs.Decimal.Integer

/-! Dates are read back from their texts, whatever may follow. -/

namespace TableSql.Calendar
open Decimal Text

def StartsWithDigit (cs : List Char) : Prop := ∃ c ∈ cs.head?, c.isDigit

theorem isBlank_of_isDigit {c : Char} (h : c.isDigit) : isBlank c = false := by
  have hrange : 48 ≤ c.toNat ∧ c.toNat ≤ 57 := by
    simpa [Char.isDigit, UInt32.le_iff_toNat_le] using h
  simp [isBlank]
  omega

theorem dropBlanks_cons {c : Char} (h : isBlank c = false) (cs : List Char) :
    dropBlanks (c :: cs) = c :: cs := by
  simp [dropBlanks, h]

private theorem dropBlanks_padded (width n : Nat) (rest : List Char) :
    dropBlanks ((padded width n).toList ++ rest) = (padded width n).toList ++ rest := by
  obtain ⟨c, digits, hpadded, hc⟩ := exists_padded_eq_cons width n
  rw [hpadded, List.cons_append, dropBlanks_cons (isBlank_of_isDigit hc)]

/-- A run of digits is read as a whole where no digit follows it. -/
theorem takeWhile_digits {run rest : List Char} (hrun : ∀ c ∈ run, c.isDigit)
    (hrest : ¬ StartsWithDigit rest) : (run ++ rest).takeWhile Char.isDigit = run := by
  rw [List.takeWhile_append_of_pos hrun]
  have hnone : rest.takeWhile Char.isDigit = [] := by
    cases rest with
    | nil => rfl
    | cons c cs =>
      have hc : ¬ c.isDigit := fun h => hrest ⟨c, rfl, h⟩
      exact List.takeWhile_cons_of_neg hc
  rw [hnone, List.append_nil]

theorem digits?_padded {least width n : Nat} {most : Option Nat} {rest : List Char}
    (hleast : least ≤ width) (hmost : ∀ m ∈ most, (padded width n).toList.length ≤ m)
    (hrest : ¬ StartsWithDigit rest) :
    digits? least most ((padded width n).toList ++ rest) = some (n, rest) := by
  have hrun :=
    takeWhile_digits (fun c (hc : c ∈ (padded width n).toList) => isDigit_of_mem_padded hc) hrest
  have hlength := le_length_padded width n
  have hvalue :
      (padded width n).toList.foldl (fun n c => n * 10 + (c.toNat - '0'.toNat)) 0 = n := by
    refine Eq.trans ?_ (ofDigitChars_padded width n)
    simp only [Nat.ofDigitChars_eq_foldl, Nat.mul_comm]
  unfold digits?
  dsimp only
  rw [hrun]
  cases most with
  | none =>
    simp only [if_neg (show ¬ (padded width n).toList.length < least by omega), hvalue,
      List.drop_left]
  | some m =>
    have hlimit : (padded width n).toList.take m = (padded width n).toList :=
      List.take_of_length_le (hmost m rfl)
    simp only [hlimit, if_neg (show ¬ (padded width n).toList.length < least by omega), hvalue,
      List.drop_left]

private theorem not_startsWithDigit_nil : ¬ StartsWithDigit [] := by
  rintro ⟨c, hc, -⟩
  cases hc

theorem not_startsWithDigit_cons {c : Char} (h : c.isDigit = false) (cs : List Char) :
    ¬ StartsWithDigit (c :: cs) := by
  rintro ⟨d, hd, hdigit⟩
  obtain rfl := Option.some.inj hd
  rw [h] at hdigit
  cases hdigit

theorem short?_padded {n : Nat} (h : n < 100) {rest : List Char} (hrest : ¬ StartsWithDigit rest) :
    short? ((padded 2 n).toList ++ rest) = some (n, rest) := by
  rw [short?, dropBlanks_padded]
  refine digits?_padded (by decide) ?_ hrest
  intro m hm
  obtain rfl := Option.some.inj hm
  exact (length_padded (by decide) h).le

theorem mark?_cons {c : Char} (h : isBlank c = false) (rest : List Char) :
    mark? c (c :: rest) = some rest := by
  rw [mark?, dropBlanks_cons h, expect?, if_pos rfl]

private theorem year?_minus (cs : List Char) :
    year? ('-' :: cs) = (digits? 1 none cs).map fun (n, rest) => (-n, rest) := by
  rw [year?, dropBlanks_cons (by decide)]
  rfl

private theorem year?_plus (cs : List Char) :
    year? ('+' :: cs) = (digits? 1 none cs).map fun (n, rest) => (n, rest) := by
  rw [year?, dropBlanks_cons (by decide)]
  rfl

private theorem year?_digit {c : Char} (h : c.isDigit) (cs : List Char) :
    year? (c :: cs) = (digits? 1 (some 4) (c :: cs)).map fun (n, rest) => (n, rest) := by
  have hminus : c ≠ '-' := by
    rintro rfl
    cases h
  have hplus : c ≠ '+' := by
    rintro rfl
    cases h
  simp [year?, dropBlanks_cons (isBlank_of_isDigit h), hminus, hplus]

theorem year?_yearText (year : Int) {rest : List Char} (hrest : ¬ StartsWithDigit rest) :
    year? ((Date.yearText year).toList ++ rest) = some (year, rest) := by
  have hsigned : digits? 1 none ((padded 4 year.natAbs).toList ++ rest) =
      some (year.natAbs, rest) := digits?_padded (by decide) (by simp) hrest
  unfold Date.yearText
  split
  · next hneg =>
    have hyear : (-year.natAbs : Int) = year := by omega
    rw [String.toList_append, List.append_assoc, show "-".toList = ['-'] from rfl,
      List.singleton_append, year?_minus, hsigned, Option.map_some]
    simp only [hyear]
  · next hnonneg =>
    have hyear : (year.natAbs : Int) = year := by omega
    split
    · next hfour =>
      have hlength : (padded 4 year.natAbs).toList.length = 4 :=
        length_padded (by decide) (by omega)
      have hread : digits? 1 (some 4) ((padded 4 year.natAbs).toList ++ rest) =
          some (year.natAbs, rest) := digits?_padded (by decide) (by simp [hlength]) hrest
      obtain ⟨c, digits, hpadded, hc⟩ := exists_padded_eq_cons 4 year.natAbs
      rw [hpadded, List.cons_append] at hread ⊢
      rw [year?_digit hc, hread, Option.map_some]
      simp only [hyear]
    · rw [String.toList_append, List.append_assoc, show "+".toList = ['+'] from rfl,
        List.singleton_append, year?_plus, hsigned, Option.map_some]
      simp only [hyear]

theorem Date.fields_lt {d : Date} (h : d.isValid) : d.month < 100 ∧ d.day < 100 := by
  have hdays : daysInMonth d.year d.month ≤ 31 := by
    unfold daysInMonth
    split <;> (try split) <;> omega
  simp only [Date.isValid, Bool.and_eq_true, decide_eq_true_eq] at h
  omega

theorem Date.toList_text (d : Date) (rest : List Char) :
    d.text.toList ++ rest = (Date.yearText d.year).toList ++ '-' ::
      ((padded 2 d.month).toList ++ '-' :: ((padded 2 d.day).toList ++ rest)) := by
  have hhyphen : "-".toList = ['-'] := rfl
  rw [Date.text]
  simp only [String.toList_append, List.append_assoc, hhyphen, List.cons_append,
    List.nil_append]

theorem date?_text {d : Date} (h : d.isValid) {rest : List Char}
    (hrest : ¬ StartsWithDigit rest) : date? (d.text.toList ++ rest) = some (d, rest) := by
  obtain ⟨hmonth, hday⟩ := Date.fields_lt h
  have hhyphen := not_startsWithDigit_cons (c := '-') rfl
  rw [Date.toList_text, date?, year?_yearText _ (hhyphen _)]
  dsimp only [bind, Option.bind]
  rw [mark?_cons (by decide)]
  dsimp only
  rw [short?_padded hmonth (hhyphen _)]
  dsimp only
  rw [mark?_cons (by decide)]
  dsimp only
  rw [short?_padded hday hrest]
  rfl

theorem Date.ofText?_text {d : Date} (h : d.isValid) : Date.ofText? d.text = some d := by
  have hdate := date?_text h not_startsWithDigit_nil
  rw [List.append_nil] at hdate
  rw [Date.ofText?, hdate]
  dsimp only [bind, Option.bind]
  rw [if_pos (by simpa [dropBlanks] using h)]
  rfl

end TableSql.Calendar
