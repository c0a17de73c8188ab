import Mathlib.Tactic.IntervalCases
import Mathlib.Tactic.Ring
import TableSql.Calendar.Date

/-! Day numbers and dates: the date of a day number is a day of the calendar, and has that day
number. -/

namespace TableSql.Calendar

/-- A day of the four hundred years lies in a century, in a cycle of four years and in a year of
the cycle. Only the last year of a cycle has a day 365, counted from the first of March, and then
not at the end of a century but the last. -/
theorem exists_cycle_of_dayOfEra {dayOfEra : Int} (hlow : 0 ≤ dayOfEra)
    (hhigh : dayOfEra ≤ 146096) :
    ∃ century cycle year day : Int, 0 ≤ century ∧ century ≤ 3 ∧ 25 * century ≤ cycle ∧
      cycle ≤ 25 * century + 24 ∧ 0 ≤ year ∧ year ≤ 3 ∧ 0 ≤ day ∧ day ≤ 365 ∧
      (day = 365 → year = 3 ∧ (cycle = 25 * century + 24 → century = 3)) ∧
      dayOfEra = 1461 * cycle - century + 365 * year + day ∧
      (dayOfEra - dayOfEra / 1460 + dayOfEra / 36524 - dayOfEra / 146096) / 365 =
        4 * cycle + year := by
  obtain ⟨century, hcentury⟩ : ∃ c, c = dayOfEra / 36524 - dayOfEra / 146096 := ⟨_, rfl⟩
  have hcenturies : 0 ≤ century ∧ century ≤ 3 := by omega
  have hfrom : 36524 * century ≤ dayOfEra := by omega
  have hto : dayOfEra ≤ 36524 * century + 36523 ∨ century = 3 ∧ dayOfEra = 146096 := by omega
  -- With a leap day for each century before it, a day counts in even cycles of 1461 days.
  obtain ⟨cycle, hcycle⟩ : ∃ q, q = (dayOfEra + century) / 1461 := ⟨_, rfl⟩
  obtain ⟨rest, hrest⟩ : ∃ s, s = (dayOfEra + century) % 1461 := ⟨_, rfl⟩
  have hsum : dayOfEra = 1461 * cycle + rest - century := by omega
  have hrests : 0 ≤ rest ∧ rest ≤ 1460 := by omega
  have hcycles : 25 * century ≤ cycle ∧ cycle ≤ 25 * century + 24 := by omega
  have hlast : rest = 1460 → cycle = 25 * century + 24 → century = 3 := by omega
  have hdays : dayOfEra - dayOfEra / 1460 + dayOfEra / 36524 - dayOfEra / 146096 =
      1461 * cycle + rest - dayOfEra / 1460 := by omega
  have hleap : dayOfEra / 1460 = cycle ∧ rest ≤ 1459 ∨
      dayOfEra / 1460 = cycle + 1 ∧ 1095 < rest := by omega
  rw [hdays]
  clear hdays hcentury hcycle hrest hto hfrom hlow hhigh
  by_cases hday : rest < 1460
  · refine ⟨century, cycle, rest / 365, rest % 365, ?_⟩
    omega
  · refine ⟨century, cycle, 3, 365, ?_⟩
    omega

namespace Date

/-- The date of a day of a year, both counted from the first of March. -/
def ofYearDay (year day : Int) : Date :=
  let month := (5 * day + 2) / 153
  ⟨if month < 10 then year else year + 1,
    (if month < 10 then month + 3 else month - 9).toNat,
    (day - (153 * month + 2) / 5 + 1).toNat⟩

/-- The days before a year that begins in March. -/
def daysBefore (year : Int) : Int := 365 * year + year / 4 - year / 100 + year / 400

private theorem daysBefore_cycle {era century cycle year : Int} (hc0 : 0 ≤ century)
    (hc1 : century ≤ 3) (hq0 : 25 * century ≤ cycle) (hq1 : cycle ≤ 25 * century + 24)
    (hy0 : 0 ≤ year)
    (hy1 : year ≤ 3) :
    daysBefore (4 * cycle + year + era * 400) =
      146097 * era + 1461 * cycle - century + 365 * year := by
  have hfour : (4 * cycle + year + era * 400) / 4 = cycle + era * 100 := by omega
  have hhundred : (4 * cycle + year + era * 400) / 100 = century + era * 4 := by omega
  have hera : (4 * cycle + year + era * 400) / 400 = era := by omega
  rw [daysBefore, hfour, hhundred, hera]
  omega

private theorem isLeapYear_cycle {era century cycle : Int} (hq0 : 25 * century ≤ cycle)
    (hq1 : cycle ≤ 25 * century + 24) (hlast : cycle = 25 * century + 24 → century = 3) :
    isLeapYear (4 * cycle + 3 + era * 400 + 1) := by
  have hfour : (4 * cycle + 3 + era * 400 + 1) % 4 = 0 := by omega
  have hcentury : (4 * cycle + 3 + era * 400 + 1) % 100 ≠ 0 ∨
      (4 * cycle + 3 + era * 400 + 1) % 400 = 0 := by omega
  simpa [isLeapYear, hfour] using hcentury

theorem exists_ofDayNumber_eq (n : Int) :
    ∃ year day : Int, 0 ≤ day ∧ day ≤ 365 ∧ (day = 365 → isLeapYear (year + 1)) ∧
      n + 719468 = daysBefore year + day ∧ ofDayNumber n = ofYearDay year day := by
  obtain ⟨era, hera⟩ : ∃ era, era = (n + 719468) / 146097 := ⟨_, rfl⟩
  obtain ⟨dayOfEra, hdayOfEra⟩ : ∃ day, day = (n + 719468) % 146097 := ⟨_, rfl⟩
  have hsum : n + 719468 = 146097 * era + dayOfEra := by omega
  obtain ⟨century, cycle, year, day, hc0, hc1, hq0, hq1, hy0, hy1, hd0, hd1, hleap, hdays, hyear⟩ :=
    exists_cycle_of_dayOfEra (show 0 ≤ dayOfEra by omega) (by omega)
  refine ⟨4 * cycle + year + era * 400, day, hd0, hd1, ?_, ?_, ?_⟩
  · intro hday
    obtain ⟨rfl, hcentury⟩ := hleap hday
    exact isLeapYear_cycle hq0 hq1 hcentury
  · rw [daysBefore_cycle hc0 hc1 hq0 hq1 hy0 hy1, hsum, hdays]
    ring
  · have hfour : (4 * cycle + year) / 4 = cycle := by
      clear hyear hdays hera hdayOfEra
      omega
    have hhundred : (4 * cycle + year) / 100 = century := by
      clear hyear hdays hera hdayOfEra
      omega
    have hday : dayOfEra - (365 * (4 * cycle + year) + cycle - century) = day := by
      rw [hdays]
      ring
    unfold ofDayNumber
    dsimp only
    rw [← hera, ← hdayOfEra, hyear, hfour, hhundred, hday]
    unfold ofYearDay
    dsimp only
    congr 1
    split <;> split <;> omega

/-- Months counted from March have 31 and 30 days in turn, but for two of 31 days after five
months. -/
theorem ofYearDay_cases (year : Int) {day : Int} (hlow : 0 ≤ day) (hhigh : day ≤ 365) :
    ∃ (month : Nat) (dayOfMonth : Nat), 1 ≤ month ∧ month ≤ 12 ∧ 1 ≤ dayOfMonth ∧
      ofYearDay year day = ⟨if month ≤ 2 then year + 1 else year, month, dayOfMonth⟩ ∧
      (153 * (((month : Int) + 9) % 12) + 2) / 5 + dayOfMonth - 1 = day ∧
      dayOfMonth ≤ (if month = 2 then 29 else if month = 4 ∨ month = 6 ∨ month = 9 ∨ month = 11
        then 30 else 31) ∧ (month = 2 → dayOfMonth = 29 → day = 365) := by
  obtain ⟨month, hmonth⟩ : ∃ m, m = (5 * day + 2) / 153 := ⟨_, rfl⟩
  have hmonths : 0 ≤ month ∧ month ≤ 11 := by omega
  refine ⟨(if month < 10 then month + 3 else month - 9).toNat,
    (day - (153 * month + 2) / 5 + 1).toNat, ?_⟩
  have heq : ofYearDay year day = ⟨if month < 10 then year else year + 1,
      (if month < 10 then month + 3 else month - 9).toNat,
      (day - (153 * month + 2) / 5 + 1).toNat⟩ := by
    rw [hmonth]
    rfl
  rw [heq]
  obtain ⟨hm0, hm1⟩ := hmonths
  clear heq
  interval_cases month <;> simp <;> omega

theorem ofYearDay_spec {year day : Int} (hlow : 0 ≤ day) (hhigh : day ≤ 365)
    (hleap : day = 365 → isLeapYear (year + 1)) :
    let d := ofYearDay year day
    1 ≤ d.month ∧ d.month ≤ 12 ∧ 1 ≤ d.day ∧ d.day ≤ daysInMonth d.year d.month ∧
      d.dayNumber = daysBefore year + day - 719468 := by
  obtain ⟨month, dayOfMonth, hm0, hm1, hd0, heq, hday, hd1, hlast⟩ :=
    ofYearDay_cases year hlow hhigh
  dsimp only
  rw [heq]
  refine ⟨hm0, hm1, hd0, ?_, ?_⟩
  · by_cases hfebruary : month = 2
    · subst hfebruary
      cases hyear : isLeapYear (year + 1) with
      | true => simpa [daysInMonth, hyear] using hd1
      | false =>
        have hday : day ≠ 365 := fun h => by simp [hyear] at hleap; exact hleap h
        have hshort : dayOfMonth ≠ 29 := fun h => hday (hlast rfl h)
        simp [daysInMonth, hyear] at hd1 ⊢
        omega
    · clear hlast hday heq
      interval_cases month <;> simp_all [daysInMonth]
  · have hyear : (if month ≤ 2 then (if month ≤ 2 then year + 1 else year) - 1
        else if month ≤ 2 then year + 1 else year) = year := by
      split <;> omega
    unfold dayNumber daysBefore
    dsimp only
    rw [hyear]
    omega

theorem dayNumber_ofDayNumber (n : Int) : (ofDayNumber n).dayNumber = n := by
  obtain ⟨year, day, hlow, hhigh, hleap, hsum, heq⟩ := exists_ofDayNumber_eq n
  obtain ⟨-, -, -, -, hnumber⟩ := ofYearDay_spec hlow hhigh hleap
  rw [heq, hnumber]
  omega

theorem isValid_of_ofDayNumber? {n : Int} {d : Date} (h : ofDayNumber? n = some d) :
    d.isValid ∧ d.dayNumber = n := by
  obtain ⟨year, day, hlow, hhigh, hleap, -, heq⟩ := exists_ofDayNumber_eq n
  obtain ⟨hm0, hm1, hd0, hd1, -⟩ := ofYearDay_spec hlow hhigh hleap
  rw [← heq] at hm0 hm1 hd0 hd1
  unfold ofDayNumber? at h
  dsimp only at h
  split at h
  · next hyears =>
    obtain rfl := Option.some.inj h
    simp only [Bool.and_eq_true, decide_eq_true_eq] at hyears
    refine ⟨?_, dayNumber_ofDayNumber n⟩
    simp [isValid, hyears, hm0, hm1, hd0, hd1]
  · cases h

/-- The years that are reached have fewer than a hundred million days on either side. -/
theorem dayNumber_bounds {d : Date} (h : d.isValid) :
    -97000000 ≤ d.dayNumber ∧ d.dayNumber ≤ 97000000 := by
  have hday : daysInMonth d.year d.month ≤ 31 := by
    unfold daysInMonth
    split
    · split <;> decide
    all_goals decide
  simp only [isValid, Bool.and_eq_true, decide_eq_true_eq] at h
  obtain ⟨⟨⟨⟨⟨hfirst, hlast⟩, hm0⟩, hm1⟩, hd0⟩, hd1⟩ := h
  unfold firstYear at hfirst
  unfold lastYear at hlast
  have hd2 := hd1.trans hday
  obtain ⟨year, hyear⟩ : ∃ y, y = if d.month ≤ 2 then d.year - 1 else d.year := ⟨_, rfl⟩
  have hbounds : -262144 ≤ year ∧ year ≤ 262142 := by
    split at hyear <;> omega
  unfold dayNumber
  dsimp only
  rw [← hyear]
  clear hyear hfirst hlast hd1 hday
  omega

end Date

end TableSql.Calendar
