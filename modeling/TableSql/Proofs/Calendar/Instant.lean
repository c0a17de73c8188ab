import TableSql.Proofs.Calendar.Date
import TableSql.Proofs.Calendar.Reading

/-! Instants and their texts: the fixed form reads an instant back from its text with the zone, and
the free form reads it back only where no zone is named. -/

namespace TableSql.Calendar
open Decimal Text

/-- Whether a time of day may end before a text: it goes on with neither a digit nor a point. -/
def EndsClock (cs : List Char) : Prop := ∀ c ∈ cs.head?, c.isDigit = false ∧ c ≠ '.'

theorem endsClock_nil : EndsClock [] := nofun

theorem endsClock_cons {c : Char} (hdigit : c.isDigit = false) (hpoint : c ≠ '.')
    (cs : List Char) : EndsClock (c :: cs) := by
  intro d hd
  obtain rfl := Option.some.inj hd
  exact ⟨hdigit, hpoint⟩

theorem EndsClock.not_startsWithDigit {cs : List Char} (h : EndsClock cs) :
    ¬ StartsWithDigit cs := by
  rintro ⟨c, hc, hdigit⟩
  rw [(h c hc).1] at hdigit
  cases hdigit

theorem digits?_exact {width n : Nat} (hwidth : 0 < width) (h : n < 10 ^ width) {rest : List Char}
    (hrest : ¬ StartsWithDigit rest) :
    digits? width (some width) ((padded width n).toList ++ rest) = some (n, rest) := by
  refine digits?_padded le_rfl ?_ hrest
  intro m hm
  obtain rfl := Option.some.inj hm
  exact (length_padded hwidth h).le

theorem expect?_cons (c : Char) (rest : List Char) : expect? c (c :: rest) = some rest :=
  if_pos rfl

private theorem fraction?_point {places n : Nat} (hpositive : 0 < places) (hmost : places ≤ 9)
    (h : n < 10 ^ places) {rest : List Char} (hrest : ¬ StartsWithDigit rest) :
    fraction? ('.' :: ((padded places n).toList ++ rest)) =
      some (n * tenPow (9 - places), rest) := by
  have hlength := length_padded hpositive h
  have hread : digits? 1 (some 9) ((padded places n).toList ++ rest) = some (n, rest) := by
    refine digits?_padded hpositive ?_ hrest
    intro m hm
    obtain rfl := Option.some.inj hm
    exact hlength.trans_le hmost
  have hplaces : ((padded places n).toList ++ rest).length - rest.length = places := by
    rw [List.length_append, hlength, Nat.add_sub_cancel]
  have hdrop : rest.dropWhile Char.isDigit = rest := by
    cases rest with
    | nil => rfl
    | cons c cs =>
      have hc : ¬ c.isDigit := fun hdigit => hrest ⟨c, rfl, hdigit⟩
      exact List.dropWhile_cons_of_neg hc
  rw [fraction?, hread]
  dsimp only [bind, Option.bind]
  rw [hplaces, hdrop]
  rfl

private theorem fraction?_of_endsClock {rest : List Char} (h : EndsClock rest) :
    fraction? rest = some (0, rest) := by
  unfold fraction?
  split
  · next cs => exact absurd rfl (h '.' rfl).2
  · rfl

namespace Instant

/-- No nanoseconds are shown by no text, and others by a point and so many places. -/
theorem fractionText_cases {nanos : Nat} (h : nanos < nanosPerSecond) :
    nanos = 0 ∧ fractionText nanos = "" ∨
    ∃ places n, 0 < places ∧ places ≤ 9 ∧ n < 10 ^ places ∧ n * tenPow (9 - places) = nanos ∧
      fractionText nanos = "." ++ padded places n := by
  unfold nanosPerSecond at h
  unfold fractionText
  split
  · next hzero => exact .inl ⟨hzero, rfl⟩
  · right
    split
    · next hmillis =>
      refine ⟨3, nanos / 1000000, by decide, by decide, by omega, ?_, rfl⟩
      rw [show tenPow (9 - 3) = 1000000 from rfl]
      omega
    · split
      · next hmicros =>
        refine ⟨6, nanos / 1000, by decide, by decide, by omega, ?_, rfl⟩
        rw [show tenPow (9 - 6) = 1000 from rfl]
        omega
      · exact ⟨9, nanos, by decide, by decide, by omega, Nat.mul_one nanos, rfl⟩

/-- The fraction is read with all its places, and what follows the seconds is no digit. -/
theorem fraction?_fractionText {nanos : Nat} (h : nanos < nanosPerSecond) {rest : List Char}
    (hrest : EndsClock rest) :
    fraction? ((fractionText nanos).toList ++ rest) = some (nanos, rest) ∧
      ¬ StartsWithDigit ((fractionText nanos).toList ++ rest) := by
  rcases fractionText_cases h with ⟨rfl, htext⟩ | ⟨places, n, hpos, hmost, hn, hnanos, htext⟩
  · rw [htext]
    exact ⟨fraction?_of_endsClock hrest, hrest.not_startsWithDigit⟩
  · rw [htext, String.toList_append, List.append_assoc, show ".".toList = ['.'] from rfl,
      List.singleton_append, fraction?_point hpos hmost hn hrest.not_startsWithDigit, hnanos]
    exact ⟨rfl, not_startsWithDigit_cons rfl _⟩

variable {t : Instant}

theorem secondOfDay_lt (t : Instant) : t.secondOfDay < 86400 := by
  unfold secondOfDay secondsPerDay
  omega

theorem date_isValid (h : t.isReached) : t.date.isValid := by
  obtain ⟨d, hd⟩ := Option.isSome_iff_exists.mp h
  have hdate : t.date = d := by
    unfold Date.ofDayNumber? at hd
    dsimp only at hd
    split at hd
    · exact Option.some.inj hd
    · cases hd
  rw [hdate]
  exact (Date.isValid_of_ofDayNumber? hd).1

/-- Outside a leap second, the fields of the text are those of the date and the time of day. -/
theorem toList_textWith (zone : String) (h : t.nanos < nanosPerSecond) :
    (t.textWith zone).toList = t.date.text.toList ++ 'T' ::
      ((padded 2 (t.secondOfDay / 3600)).toList ++ ':' ::
        ((padded 2 (t.secondOfDay / 60 % 60)).toList ++ ':' ::
          ((padded 2 (t.secondOfDay % 60)).toList ++
            ((fractionText t.nanos).toList ++ zone.toList)))) := by
  have hleap : ¬ nanosPerSecond ≤ t.nanos := not_le.mpr h
  have hmark : "T".toList = ['T'] := rfl
  have hcolon : ":".toList = [':'] := rfl
  unfold textWith clockText
  simp only [if_neg hleap, Nat.add_zero, String.toList_append, List.append_assoc, hmark, hcolon,
    List.cons_append, List.nil_append]

theorem instant?_fields (hreached : t.isReached) :
    instant? t.date (t.secondOfDay / 3600) (t.secondOfDay / 60 % 60) (t.secondOfDay % 60) t.nanos =
      some t := by
  have hday := t.secondOfDay_lt
  have hnumber : t.date.dayNumber = t.seconds / secondsPerDay := Date.dayNumber_ofDayNumber _
  have hvalid : (t.date.isValid && t.secondOfDay / 3600 ≤ 23 && t.secondOfDay / 60 % 60 ≤ 59 &&
      t.secondOfDay % 60 ≤ 60) = true := by
    simp only [date_isValid hreached, Bool.true_and, Bool.and_eq_true, decide_eq_true_eq]
    omega
  have hseconds : t.date.dayNumber * secondsPerDay + ((t.secondOfDay / 3600 : Nat) : Int) * 3600 +
      ((t.secondOfDay / 60 % 60 : Nat) : Int) * 60 + (min (t.secondOfDay % 60) 59 : Nat) =
      t.seconds := by
    rw [hnumber]
    unfold secondOfDay secondsPerDay
    omega
  rw [instant?, if_pos hvalid]
  dsimp only
  rw [hseconds, if_neg (by omega), Nat.add_zero]

section Text

variable (hreached : t.isReached) (hnanos : t.nanos < nanosPerSecond)
include hreached hnanos

/-- The fixed form reads an instant of a year of four digits back from its text. -/
theorem ofZonedText?_text (hlow : 0 ≤ t.date.year) (hhigh : t.date.year ≤ 9999) :
    ofZonedText? t.text = some t := by
  have hday := t.secondOfDay_lt
  obtain ⟨hmonth, hdate⟩ := Date.fields_lt (date_isValid hreached)
  have hyearText : Date.yearText t.date.year = padded 4 t.date.year.natAbs := by
    rw [Date.yearText, if_neg (by omega), if_pos hhigh]
  have hyear : ((t.date.year.natAbs : Nat) : Int) = t.date.year := by omega
  have hzone : EndsClock "Z".toList := endsClock_cons rfl (by decide) []
  obtain ⟨hfraction, hseconds⟩ := fraction?_fractionText hnanos hzone
  have hhyphen := not_startsWithDigit_cons (c := '-') rfl
  have hcolon := not_startsWithDigit_cons (c := ':') rfl
  have hfield : ∀ {n : Nat}, n < 100 → ∀ {rest : List Char}, ¬ StartsWithDigit rest →
      digits? 2 (some 2) ((padded 2 n).toList ++ rest) = some (n, rest) :=
    fun hn => digits?_exact (by decide) hn
  rw [ofZonedText?, text, toList_textWith "Z" hnanos, Date.toList_text, hyearText]
  -- One step for each field and each mark, in the order of the text; of the three marks between
  -- date and time of day the first is there.
  refine Option.bind_eq_some_iff.mpr ⟨_, digits?_exact (by decide) (by omega) (hhyphen _), ?_⟩
  refine Option.bind_eq_some_iff.mpr ⟨_, expect?_cons '-' _, ?_⟩
  refine Option.bind_eq_some_iff.mpr ⟨_, hfield hmonth (hhyphen _), ?_⟩
  refine Option.bind_eq_some_iff.mpr ⟨_, expect?_cons '-' _, ?_⟩
  refine Option.bind_eq_some_iff.mpr ⟨_, hfield hdate (not_startsWithDigit_cons rfl _), ?_⟩
  refine Option.bind_eq_some_iff.mpr ⟨_, rfl, ?_⟩
  refine Option.bind_eq_some_iff.mpr ⟨_, hfield (by omega) (hcolon _), ?_⟩
  refine Option.bind_eq_some_iff.mpr ⟨_, expect?_cons ':' _, ?_⟩
  refine Option.bind_eq_some_iff.mpr ⟨_, hfield (by omega) (hcolon _), ?_⟩
  refine Option.bind_eq_some_iff.mpr ⟨_, expect?_cons ':' _, ?_⟩
  refine Option.bind_eq_some_iff.mpr ⟨_, hfield (by omega) hseconds, ?_⟩
  refine Option.bind_eq_some_iff.mpr ⟨_, hfraction, ?_⟩
  refine Option.bind_eq_some_iff.mpr ⟨0, rfl, ?_⟩
  refine Option.bind_eq_some_iff.mpr ⟨t, ?_, ?_⟩
  · rw [hyear]
    exact instant?_fields hreached
  · rw [Int.sub_zero]
    rfl

/-- The free form reads an instant back from its text without a zone, and with none other. -/
theorem ofLocalText?_textWith {zone : String} (hzone : EndsClock zone.toList) :
    ofLocalText? (t.textWith zone) =
      if (dropBlanks zone.toList).isEmpty then some t else none := by
  have hday := t.secondOfDay_lt
  have hfield : ∀ {n : Nat}, n < 100 → ∀ rest,
      short? ((padded 2 n).toList ++ ':' :: rest) = some (n, ':' :: rest) :=
    fun hn rest => short?_padded hn (not_startsWithDigit_cons rfl rest)
  obtain ⟨hfraction, hseconds⟩ := fraction?_fractionText hnanos hzone
  rw [ofLocalText?, toList_textWith zone hnanos,
    date?_text (date_isValid hreached) (not_startsWithDigit_cons rfl _)]
  simp only [Option.bind_eq_bind, Option.bind_some, mark?_cons (show isBlank 'T' = false by decide),
    mark?_cons (show isBlank ':' = false by decide),
    hfield (show t.secondOfDay / 3600 < 100 by omega),
    hfield (show t.secondOfDay / 60 % 60 < 100 by omega),
    short?_padded (show t.secondOfDay % 60 < 100 by omega) hseconds, hfraction,
    instant?_fields hreached]

end Text

end Instant

end TableSql.Calendar
