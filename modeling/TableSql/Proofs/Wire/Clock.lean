import TableSql.Proofs.Calendar.Date
import TableSql.Proofs.Wire.Bytes
import TableSql.Wire.Clock

/-! Times and dates on the wire: what is read from it is written as it was, and the other way. -/

namespace TableSql.Wire
open Calendar

/-- A time that is read is reached, and its microseconds are divided into seconds and the rest. -/
theorem ofMicros_spec {count : Int} {t : Instant} (h : ofMicros count = .ok t) :
    t.isReached ∧ t.seconds = epochSeconds + count / 1000000 ∧
      t.nanos = (count % 1000000).toNat * 1000 := by
  unfold ofMicros at h
  dsimp only at h
  split at h
  · next hreached =>
    obtain rfl := Except.ok.inj h
    exact ⟨hreached, rfl, rfl⟩
  · cases h

theorem nanos_lt_of_ofMicros {count : Int} {t : Instant} (h : ofMicros count = .ok t) :
    t.nanos < nanosPerSecond := by
  obtain ⟨-, -, hnanos⟩ := ofMicros_spec h
  unfold nanosPerSecond
  omega

theorem micros_of_ofMicros {count : Int} {t : Instant} (h : ofMicros count = .ok t) :
    micros t = count := by
  obtain ⟨-, hseconds, hnanos⟩ := ofMicros_spec h
  have hsum : (t.seconds - epochSeconds) * nanosPerSecond + t.nanos = count * 1000 := by
    rw [hseconds, hnanos]
    unfold nanosPerSecond
    omega
  rw [micros, hsum, Int.mul_tdiv_cancel _ (by decide)]

/-- A time in whole microseconds, counted from 2000. -/
theorem micros_whole {t : Instant} {count : Nat} (hnanos : t.nanos = count * 1000) :
    micros t = (t.seconds - epochSeconds) * 1000000 + count := by
  have hsum : (t.seconds - epochSeconds) * nanosPerSecond + t.nanos =
      ((t.seconds - epochSeconds) * 1000000 + count) * 1000 := by
    rw [hnanos]
    unfold nanosPerSecond
    omega
  rw [micros, hsum, Int.mul_tdiv_cancel _ (by decide)]

/-- A time in whole microseconds is read as it was written. -/
theorem ofMicros_micros {t : Instant} (hreached : t.isReached) {count : Nat}
    (hnanos : t.nanos = count * 1000) (hcount : count < 1000000) :
    ofMicros (micros t) = .ok t := by
  have hmicros := micros_whole hnanos
  have hseconds : epochSeconds + micros t / 1000000 = t.seconds := by omega
  have hrest : (micros t % 1000000).toNat * 1000 = t.nanos := by omega
  unfold ofMicros
  dsimp only
  rw [hseconds, hrest, if_pos hreached]

/-- The microseconds of a time that is reached fit eight bytes. -/
theorem micros_bounds {t : Instant} (hreached : t.isReached) {count : Nat}
    (hnanos : t.nanos = count * 1000) (hcount : count < 1000000) :
    -(twoPow (8 * 8) : Int) ≤ 2 * micros t ∧ 2 * micros t < (twoPow (8 * 8) : Int) := by
  obtain ⟨d, hd⟩ := Option.isSome_iff_exists.mp hreached
  obtain ⟨hvalid, hnumber⟩ := Date.isValid_of_ofDayNumber? hd
  obtain ⟨hlow, hhigh⟩ := Date.dayNumber_bounds hvalid
  rw [hnumber] at hlow hhigh
  unfold secondsPerDay at hlow hhigh
  rw [micros_whole hnanos, show (twoPow (8 * 8) : Int) = 18446744073709551616 from rfl]
  unfold epochSeconds
  omega

theorem days_of_ofDays {count : Int} {d : Date} (h : ofDays count = .ok d) :
    days d = count ∧ d.isValid := by
  unfold ofDays at h
  cases hdate : Date.ofDayNumber? (count + epochDays) with
  | none =>
    rw [hdate] at h
    cases h
  | some date =>
    rw [hdate] at h
    obtain rfl := Except.ok.inj h
    obtain ⟨hvalid, hnumber⟩ := Date.isValid_of_ofDayNumber? hdate
    refine ⟨?_, hvalid⟩
    rw [days, hnumber]
    omega

end TableSql.Wire
