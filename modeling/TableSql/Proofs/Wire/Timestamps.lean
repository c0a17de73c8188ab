import TableSql.Proofs.Calendar.Instant
import TableSql.Proofs.Value.Json
import TableSql.Proofs.Wire.Clock
import TableSql.Proofs.Wire.Scalar

/-! Timestamps by way of JSON: the text of one, which names its zone, is bound as the same bytes to
a timestamp with time zone, and refused for a timestamp without. -/

namespace TableSql.Wire
open Calendar

theorem encode_text_timestamptz {s : String} {t : Instant}
    (h : Instant.ofZonedText? s = some t) :
    (Value.text s).encode (.scalar .timestamptz) = .ok (some (signed 8 (micros t))) := by
  change (do send (signed 8 (micros (← required .date (Instant.ofZonedText? s)))) : Bound) = _
  rw [h]
  rfl

theorem encode_text_timestamp (s : String) :
    (Value.text s).encode (.scalar .timestamp) =
      match Instant.ofLocalText? s with
      | some t => .ok (some (signed 8 (micros t)))
      | none => .error .date := by
  change (do send (signed 8 (micros (← required .date (Instant.ofLocalText? s)))) : Bound) = _
  cases Instant.ofLocalText? s <;> rfl

theorem decode_time {s : Scalar} (hs : s = .timestamp ∨ s = .timestamptz) (raw : Bytes) :
    Value.decode (.scalar s) raw = decodeInstant raw := by
  rcases hs with rfl | rfl <;> rfl

/-- A timestamp that is read from a column of either type becomes a text in JSON. Bound to a
timestamp with time zone, the text gives the bytes of the column. A timestamp without refuses it,
for no more than the `Z` at its end. -/
theorem timestamp_text_binds_with_zone {s : Scalar} (hs : s = .timestamp ∨ s = .timestamptz)
    {raw : Bytes} {t : Instant} (hread : Value.decode (.scalar s) raw = .ok (.timestamp t))
    (hlow : 0 ≤ t.date.year) (hhigh : t.date.year ≤ 9999) :
    ∃ text, Value.decoder.ofText (Value.timestamp t).toJson.text = .ok (.text text) ∧
      (Value.text text).encode (.scalar .timestamptz) = .ok (some raw) ∧
      (Value.text text).encode (.scalar .timestamp) = .error .date ∧
      ∃ bare, text = bare ++ "Z" ∧
        (Value.text bare).encode (.scalar .timestamp) = .ok (some raw) := by
  rw [decode_time hs] at hread
  obtain ⟨hlength, t', ht, heq⟩ := decodeInstant_eq_ok_iff.mp hread
  obtain rfl := Value.timestamp.inj heq
  obtain ⟨hreached, -, -⟩ := ofMicros_spec ht
  have hnanos := nanos_lt_of_ofMicros ht
  have hraw : signed 8 (micros t) = raw := by
    rw [micros_of_ofMicros ht, ← hlength, signed_ofSigned]
  have hzone : EndsClock "Z".toList := endsClock_cons rfl (by decide) []
  refine ⟨t.text, Value.decoder_ofText_string t.text, ?_, ?_, t.textWith "", ?_, ?_⟩
  · rw [encode_text_timestamptz (Instant.ofZonedText?_text hreached hnanos hlow hhigh), hraw]
  · rw [encode_text_timestamp, Instant.text, Instant.ofLocalText?_textWith hreached hnanos hzone]
    rfl
  · simp only [Instant.text, Instant.textWith, String.append_empty]
  · have hnone : EndsClock "".toList := endsClock_nil
    rw [encode_text_timestamp, Instant.ofLocalText?_textWith hreached hnanos hnone]
    exact congrArg (Except.ok ∘ some) hraw

/-- The last microsecond of the year 9999. -/
theorem last_timestamp_text_binds_with_zone :
    ∃ text, Value.decoder.ofText (Value.timestamp ⟨253402300799, 999999000⟩).toJson.text =
        .ok (.text text) ∧
      (Value.text text).encode (.scalar .timestamptz) =
        .ok (some [3, 128, 231, 11, 145, 59, 127, 255]) ∧
      (Value.text text).encode (.scalar .timestamp) = .error .date ∧
      ∃ bare, text = bare ++ "Z" ∧ (Value.text bare).encode (.scalar .timestamp) =
        .ok (some [3, 128, 231, 11, 145, 59, 127, 255]) :=
  timestamp_text_binds_with_zone (.inl rfl)
    (decodeInstant_eq_ok_iff.mpr ⟨rfl, ⟨253402300799, 999999000⟩, by decide +kernel, rfl⟩)
    (by decide +kernel) (by decide +kernel)

/-- Midnight of 2000 is read from a timestamp without time zone, and its text is refused by one. -/
theorem midnight_text_refused :
    Value.decode (.scalar .timestamp) [0, 0, 0, 0, 0, 0, 0, 0] =
        .ok (.timestamp ⟨946684800, 0⟩) ∧
      (⟨946684800, 0⟩ : Instant).date.year = 2000 ∧
      Value.decoder.ofText (Value.timestamp ⟨946684800, 0⟩).toJson.text =
        .ok (.text "2000-01-01T00:00:00Z") ∧
      (Value.text "2000-01-01T00:00:00Z").encode (.scalar .timestamp) = .error .date := by
  have htext : (⟨946684800, 0⟩ : Instant).text = "2000-01-01T00:00:00Z" := by decide +kernel
  refine ⟨?_, by decide +kernel, ?_, ?_⟩
  · exact decodeInstant_eq_ok_iff.mpr ⟨rfl, ⟨946684800, 0⟩, by decide +kernel, rfl⟩
  · rw [← htext]
    exact Value.decoder_ofText_string _
  · rw [encode_text_timestamp]
    decide +kernel

end TableSql.Wire
