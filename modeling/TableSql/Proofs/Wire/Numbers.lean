import TableSql.Proofs.Binary.Pattern
import TableSql.Proofs.Wire.Clock
import TableSql.Proofs.Wire.Scalar

/-! Numbers that are bound to integers and to times: where what is written is the number, and where
it is something else. -/

namespace TableSql

def Value.toRat? : Value → Option ℚ
  | .int i => some i.toInt
  | .float d => d.toRat?
  | _ => none

def Value.IsNumber : Value → Prop
  | .int _ | .float _ => True
  | _ => False

namespace Wire
open Calendar Decimal

/-- What a value of a column means as a number: an integer itself, and a time the milliseconds
since 1970, compared here by the nanoseconds. -/
def Means (x : ℚ) : Value → Prop
  | .int i => (i.toInt : ℚ) = x
  | .timestamp t => ((t.seconds * nanosPerSecond + t.nanos : Int) : ℚ) = x * 1000000
  | _ => False

/-- The types of integers and of times that a number may be bound to. -/
def numberTypes : List Scalar := [.int2, .int4, .int8, .oid, .timestamp, .timestamptz]

/-- Whatever is written for a value is read as a value that means the same number. -/
def KeepsNumber (v : Value) (s : Scalar) : Prop :=
  ∀ bound, v.encode (.scalar s) = .ok bound →
    ∃ bytes, bound = some bytes ∧ ∃ w, Value.decode (.scalar s) bytes = .ok w ∧
      ∃ x, v.toRat? = some x ∧ Means x w

theorem keepsNumber_of_narrow {i : Int64} {s : Scalar} {width : Nat} (hwidth : 0 < width)
    (hencode : (Value.int i).encode (.scalar s) = narrow width i.toInt)
    (hdecode : ∀ bytes, Value.decode (.scalar s) bytes = decodeInteger width bytes) :
    KeepsNumber (.int i) s := by
  intro bound hbound
  rw [hencode] at hbound
  obtain ⟨⟨hlow, hhigh⟩, rfl⟩ := (narrow_eq_ok_iff hwidth).mp hbound
  refine ⟨_, rfl, .int i, ?_, _, rfl, rfl⟩
  rw [hdecode, decodeInteger_signed hlow hhigh]

theorem keepsNumber_int8 (i : Int64) : KeepsNumber (.int i) .int8 := by
  intro bound hbound
  obtain rfl := Except.ok.inj hbound
  refine ⟨_, rfl, .int i, ?_, _, rfl, rfl⟩
  have hlow := i.le_toInt
  have hhigh := i.toInt_lt
  exact decodeInteger_signed (by norm_num at *; omega) (by norm_num at *; omega)

theorem decode_timestamptz_ofMillis {millis : Int} {t : Instant}
    (h : Instant.ofMillis? millis = some t) :
    Value.decode (.scalar .timestamptz) (signed 8 (micros t)) = .ok (.timestamp t) ∧
      t.seconds * nanosPerSecond + t.nanos = millis * 1000000 := by
  unfold Instant.ofMillis? at h
  dsimp only at h
  split at h
  · next hreached =>
    obtain rfl := Option.some.inj h
    have hnanos : (millis % 1000).toNat * 1000000 = (millis % 1000).toNat * 1000 * 1000 := by omega
    have hcount : (millis % 1000).toNat * 1000 < 1000000 := by omega
    obtain ⟨hlow, hhigh⟩ := micros_bounds hreached hnanos hcount
    refine ⟨decodeInstant_eq_ok_iff.mpr ⟨length_signed _ _, _, ?_, rfl⟩, ?_⟩
    · rw [ofSigned_signed hlow hhigh]
      exact ofMicros_micros hreached hnanos hcount
    · unfold nanosPerSecond
      dsimp only
      omega
  · cases h

theorem keepsNumber_timestamptz (i : Int64) : KeepsNumber (.int i) .timestamptz := by
  intro bound hbound
  change encodeInt i (.scalar .timestamptz) = _ at hbound
  unfold encodeInt at hbound
  dsimp only at hbound
  split at hbound
  · next t ht =>
    obtain rfl := Except.ok.inj hbound
    obtain ⟨hdecode, hmillis⟩ := decode_timestamptz_ofMillis ht
    refine ⟨_, rfl, _, hdecode, _, rfl, ?_⟩
    unfold Means
    dsimp only
    rw [hmillis]
    push_cast
    rfl
  · cases hbound

theorem not_keepsNumber_of_eight {v : Value} {s : Scalar} {bytes : Bytes}
    (hencode : v.encode (.scalar s) = send bytes) (hlength : bytes.length = 8)
    (hs : s = .int2 ∨ s = .int4 ∨ s = .oid) : ¬ KeepsNumber v s := by
  intro hkeeps
  obtain ⟨_, hbytes, w, hw, -⟩ := hkeeps _ hencode
  obtain rfl := Option.some.inj hbytes
  rcases hs with rfl | rfl | rfl
  · exact absurd (decodeInteger_eq_ok_iff.mp hw).1 (by omega)
  · exact absurd (decodeInteger_eq_ok_iff.mp hw).1 (by omega)
  · obtain ⟨taken, htaken, -⟩ := bind_eq_ok_iff.mp hw
    exact absurd (exactly_eq_ok_iff.mp htaken).1 (by omega)

/-- A time that is read from eight bytes is as many microseconds after 2000 as they count. -/
theorem nanos_of_decodeInstant {bytes : Bytes} {w : Value} (h : decodeInstant bytes = .ok w) :
    ∃ t : Instant, w = .timestamp t ∧
      t.seconds * nanosPerSecond + t.nanos = (946684800000000 + ofSigned bytes) * 1000 := by
  obtain ⟨-, t, ht, rfl⟩ := decodeInstant_eq_ok_iff.mp h
  obtain ⟨-, hseconds, hnanos⟩ := ofMicros_spec ht
  refine ⟨t, rfl, ?_⟩
  rw [hseconds, hnanos]
  unfold epochSeconds nanosPerSecond
  omega

/-- Milliseconds are written as they are, and read as microseconds after 2000, which no number of
them is. -/
theorem not_keepsNumber_timestamp (i : Int64) : ¬ KeepsNumber (.int i) .timestamp := by
  intro hkeeps
  obtain ⟨_, hbytes, w, hw, x, hx, hmeans⟩ := hkeeps _ rfl
  obtain rfl := Option.some.inj hbytes
  obtain rfl := Option.some.inj hx
  obtain ⟨t, rfl, ht⟩ := nanos_of_decodeInstant hw
  have hlow := i.le_toInt
  have hhigh := i.toInt_lt
  rw [ofSigned_signed (by norm_num at *; omega) (by norm_num at *; omega)] at ht
  unfold Means at hmeans
  dsimp only at hmeans
  rw [ht] at hmeans
  have hcount : (946684800000000 + i.toInt) * 1000 = i.toInt * 1000000 := by exact_mod_cast hmeans
  omega

theorem ofSigned_bits (d : Double) : ofSigned (bigEndian 8 d.bits.toNat) = d.pattern := by
  have hlt : d.bits.toNat < 2 ^ 64 := d.bits.toNat_lt
  have hread : ofBigEndian (bigEndian 8 d.bits.toNat) = d.bits.toNat :=
    ofBigEndian_bigEndian hlt
  unfold ofSigned Double.pattern
  dsimp only
  rw [hread, length_bigEndian, show twoPow (8 * 8) = 2 ^ 64 from rfl]
  split <;> split <;> omega

theorem toInt_ofInt_pattern (d : Double) :
    (Int64.ofInt (ofSigned (bigEndian 8 d.bits.toNat))).toInt = d.pattern := by
  obtain ⟨hlow, hhigh⟩ := ofSigned_bounds (bigEndian 8 d.bits.toNat)
  rw [length_bigEndian, show (twoPow (8 * 8) : Int) = 2 ^ 64 from rfl] at hlow hhigh
  rw [Int64.toInt_ofInt_of_le (by omega) (by omega), ofSigned_bits]

private theorem eq_int8_or_eq_time {s : Scalar} (hs : s ∈ numberTypes)
    (hwide : ¬ (s = .int2 ∨ s = .int4 ∨ s = .oid)) :
    s = .int8 ∨ ∀ bytes, Value.decode (.scalar s) bytes = decodeInstant bytes := by
  simp only [numberTypes, List.mem_cons, List.not_mem_nil, or_false] at hs
  rcases hs with rfl | rfl | rfl | rfl | rfl | rfl
  · exact absurd (.inl rfl) hwide
  · exact absurd (.inr (.inl rfl)) hwide
  · exact .inl rfl
  · exact absurd (.inr (.inr rfl)) hwide
  · exact .inr fun _ => rfl
  · exact .inr fun _ => rfl

/-- The eight bytes of a number are no other form of it, but for those of positive zero. -/
theorem keepsNumber_float_iff (d : Double) {s : Scalar} (hs : s ∈ numberTypes) :
    KeepsNumber (.float d) s ↔ d = ⟨0⟩ ∧ s = .int8 := by
  have hencode : (Value.float d).encode (.scalar s) = send (bigEndian 8 d.bits.toNat) := by
    simp only [numberTypes, List.mem_cons, List.not_mem_nil, or_false] at hs
    rcases hs with rfl | rfl | rfl | rfl | rfl | rfl <;> rfl
  have hlength := length_bigEndian 8 d.bits.toNat
  constructor
  · intro hkeeps
    by_cases hnarrow : s = .int2 ∨ s = .int4 ∨ s = .oid
    · exact absurd hkeeps (not_keepsNumber_of_eight hencode hlength hnarrow)
    · obtain ⟨_, hbytes, w, hw, x, hx, hmeans⟩ := hkeeps _ hencode
      obtain rfl := Option.some.inj hbytes
      rcases eq_int8_or_eq_time hs hnarrow with rfl | hdecode
      · obtain ⟨-, rfl⟩ := decodeInteger_eq_ok_iff.mp hw
        have heq : ((1 : Int) : ℚ) * x = (0 + d.pattern : Int) := by
          rw [Int.cast_one, one_mul, zero_add, ← hmeans, toInt_ofInt_pattern]
        exact ⟨(Double.eq_zero_of_pattern hx (.inl ⟨rfl, rfl⟩) heq).2, rfl⟩
      · rw [hdecode] at hw
        obtain ⟨t, rfl, ht⟩ := nanos_of_decodeInstant hw
        have heq : ((1000 : Int) : ℚ) * x = (946684800000000 + d.pattern : Int) := by
          unfold Means at hmeans
          dsimp only at hmeans
          rw [ht, ofSigned_bits] at hmeans
          push_cast at hmeans ⊢
          linarith
        have hfactor := (Double.eq_zero_of_pattern hx (.inr ⟨rfl, rfl⟩) heq).1
        exact absurd hfactor (by decide)
  · rintro ⟨rfl, rfl⟩ bound hbound
    obtain rfl := Except.ok.inj hbound
    refine ⟨_, rfl, _, decodeInteger_eq_ok_iff.mpr ⟨hlength, rfl⟩, 0, ?_, ?_⟩
    · have hdatum : Double.datum ⟨0⟩ = .finite false 0 (-1074) := by decide
      simp [Value.toRat?, Double.toRat?, hdatum, Binary.Datum.toRat?]
    · unfold Means
      dsimp only
      rw [toInt_ofInt_pattern]
      decide

theorem keepsNumber_int_iff (i : Int64) {s : Scalar} (hs : s ∈ numberTypes) :
    KeepsNumber (.int i) s ↔ s ≠ .oid ∧ s ≠ .timestamp := by
  simp only [numberTypes, List.mem_cons, List.not_mem_nil, or_false] at hs
  rcases hs with rfl | rfl | rfl | rfl | rfl | rfl
  · exact iff_of_true (keepsNumber_of_narrow (by decide) rfl fun _ => rfl) (by decide)
  · exact iff_of_true (keepsNumber_of_narrow (by decide) rfl fun _ => rfl) (by decide)
  · exact iff_of_true (keepsNumber_int8 i) (by decide)
  · exact iff_of_false (not_keepsNumber_of_eight rfl (length_signed 8 i.toInt) (.inr (.inr rfl)))
      (by decide)
  · exact iff_of_false (not_keepsNumber_timestamp i) (by decide)
  · exact iff_of_true (keepsNumber_timestamptz i) (by decide)

/-- Which numbers are kept by which types. An integer is no object identifier in eight bytes, and no
microseconds where it counts milliseconds; the bits of a float are nothing but a float. -/
theorem keepsNumber_iff (v : Value) {s : Scalar} (hv : v.IsNumber) (hs : s ∈ numberTypes) :
    KeepsNumber v s ↔
      (∃ i, v = .int i) ∧ s ≠ .oid ∧ s ≠ .timestamp ∨ v = .float ⟨0⟩ ∧ s = .int8 := by
  cases v with
  | int i =>
    rw [keepsNumber_int_iff i hs]
    simp
  | float d =>
    rw [keepsNumber_float_iff d hs]
    simp
  | null => cases hv
  | bool b => cases hv
  | text t => cases hv
  | timestamp t => cases hv
  | json j => cases hv
  | array items => cases hv

/-- The widest integer is kept in eight bytes. -/
theorem widest_kept_at_int8 : KeepsNumber (.int 9223372036854775807) .int8 :=
  (keepsNumber_iff (.int 9223372036854775807) trivial (by decide)).mpr
    (.inl ⟨⟨_, rfl⟩, by decide, by decide⟩)

/-- Milliseconds of the year 2023 are stored as a time in the year 2000. -/
theorem milliseconds_misread_at_timestamp :
    ∃ bytes, (Value.int 1700000000000).encode (.scalar .timestamp) = .ok (some bytes) ∧
      Value.decode (.scalar .timestamp) bytes = .ok (.timestamp ⟨948384800, 0⟩) ∧
      (⟨948384800, 0⟩ : Instant).text = "2000-01-20T16:13:20Z" ∧
      ¬ Means 1700000000000 (.timestamp ⟨948384800, 0⟩) := by
  refine ⟨_, rfl, ?_, by decide +kernel, ?_⟩
  · refine decodeInstant_eq_ok_iff.mpr ⟨length_signed _ _, ⟨948384800, 0⟩, ?_, rfl⟩
    rw [ofSigned_signed (by decide) (by decide)]
    decide +kernel
  · unfold Means
    dsimp only
    norm_num [nanosPerSecond]

end Wire

end TableSql
