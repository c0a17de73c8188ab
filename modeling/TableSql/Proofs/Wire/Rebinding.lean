import Mathlib.Tactic.FinCases
import TableSql.Proofs.Calendar.Reading
import TableSql.Proofs.Text.Utf8
import TableSql.Proofs.Wire.Clock
import TableSql.Proofs.Wire.Scalar
import TableSql.Proofs.Wire.Uuid

/-! Values read from a column are bound back to a parameter of its type. -/

namespace TableSql.Wire
open Calendar Decimal

/-- The types whose values are bound back as they were read, by themselves and in arrays. -/
def PgType.bindsBack (t : PgType) : Bool :=
  t.isTextual || [Scalar.bool, .int2, .int4, .int8, .timestamp, .timestamptz, .date, .uuid].any
    fun s => t = .scalar s

def versionBytes (t : PgType) : Bytes := if t.isVersioned then [1] else []

theorem toInt_ofSigned {raw : Bytes} (h : raw.length ≤ 8) :
    (Int64.ofInt (ofSigned raw)).toInt = ofSigned raw := by
  have hbounds := ofSigned_bounds raw
  have hle : twoPow (8 * raw.length) ≤ twoPow 64 := Nat.pow_le_pow_right (by decide) (by omega)
  have hword : twoPow 64 = 18446744073709551616 := rfl
  exact Int64.toInt_ofInt_of_le (by omega) (by omega)

theorem encodeInt_ofSigned_of_narrow {width : Nat} (hwidth : 0 < width) {raw : Bytes}
    (h : raw.length = width) : narrow width (ofSigned raw) = .ok (some raw) := by
  subst h
  refine (narrow_eq_ok_iff hwidth).mpr ⟨ofSigned_bounds raw, ?_⟩
  rw [signed_ofSigned]

theorem decodeText_eq_ok_iff {raw : Bytes} {v : Value} :
    decodeText raw = .ok v ↔ ∃ s, v = .text s ∧ raw = Text.utf8 s := by
  unfold decodeText
  constructor
  · intro h
    split at h
    · next s hs => exact ⟨s, (Except.ok.inj h).symm, (Text.ofUtf8?_eq_some_iff.mp hs).symm⟩
    · cases h
  · rintro ⟨s, rfl, rfl⟩
    rw [Text.ofUtf8?_utf8]

theorem decodeNamed_eq_ok_iff {t : PgType} (ht : t.isTextual) {raw : Bytes} {v : Value} :
    decodeNamed t raw = .ok v ↔ ∃ s, v = .text s ∧ raw = versionBytes t ++ Text.utf8 s := by
  unfold decodeNamed versionBytes
  rw [ht]
  cases t.isVersioned with
  | false => exact decodeText_eq_ok_iff
  | true =>
    change decodeVersioned t raw = .ok v ↔ _
    unfold decodeVersioned
    constructor
    · intro h
      split at h
      · next rest =>
        obtain ⟨s, rfl, rfl⟩ := decodeText_eq_ok_iff.mp h
        exact ⟨s, rfl, rfl⟩
      · cases h
    · rintro ⟨s, rfl, rfl⟩
      exact decodeText_eq_ok_iff.mpr ⟨s, rfl, rfl⟩

theorem decode_textual {t : PgType} (ht : t.isTextual) {raw : Bytes} {v : Value} :
    Value.decode t raw = .ok v ↔ ∃ s, v = .text s ∧ raw = versionBytes t ++ Text.utf8 s := by
  cases t with
  | scalar s =>
    have hdecode : Value.decode (.scalar s) raw = decodeText raw := by
      cases s <;> first | exact absurd ht (by decide) | rfl
    have hversion : versionBytes (.scalar s) = [] := by
      cases s <;> rfl
    rw [hdecode, hversion]
    exact decodeText_eq_ok_iff
  | array name first element => cases ht
  | enum name => exact decodeNamed_eq_ok_iff ht
  | other name => exact decodeNamed_eq_ok_iff ht

theorem encode_textual {t : PgType} (ht : t.isTextual) (s : String) :
    (Value.text s).encode t = .ok (some (versionBytes t ++ Text.utf8 s)) := by
  cases t with
  | scalar scalar => cases scalar <;> first | exact absurd ht (by decide) | rfl
  | array name first element => cases ht
  | enum name => rfl
  | other name => rfl

/-- A value of a type that binds back is sent in bytes that are read as the same value, and that
are as many as those it was read from. -/
def Rebinds (t : PgType) (raw : Bytes) (v : Value) : Prop :=
  ∃ bytes, v.encode t = .ok (some bytes) ∧ Value.decode t bytes = .ok v ∧
    bytes.length = raw.length

theorem Rebinds.of_encode {t : PgType} {raw : Bytes} {v : Value}
    (hdecode : Value.decode t raw = .ok v) (hencode : v.encode t = .ok (some raw)) :
    Rebinds t raw v := ⟨raw, hencode, hdecode, rfl⟩

theorem rebinds_bool {raw : Bytes} {v : Value}
    (h : Value.decode (.scalar .bool) raw = .ok v) : Rebinds (.scalar .bool) raw v := by
  change decodeScalar .bool raw = .ok v at h
  unfold decodeScalar at h
  dsimp only at h
  split at h
  · next b =>
    obtain rfl := Except.ok.inj h
    cases decide (b ≠ 0) with
    | false => exact ⟨[0], rfl, rfl, rfl⟩
    | true => exact ⟨[1], rfl, rfl, rfl⟩
  · cases h

theorem rebinds_integer {s : Scalar} (width : Nat)
    (hdecode : decodeScalar s = decodeInteger width)
    (hencode : ∀ raw : Bytes, raw.length = width →
      encodeInt (Int64.ofInt (ofSigned raw)) (.scalar s) = .ok (some raw))
    {raw : Bytes} {v : Value} (h : Value.decode (.scalar s) raw = .ok v) :
    Rebinds (.scalar s) raw v := by
  have hread : decodeInteger width raw = .ok v := by
    rw [← hdecode]
    exact h
  obtain ⟨hlength, rfl⟩ := decodeInteger_eq_ok_iff.mp hread
  exact .of_encode h (hencode raw hlength)

theorem rebinds_instant {s : Scalar} (hdecode : decodeScalar s = decodeInstant)
    (hencode : ∀ t : Instant, encodeTimestamp t (.scalar s) = send (signed 8 (micros t)))
    {raw : Bytes} {v : Value} (h : Value.decode (.scalar s) raw = .ok v) :
    Rebinds (.scalar s) raw v := by
  have hread : decodeInstant raw = .ok v := by
    rw [← hdecode]
    exact h
  obtain ⟨hlength, t, ht, rfl⟩ := decodeInstant_eq_ok_iff.mp hread
  refine .of_encode h ?_
  rw [Value.encode, hencode, micros_of_ofMicros ht, ← hlength, signed_ofSigned]
  rfl

theorem rebinds_date {raw : Bytes} {v : Value} (h : Value.decode (.scalar .date) raw = .ok v) :
    Rebinds (.scalar .date) raw v := by
  obtain ⟨hlength, d, hd, rfl⟩ := decodeDate_eq_ok_iff.mp h
  obtain ⟨hdays, hvalid⟩ := days_of_ofDays hd
  refine .of_encode h ?_
  have hencode : (Value.text d.text).encode (.scalar .date) = send (signed 4 (days d)) := by
    change (do send (signed 4 (days (← required .date (Date.ofText? d.text)))) : Bound) = _
    rw [Date.ofText?_text hvalid]
    rfl
  rw [hencode, hdays, ← hlength, signed_ofSigned]
  rfl

theorem rebinds_uuid {raw : Bytes} {v : Value} (h : Value.decode (.scalar .uuid) raw = .ok v) :
    Rebinds (.scalar .uuid) raw v := by
  have hread : decodeScalar .uuid raw = .ok v := h
  unfold decodeScalar at hread
  dsimp only at hread
  split at hread
  · next hlength =>
    obtain rfl := Except.ok.inj hread
    refine .of_encode h ?_
    change (do send (← required .uuid (Uuid.ofText? (Uuid.text raw))) : Bound) = _
    rw [Uuid.ofText?_text hlength]
    rfl
  · cases hread

theorem rebinds_of_decode {t : PgType} (ht : t.bindsBack) {raw : Bytes} {v : Value}
    (h : Value.decode t raw = .ok v) : Rebinds t raw v := by
  by_cases htextual : t.isTextual
  · obtain ⟨s, rfl, rfl⟩ := (decode_textual htextual).mp h
    exact .of_encode h (encode_textual htextual s)
  · have hscalar : ∃ s ∈ [Scalar.bool, .int2, .int4, .int8, .timestamp, .timestamptz, .date,
        .uuid], t = .scalar s := by
      simpa [PgType.bindsBack, htextual] using ht
    obtain ⟨s, hs, rfl⟩ := hscalar
    fin_cases hs
    · exact rebinds_bool h
    · refine rebinds_integer 2 rfl (fun raw hlength => ?_) h
      change narrow 2 (Int64.ofInt (ofSigned raw)).toInt = _
      rw [toInt_ofSigned (by omega), encodeInt_ofSigned_of_narrow (by decide) hlength]
    · refine rebinds_integer 4 rfl (fun raw hlength => ?_) h
      change narrow 4 (Int64.ofInt (ofSigned raw)).toInt = _
      rw [toInt_ofSigned (by omega), encodeInt_ofSigned_of_narrow (by decide) hlength]
    · refine rebinds_integer 8 rfl (fun raw hlength => ?_) h
      change send (signed 8 (Int64.ofInt (ofSigned raw)).toInt) = _
      rw [toInt_ofSigned (by omega), ← hlength, signed_ofSigned]
      rfl
    · exact rebinds_instant rfl (fun _ => rfl) h
    · exact rebinds_instant rfl (fun _ => rfl) h
    · exact rebinds_date h
    · exact rebinds_uuid h

private theorem lt_of_takeDimensions {count : Nat} {product result : Int} {bytes rest : Bytes}
    (hproduct : product < 2147483648)
    (h : takeDimensions count product bytes = .ok (result, rest)) : result < 2147483648 := by
  induction count generalizing product bytes with
  | zero =>
    obtain ⟨rfl, -⟩ := Prod.mk.inj (Except.ok.inj h)
    exact hproduct
  | succ count ih =>
    unfold takeDimensions at h
    obtain ⟨⟨length, after⟩, -, hlength⟩ := bind_eq_ok_iff.mp h
    dsimp only at hlength
    split at hlength
    · cases hlength
    · obtain ⟨⟨first, after⟩, -, hfirst⟩ := bind_eq_ok_iff.mp hlength
      dsimp only at hfirst
      split at hfirst
      · cases hfirst
      · next hsmall =>
        rw [show (twoPow 31 : Int) = 2147483648 from rfl] at hsmall
        exact ih (by omega) hfirst

/-- An array has no more elements than its bytes can count. -/
theorem lt_of_takeHeader {count : Nat} {bytes rest : Bytes}
    (h : takeHeader bytes = .ok (count, rest)) : count < 2147483648 := by
  unfold takeHeader at h
  obtain ⟨⟨dimensions, after⟩, -, hdimensions⟩ := bind_eq_ok_iff.mp h
  dsimp only at hdimensions
  split at hdimensions
  · cases hdimensions
  · obtain ⟨⟨flag, after⟩, -, hflag⟩ := bind_eq_ok_iff.mp hdimensions
    obtain ⟨⟨oid, after⟩, -, hoid⟩ := bind_eq_ok_iff.mp hflag
    obtain ⟨⟨product, after⟩, hproduct, hcount⟩ := bind_eq_ok_iff.mp hoid
    dsimp only at hcount
    have hlt := lt_of_takeDimensions (by decide) hproduct
    split at hcount
    · cases hcount
    · obtain ⟨rfl, -⟩ := Prod.mk.inj (Except.ok.inj hcount)
      split <;> omega

/-- The header of an array of one dimension says how many elements follow. -/
theorem takeHeader_arrayBytes {oid first : Nat} {elements : List (Option Bytes)}
    (h : elements.length < 2147483648) :
    takeHeader (arrayBytes oid first elements) =
      .ok (elements.length, elements.flatMap elementBytes) := by
  have hoid : take 4 (bigEndian 4 oid ++ (signed 4 elements.length ++ (signed 4 first ++
      elements.flatMap elementBytes))) = .ok (bigEndian 4 oid, signed 4 elements.length ++
      (signed 4 first ++ elements.flatMap elementBytes)) :=
    take_eq_ok_iff.mpr ⟨rfl, length_bigEndian _ _⟩
  have hfirst : ∃ i, takeInt (signed 4 first ++ elements.flatMap elementBytes) =
      .ok (i, elements.flatMap elementBytes) :=
    ⟨_, takeInt_eq_ok_iff.mpr ⟨_, rfl, length_signed _ _, rfl⟩⟩
  obtain ⟨i, hfirst⟩ := hfirst
  have hdimensions : takeDimensions 1 1 (signed 4 elements.length ++ (signed 4 first ++
      elements.flatMap elementBytes)) =
      .ok ((elements.length : Int), elements.flatMap elementBytes) := by
    rw [takeDimensions, takeInt_signed (by omega) (by omega)]
    refine bind_eq_ok_iff.mpr ⟨_, rfl, ?_⟩
    dsimp only
    rw [if_neg (by omega), hfirst]
    refine bind_eq_ok_iff.mpr ⟨_, rfl, ?_⟩
    dsimp only
    rw [if_neg (by rw [show (twoPow 31 : Int) = 2147483648 from rfl]; omega), takeDimensions,
      Int.one_mul]
  unfold takeHeader arrayBytes
  simp only [List.append_assoc]
  rw [takeInt_signed (by decide) (by decide)]
  refine bind_eq_ok_iff.mpr ⟨_, rfl, ?_⟩
  dsimp only
  rw [if_neg (by decide), takeInt_signed (by split <;> decide) (by split <;> decide)]
  refine bind_eq_ok_iff.mpr ⟨_, rfl, bind_eq_ok_iff.mpr ⟨_, hoid, bind_eq_ok_iff.mpr
    ⟨_, hdimensions, ?_⟩⟩⟩
  dsimp only
  rw [if_neg (by decide), if_neg (by decide), Int.toNat_natCast]
  rfl

private theorem takeElement_none (rest : Bytes) :
    takeElement (elementBytes none ++ rest) = .ok (none, rest) := by
  rw [takeElement, elementBytes, takeInt_signed (by decide) (by decide)]
  rfl

private theorem takeElement_some {bytes : Bytes} (h : bytes.length < 2147483648) (rest : Bytes) :
    takeElement (elementBytes (some bytes) ++ rest) = .ok (some bytes, rest) := by
  rw [takeElement, elementBytes, List.append_assoc, takeInt_signed (by omega) (by omega)]
  refine bind_eq_ok_iff.mpr ⟨_, rfl, ?_⟩
  dsimp only
  rw [if_neg (by omega), if_neg (by simp)]
  simp
  rfl

private theorem length_lt_of_takeElement {bytes element rest : Bytes}
    (h : takeElement bytes = .ok (some element, rest)) : element.length < 2147483648 := by
  unfold takeElement at h
  obtain ⟨⟨length, after⟩, hlength, hbytes⟩ := bind_eq_ok_iff.mp h
  have hbounds := bounds_of_takeInt hlength
  dsimp only at hbytes
  split at hbytes
  · cases hbytes
  · split at hbytes
    · cases hbytes
    · obtain ⟨helement, -⟩ := Prod.mk.inj (Except.ok.inj hbytes)
      obtain rfl := Option.some.inj helement
      rw [List.length_take]
      omega

theorem decodeElements_succ_eq_ok_iff {decode : Bytes → Except Fault Value} {count : Nat}
    {bytes : Bytes} {items : List Value} :
    decodeElements decode (count + 1) bytes = .ok items ↔
      ∃ element rest v others, takeElement bytes = .ok (element, rest) ∧
        element.elim (.ok .null) decode = .ok v ∧
        decodeElements decode count rest = .ok others ∧ items = v :: others := by
  rw [decodeElements, bind_eq_ok_iff]
  constructor
  · rintro ⟨⟨element, rest⟩, htake, h⟩
    have hvalue : (element.elim (.ok .null) decode >>= fun v =>
        decodeElements decode count rest >>= fun others => pure (v :: others)) = .ok items := by
      cases element <;> exact h
    obtain ⟨v, hv, hrest⟩ := bind_eq_ok_iff.mp hvalue
    obtain ⟨others, hothers, hitems⟩ := bind_eq_ok_iff.mp hrest
    exact ⟨element, rest, v, others, htake, hv, hothers, (Except.ok.inj hitems).symm⟩
  · rintro ⟨element, rest, v, others, htake, hv, hothers, rfl⟩
    refine ⟨(element, rest), htake, ?_⟩
    cases element <;>
      exact bind_eq_ok_iff.mpr ⟨v, hv, bind_eq_ok_iff.mpr ⟨others, hothers, rfl⟩⟩

theorem rebinds_elements {t : PgType} (ht : t.bindsBack) {count : Nat} {raw : Bytes}
    {items : List Value} (h : decodeElements (Value.decode t) count raw = .ok items) :
    ∃ elements, Value.encodeItems items t = .ok elements ∧ elements.length = count ∧
      decodeElements (Value.decode t) count (elements.flatMap elementBytes) = .ok items := by
  induction count generalizing raw items with
  | zero =>
    cases raw with
    | nil =>
      obtain rfl := Except.ok.inj h
      exact ⟨[], rfl, rfl, rfl⟩
    | cons b rest => cases h
  | succ count ih =>
    obtain ⟨element, rest, v, others, helement, hv, hothers, rfl⟩ :=
      decodeElements_succ_eq_ok_iff.mp h
    obtain ⟨elements, hencode, hcount, hdecode⟩ := ih hothers
    -- The element is sent as null or as bytes that are as short as those it was read from.
    obtain ⟨sent, hsent, htake, hread⟩ : ∃ sent, v.encode t = .ok sent ∧
        (∀ after, takeElement (elementBytes sent ++ after) = .ok (sent, after)) ∧
        sent.elim (.ok .null) (Value.decode t) = .ok v := by
      cases element with
      | none =>
        obtain rfl := Except.ok.inj hv
        exact ⟨none, rfl, takeElement_none, rfl⟩
      | some bytes =>
        obtain ⟨sent, hsent, hread, hlength⟩ := rebinds_of_decode ht hv
        have hshort := length_lt_of_takeElement helement
        exact ⟨some sent, hsent, takeElement_some (hlength ▸ hshort), hread⟩
    refine ⟨sent :: elements, ?_, by rw [List.length_cons, hcount], ?_⟩
    · exact bind_eq_ok_iff.mpr ⟨sent, hsent, bind_eq_ok_iff.mpr ⟨elements, hencode, rfl⟩⟩
    · exact decodeElements_succ_eq_ok_iff.mpr
        ⟨sent, elements.flatMap elementBytes, v, others, htake _, hread, hdecode, rfl⟩

/-- A value that was read from a column of such a type, or of arrays of one, is bound to a
parameter of the type, and the bytes that are sent are read as the same value. -/
theorem decode_encode_of_decode {t : PgType}
    (ht : t.bindsBack ∨ ∃ name first element, t = .array name first element ∧ element.bindsBack)
    {raw : Bytes} {v : Value} (h : Value.decode t raw = .ok v) :
    ∃ bytes, v.encode t = .ok (some bytes) ∧ Value.decode t bytes = .ok v := by
  rcases ht with ht | ⟨name, first, element, rfl, helement⟩
  · obtain ⟨bytes, hencode, hdecode, -⟩ := rebinds_of_decode ht h
    exact ⟨bytes, hencode, hdecode⟩
  · obtain ⟨⟨count, rest⟩, hheader, hrest⟩ := bind_eq_ok_iff.mp h
    obtain ⟨items, hitems, hv⟩ := bind_eq_ok_iff.mp hrest
    obtain rfl := Except.ok.inj hv
    obtain ⟨elements, hencode, rfl, hdecode⟩ := rebinds_elements helement hitems
    refine ⟨arrayBytes element.oid first elements, ?_, ?_⟩
    · exact bind_eq_ok_iff.mpr ⟨elements, hencode, rfl⟩
    · exact bind_eq_ok_iff.mpr ⟨_, takeHeader_arrayBytes (lt_of_takeHeader hheader),
        bind_eq_ok_iff.mpr ⟨items, hdecode, rfl⟩⟩

/-- Three dates, one before the year 0, one that is null, and one after the year 9999, in an array
whose first index is 7. -/
def threeDates : Bytes :=
  [0, 0, 0, 1, 0, 0, 0, 1, 0, 0, 4, 58, 0, 0, 0, 3, 0, 0, 0, 7,
   0, 0, 0, 4, 255, 240, 189, 192, 255, 255, 255, 255, 0, 0, 0, 4, 0, 55, 185, 219]

theorem threeDates_bound_back :
    Value.decode (.array (.builtIn "_date" 1182) 1 (.scalar .date)) threeDates =
      .ok (.array [.text "-0738-02-03", .null, .text "+11998-12-31"]) ∧
    ∃ bytes, (Value.array [.text "-0738-02-03", .null, .text "+11998-12-31"]).encode
        (.array (.builtIn "_date" 1182) 1 (.scalar .date)) = .ok (some bytes) ∧
      Value.decode (.array (.builtIn "_date" 1182) 1 (.scalar .date)) bytes =
        .ok (.array [.text "-0738-02-03", .null, .text "+11998-12-31"]) := by
  have h : Value.decode (.array (.builtIn "_date" 1182) 1 (.scalar .date)) threeDates =
      .ok (.array [.text "-0738-02-03", .null, .text "+11998-12-31"]) := by
    have hheader : takeHeader threeDates = .ok (3, threeDates.drop 20) := by decide +kernel
    have hfirst : decodeScalar .date [255, 240, 189, 192] = .ok (.text "-0738-02-03") :=
      decodeDate_eq_ok_iff.mpr ⟨rfl, ⟨-738, 2, 3⟩, by decide +kernel, rfl⟩
    have hthird : decodeScalar .date [0, 55, 185, 219] = .ok (.text "+11998-12-31") :=
      decodeDate_eq_ok_iff.mpr ⟨rfl, ⟨11998, 12, 31⟩, by decide +kernel, rfl⟩
    refine bind_eq_ok_iff.mpr ⟨_, hheader, bind_eq_ok_iff.mpr ⟨_, ?_, rfl⟩⟩
    refine decodeElements_succ_eq_ok_iff.mpr ⟨some [255, 240, 189, 192], threeDates.drop 28, _, _,
      by decide +kernel, hfirst, ?_, rfl⟩
    refine decodeElements_succ_eq_ok_iff.mpr ⟨none, threeDates.drop 32, _, _,
      by decide +kernel, rfl, ?_, rfl⟩
    exact decodeElements_succ_eq_ok_iff.mpr ⟨some [0, 55, 185, 219], [], _, _,
      by decide +kernel, hthird, rfl, rfl⟩
  exact ⟨h, decode_encode_of_decode (.inr ⟨_, _, _, rfl, by decide⟩) h⟩

end TableSql.Wire
