import TableSql.Proofs.Json.Magnitude
import TableSql.Proofs.Text.Utf8
import TableSql.Proofs.Value.Json
import TableSql.Proofs.Wire.Bytes
import TableSql.Wire.Decoding

/-! JSON documents as parameters: which of them are written as their text and read back, and what is
written for the others. -/

namespace TableSql

namespace Json

/-- The documents that are bound as JSON: truth values, strings and objects. -/
def isBound : Json → Bool
  | .bool _ | .string _ | .object _ => true
  | _ => false

namespace Decoder

private theorem eq_number_of_any {origin : Origin} {raw : Raw} {n : Number}
    (h : any origin raw = .ok (.number n)) : raw = .number (some n) := by
  cases raw with
  | number m =>
    cases m with
    | none => cases h
    | some m =>
      cases h
      rfl
  | null => cases h
  | bool b => cases h
  | string content => cases content <;> cases h
  | array items stop =>
    rw [any] at h
    obtain ⟨inner, -, h⟩ := bind_eq_ok_iff.mp h
    obtain ⟨read, -, h⟩ := bind_eq_ok_iff.mp h
    obtain ⟨-, -, h⟩ := bind_eq_ok_iff.mp h
    cases h
  | object members stop =>
    rw [any] at h
    obtain ⟨inner, -, h⟩ := bind_eq_ok_iff.mp h
    obtain ⟨read, -, h⟩ := bind_eq_ok_iff.mp h
    obtain ⟨-, -, h⟩ := bind_eq_ok_iff.mp h
    cases h
  | broken lead b => cases h

private theorem value_of_run_any {source : Source} {n : Number}
    (h : any.run source = .ok (.number n)) :
    ∃ fuel after, Raw.value (fuel + 1) source = (.number (some n), after) := by
  unfold run at h
  dsimp only at h
  obtain ⟨j, hj, h⟩ := bind_eq_ok_iff.mp h
  obtain ⟨-, -, h⟩ := bind_eq_ok_iff.mp h
  obtain rfl := Except.ok.inj h
  refine ⟨2 * source.length + 1, (Raw.value (2 * source.length + 2) source).2, ?_⟩
  rw [← eq_number_of_any hj]
  rfl

end Decoder

end Json

namespace Wire

/-- The type of JSON documents, kept as text or in a form of its own. -/
def documentType (parsed : Bool) : PgType := .scalar (if parsed then .jsonb else .json)

/-- The text of a document as it is sent; a form of its own has a version before it. -/
def documentBytes (parsed : Bool) (j : Json) : Bytes :=
  (if parsed then [1] else []) ++ Text.utf8 j.text

private theorem ofJson_int (i : Int64) : Value.ofJson (.int i.toInt) = .int i := by
  rw [Json.int, Value.ofJson, Value.ofNumber,
    Json.Number.toInt64?_eq_some i.le_toInt i.toInt_lt, Int64.ofInt_toInt]

theorem encode_of_isBound {j : Json} (h : j.isBound) (parsed : Bool) :
    (Value.ofJson j).encode (documentType parsed) = .ok (some (documentBytes parsed j)) := by
  cases j with
  | bool b => cases parsed <;> rfl
  | string s => cases parsed <;> rfl
  | object members => cases parsed <;> rfl
  | null => cases h
  | number n => cases h
  | array items => cases h

theorem decode_documentBytes {j : Json} (h : Json.Decoder.any.run j.source = .ok j)
    (parsed : Bool) :
    Value.decode (documentType parsed) (documentBytes parsed j) = .ok (.json j) := by
  have hjson : decodeJson (Text.utf8 j.text) = .ok (.json j) := by
    rw [decodeJson, Text.decode_utf8]
    change (Except.mapError _ (Json.Decoder.any.run j.source)).map _ = _
    rw [h]
    rfl
  cases parsed
  · exact hjson
  · exact hjson

/-- Bytes that are read as an integer are as many as it has digits, and begin with a character of
ASCII. -/
theorem bounds_of_decodeJson_integer {bytes : Bytes} {i : Int}
    (h : decodeJson bytes = .ok (.json (.int i))) :
    i.natAbs < 10 ^ bytes.length ∧ ∃ b, bytes.head? = some b ∧ 9 ≤ b.toNat ∧ b.toNat < 128 := by
  unfold decodeJson at h
  cases hread : Json.Decoder.any.run (Text.decode bytes) with
  | error e =>
    rw [hread] at h
    cases h
  | ok j =>
    rw [hread] at h
    obtain rfl : j = .int i := Value.json.inj (Except.ok.inj h)
    obtain ⟨fuel, after, hvalue⟩ := Json.Decoder.value_of_run_any hread
    have hlt := Json.Raw.natAbs_lt_of_value hvalue
    obtain ⟨c, hhead, hlow, hhigh⟩ := Json.Raw.head_of_value_number hvalue
    refine ⟨hlt.trans_le (Nat.pow_le_pow_right (by decide) (Text.length_decode_le _)), _,
      Text.head_of_decode hhead hhigh, ?_, ?_⟩
    · rw [UInt8.toNat_ofNat', Nat.mod_eq_of_lt (by omega)]
      exact hlow
    · rw [UInt8.toNat_ofNat', Nat.mod_eq_of_lt (by omega)]
      exact hhigh

/-- The first of the eight bytes of an integer of at most eight digits is that of its sign. -/
theorem head_signed {i : Int} (h : i.natAbs < 10 ^ 8) :
    (signed 8 i).head? = some 0 ∨ (signed 8 i).head? = some 255 := by
  have hfront : (signed 8 i).head? =
      some (UInt8.ofNat ((i % 18446744073709551616).toNat / 72057594037927936)) := rfl
  rw [hfront]
  by_cases hi : 0 ≤ i
  · have hzero : (i % 18446744073709551616).toNat / 72057594037927936 = 0 := by omega
    rw [hzero]
    exact .inl rfl
  · have hfull : (i % 18446744073709551616).toNat / 72057594037927936 = 255 := by omega
    rw [hfull]
    exact .inr rfl

/-- The eight bytes of an integer are not its text: one of so few digits begins with the byte of its
sign, which is neither a character nor a version. -/
theorem decode_signed_ne (i : Int) (parsed : Bool) :
    Value.decode (documentType parsed) (signed 8 i) ≠ .ok (.json (.int i)) := by
  intro h
  cases parsed with
  | false =>
    obtain ⟨hlt, b, hhead, hlow, hhigh⟩ := bounds_of_decodeJson_integer h
    rw [length_signed] at hlt
    rcases head_signed hlt with hsign | hsign
    · obtain rfl := Option.some.inj (hhead.symm.trans hsign)
      exact absurd hlow (by decide)
    · obtain rfl := Option.some.inj (hhead.symm.trans hsign)
      exact absurd hhigh (by decide)
  | true =>
    change decodeScalar .jsonb (signed 8 i) = _ at h
    unfold decodeScalar at h
    dsimp only at h
    split at h
    · cases h
    · next rest hbytes =>
      have hlength : rest.length + 1 = 8 := by rw [← List.length_cons, ← hbytes, length_signed]
      have hlt := (bounds_of_decodeJson_integer h).1
      have hfew : i.natAbs < 10 ^ 8 :=
        hlt.trans_le (Nat.pow_le_pow_right (by decide) (by omega))
      have hsign := head_signed hfew
      rw [hbytes, List.head?_cons] at hsign
      exact absurd hsign (by decide)
    · cases h

/-- What becomes of a document as a parameter. A truth value, a string or an object is sent as its
text and read back, if it is nested no deeper than is read and its reals are ones that are read from
their texts. A number is sent in the eight bytes of an integer or a float, and a list is refused. -/
theorem document_parameters (parsed : Bool) :
    (∀ j : Json, j.isBound →
      (Value.ofJson j).encode (documentType parsed) = .ok (some (documentBytes parsed j)) ∧
      ((∀ i, .integer i ∈ j.numbers → -2 ^ 63 ≤ i ∧ i < 2 ^ 64) →
        (∀ d, .real d ∈ j.numbers → (Json.Number.real d).ReadsBack) →
        j.KeysSorted → j.depth ≤ 127 →
        Value.decode (documentType parsed) (documentBytes parsed j) = .ok (.json j))) ∧
    (∀ i : Int64, (Value.ofJson (.int i.toInt)).encode (documentType parsed) =
        .ok (some (signed 8 i.toInt)) ∧
      Value.decode (documentType parsed) (signed 8 i.toInt) ≠ .ok (.json (.int i.toInt))) ∧
    (∀ d : Double, (Value.ofJson (.number (.real d))).encode (documentType parsed) =
      .ok (some (bigEndian 8 d.bits.toNat))) ∧
    ∀ items : List Json, (Value.ofJson (.array items)).encode (documentType parsed) =
      .error (.unbindable "a list" (documentType parsed)) := by
  refine ⟨fun j hj => ⟨encode_of_isBound hj parsed, ?_⟩, fun i => ?_, fun d => ?_, fun items => ?_⟩
  · intro hintegers hreals hsorted hdepth
    have hnumbers := Json.readsBack_of_mem hintegers hreals
    exact decode_documentBytes (Json.Decoder.run_any_source hnumbers hsorted hdepth) parsed
  · rw [ofJson_int]
    exact ⟨by cases parsed <;> rfl, decode_signed_ne _ _⟩
  · cases parsed <;> rfl
  · cases parsed <;> rfl

def rateAndSizes : Json :=
  .object [("rate", .number (.real ⟨0x3FE0000000000000⟩)), ("sizes", .array [.int 1, .int (-2)])]

theorem rateAndSizes_read_back :
    Value.decode (documentType true) (documentBytes true rateAndSizes) =
      .ok (.json rateAndSizes) := by
  have hnumbers : rateAndSizes.numbers =
      [.real ⟨0x3FE0000000000000⟩, .integer 1, .integer (-2)] := rfl
  have hsorted : ["rate", "sizes"].Pairwise (· < ·) := by decide +kernel
  have hhalf : (Json.Number.real ⟨0x3FE0000000000000⟩).ReadsBack := by
    have htext : (Json.Number.real ⟨0x3FE0000000000000⟩).text = "0.5" := by decide +kernel
    rw [Json.Number.ReadsBack, htext]
    rfl
  refine ((document_parameters true).1 rateAndSizes rfl).2 ?_ ?_ ?_ (by decide)
  · intro i hi
    have hi : i = 1 ∨ i = -2 := by simpa [hnumbers] using hi
    omega
  · intro d hd
    obtain rfl : d = ⟨0x3FE0000000000000⟩ := by simpa [hnumbers] using hd
    exact hhalf
  · exact ⟨hsorted, trivial, ⟨trivial, trivial, trivial⟩, trivial⟩

/-- The document 5 is sent as bytes that are no JSON. -/
theorem five_sent_unreadable :
    (Value.ofJson (.int 5)).encode (.scalar .json) = .ok (some [0, 0, 0, 0, 0, 0, 0, 5]) ∧
      Value.decode (.scalar .json) [0, 0, 0, 0, 0, 0, 0, 5] =
        .error (.json (.fault .malformed)) := by
  have hdecode : Text.decode [0, 0, 0, 0, 0, 0, 0, 5] =
      ['\x00', '\x00', '\x00', '\x00', '\x00', '\x00', '\x00', '\x05'].map some :=
    Text.decode_utf8 (String.ofList
      ['\x00', '\x00', '\x00', '\x00', '\x00', '\x00', '\x00', '\x05'])
  refine ⟨rfl, ?_⟩
  rw [Value.decode, decodeScalar, decodeJson, hdecode]
  rfl

end Wire

end TableSql
