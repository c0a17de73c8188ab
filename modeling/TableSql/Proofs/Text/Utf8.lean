import TableSql.Text.Utf8

/-! UTF-8: the text of bytes is the one that has these bytes, and characters read from bytes are no
more than these. -/

namespace TableSql.Text

theorem toByteArray_utf8 (text : String) : (utf8 text).toByteArray = text.toByteArray :=
  String.utf8Encode_toList

private theorem toByteArray_eq (bytes : List UInt8) : bytes.toByteArray = ⟨bytes.toArray⟩ := by
  apply ByteArray.ext
  simp

theorem ofUtf8?_eq_some_iff {bytes : List UInt8} {text : String} :
    ofUtf8? bytes = some text ↔ utf8 text = bytes := by
  have hbytes : utf8 text = bytes ↔ text.toByteArray = ⟨bytes.toArray⟩ := by
    rw [← toByteArray_utf8, toByteArray_eq]
    simp
  rw [hbytes]
  unfold ofUtf8? String.fromUTF8?
  constructor
  · intro h
    split at h
    · rw [← Option.some.inj h]
      rfl
    · cases h
  · intro h
    rw [← h, dif_pos text.isValidUTF8]
    rfl

@[simp] theorem ofUtf8?_utf8 (text : String) : ofUtf8? (utf8 text) = some text :=
  ofUtf8?_eq_some_iff.mpr rfl

@[simp] theorem decode_utf8 (text : String) : decode (utf8 text) = text.toList.map some := by
  rw [decode, ofUtf8?_utf8]

theorem utf8EncodeChar_of_ascii {c : Char} (h : c.toNat < 128) :
    String.utf8EncodeChar c = [UInt8.ofNat c.toNat] := by
  unfold String.utf8EncodeChar
  exact if_pos (Nat.le_of_lt_succ h)

/-- The first of the characters of bytes is found in some bytes at their front. -/
theorem head_charsOfBytes {fuel : Nat} {bytes : List UInt8} {c : Char}
    (h : (charsOfBytes fuel bytes).head? = some (some c)) :
    ∃ size, String.utf8EncodeChar c = bytes.take size := by
  cases fuel with
  | zero => cases h
  | succ fuel =>
    cases bytes with
    | nil => cases h
    | cons b rest =>
      rw [charsOfBytes] at h
      split at h
      · next d size others hfound =>
        obtain rfl : d = c := by simpa using h
        have hmem : (d, size) ∈ [1, 2, 3, 4].filterMap fun size =>
            (charOfBytes? (b :: rest) size).map (·, size) := hfound ▸ List.mem_cons_self
        obtain ⟨size', -, hsize⟩ := List.mem_filterMap.mp hmem
        obtain ⟨e, he, hpair⟩ := Option.map_eq_some_iff.mp hsize
        obtain ⟨rfl, rfl⟩ := Prod.mk.inj hpair
        refine ⟨size', ?_⟩
        unfold charOfBytes? at he
        split at he
        · next e' hchars =>
          split at he
          · obtain rfl := Option.some.inj he
            obtain ⟨text, htext, hlist⟩ := Option.map_eq_some_iff.mp hchars
            rw [← ofUtf8?_eq_some_iff.mp htext, utf8, hlist]
            simp
          · cases he
        · cases he
      · cases h

theorem head_of_decode {bytes : List UInt8} {c : Char}
    (h : (decode bytes).head? = some (some c)) (hc : c.toNat < 128) :
    bytes.head? = some (UInt8.ofNat c.toNat) := by
  have hencode := utf8EncodeChar_of_ascii hc
  unfold decode at h
  split at h
  · next text htext =>
    rw [← ofUtf8?_eq_some_iff.mp htext, utf8]
    cases hlist : text.toList with
    | nil =>
      rw [hlist] at h
      cases h
    | cons d cs =>
      rw [hlist] at h
      obtain rfl : d = c := by simpa using h
      rw [List.flatMap_cons, hencode]
      rfl
  · obtain ⟨size, hsize⟩ := head_charsOfBytes h
    rw [hencode] at hsize
    cases bytes with
    | nil => simp at hsize
    | cons b rest =>
      cases size with
      | zero => cases hsize
      | succ size =>
        rw [List.take_succ_cons] at hsize
        rw [List.head?_cons, (List.cons.inj hsize).1]

private theorem length_charsOfBytes_le (fuel : Nat) (bytes : List UInt8) :
    (charsOfBytes fuel bytes).length ≤ bytes.length := by
  induction fuel generalizing bytes with
  | zero => exact Nat.zero_le _
  | succ fuel ih =>
    cases bytes with
    | nil => exact Nat.zero_le _
    | cons b rest =>
      rw [charsOfBytes]
      split
      · next size _ _ =>
        have := ih (rest.drop (size - 1))
        simp only [List.length_cons, List.length_drop] at this ⊢
        omega
      · exact Nat.succ_le_succ (ih rest)

theorem length_decode_le (bytes : List UInt8) : (decode bytes).length ≤ bytes.length := by
  unfold decode
  split
  · next text htext =>
    rw [← ofUtf8?_eq_some_iff.mp htext, utf8, List.length_map, List.length_flatMap]
    induction text.toList with
    | nil => exact Nat.zero_le _
    | cons c cs ih =>
      have hone : 0 < (String.utf8EncodeChar c).length :=
        List.length_pos_iff.mpr String.utf8EncodeChar_ne_nil
      rw [List.length_cons, List.map_cons, List.sum_cons]
      omega
  · exact length_charsOfBytes_le _ _

end TableSql.Text
