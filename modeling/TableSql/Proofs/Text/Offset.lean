import TableSql.Proofs.Text.Excerpt
import TableSql.Text.Offset

/-! Bytes and parts of a text by their offsets: an ASCII byte is a character by itself, and the text
between two offsets is the part that begins and ends there. -/

namespace TableSql.Text

theorem length_bytesOf_append (front back : List Char) :
    (bytesOf (front ++ back)).length = (bytesOf front).length + (bytesOf back).length := by
  rw [bytesOf_append, List.length_append]

theorem length_bytesOf_concat_ascii {c : Char} (hc : c.toNat < 0x80) (front : List Char) :
    (bytesOf (front ++ [c])).length = (bytesOf front).length + 1 := by
  have hencode : bytesOf [c] = [UInt8.ofNat c.toNat] := by
    rw [bytesOf, List.flatMap_singleton, utf8EncodeChar_of_ascii hc]
  rw [length_bytesOf_append, hencode, List.length_singleton]

theorem length_bytesOf_toList (text : String) :
    (bytesOf text.toList).length = text.utf8ByteSize :=
  length_utf8 text

theorem utf8ByteSize_ofList (cs : List Char) :
    (String.ofList cs).utf8ByteSize = (bytesOf cs).length := by
  rw [← length_bytesOf_toList, String.toList_ofList]

theorem bytesOf_injective {cs ds : List Char} (h : bytesOf cs = bytesOf ds) : cs = ds := by
  have hread (chars : List Char) : ofUtf8? (bytesOf chars) = some (String.ofList chars) := by
    rw [ofUtf8?_eq_some_iff, utf8, String.toList_ofList]
    rfl
  have hsame : some (String.ofList cs) = some (String.ofList ds) := by
    rw [← hread, h, hread]
  exact String.ofList_injective (Option.some.inj hsame)

/-- Characters are taken apart in one way where the bytes before are as many. -/
theorem append_inj_of_length_bytesOf {front back front' back' : List Char}
    (h : front ++ back = front' ++ back')
    (hlength : (bytesOf front).length = (bytesOf front').length) :
    front = front' ∧ back = back' := by
  have hbytes : bytesOf front ++ bytesOf back = bytesOf front' ++ bytesOf back' := by
    rw [← bytesOf_append, h, bytesOf_append]
  obtain ⟨hfront, hback⟩ := List.append_inj hbytes hlength
  exact ⟨bytesOf_injective hfront, bytesOf_injective hback⟩

theorem byte?_eq_getElem? (text : String) (offset : Nat) :
    byte? text offset = (bytesOf text.toList)[offset]? := by
  have hbytes : (bytesOf text.toList).toByteArray = text.toByteArray := toByteArray_utf8 text
  have hlength := length_bytesOf_toList text
  unfold byte?
  split
  · next h =>
    simp only [String.getUTF8Byte, ← hbytes, List.getElem_toByteArray]
    exact (List.getElem?_eq_getElem (hlength ▸ h)).symm
  · next h =>
    exact (List.getElem?_eq_none (by omega)).symm

theorem byte?_of_toList_eq {text : String} {front back : List Char}
    (h : text.toList = front ++ back) (offset : Nat) :
    byte? text ((bytesOf front).length + offset) = (bytesOf back)[offset]? := by
  rw [byte?_eq_getElem?, h, bytesOf_append, List.getElem?_append_right (Nat.le_add_right _ _),
    Nat.add_sub_cancel_left]

theorem byte?_length_bytesOf {text : String} {front back : List Char}
    (h : text.toList = front ++ back) :
    byte? text (bytesOf front).length = (bytesOf back).head? := by
  rw [List.head?_eq_getElem?]
  exact byte?_of_toList_eq h 0

/-- All bytes of a character beyond ASCII are beyond ASCII, the first one too. -/
theorem le_of_mem_utf8EncodeChar {c : Char} (hc : 0x80 ≤ c.toNat) {b : UInt8}
    (hb : b ∈ String.utf8EncodeChar c) : 0x80 ≤ b.toNat := by
  have hle {n m k : Nat} (hk : 0x80 ≤ k) (hm : 0 < m) (hsum : m + k ≤ 256) :
      0x80 ≤ (UInt8.ofNat (n % m + k)).toNat := by
    have hlt : n % m < m := Nat.mod_lt n hm
    rw [UInt8.toNat_ofNat', Nat.mod_eq_of_lt (by omega)]
    omega
  unfold String.utf8EncodeChar at hb
  dsimp only at hb
  split_ifs at hb with h₁
  · have hascii : c.toNat ≤ 0x7f := h₁
    omega
  all_goals
    simp only [List.mem_cons, List.not_mem_nil, or_false] at hb
  · rcases hb with rfl | rfl <;> exact hle (by decide) (by decide) (by decide)
  · rcases hb with rfl | rfl | rfl <;> exact hle (by decide) (by decide) (by decide)
  · rcases hb with rfl | rfl | rfl | rfl <;> exact hle (by decide) (by decide) (by decide)

/-- An ASCII byte is a character by itself. -/
theorem exists_of_ascii_byte {c : Char} (hc : c.toNat < 0x80) {cs : List Char} {offset : Nat}
    (h : (bytesOf cs)[offset]? = some (UInt8.ofNat c.toNat)) :
    ∃ front back, cs = front ++ c :: back ∧ (bytesOf front).length = offset := by
  induction cs generalizing offset with
  | nil => cases h
  | cons d cs ih =>
    have hencode : bytesOf (d :: cs) = String.utf8EncodeChar d ++ bytesOf cs := List.flatMap_cons
    rw [hencode] at h
    -- The byte is one of the first character, which then has no other, or of those behind it.
    by_cases hlt : offset < (String.utf8EncodeChar d).length
    · rw [List.getElem?_append_left hlt] at h
      have hmem := List.mem_of_getElem? h
      by_cases hd : d.toNat < 0x80
      · rw [utf8EncodeChar_of_ascii hd] at hlt hmem
        have hoffset : offset = 0 := Nat.lt_one_iff.mp hlt
        have hbyte := congrArg UInt8.toNat (List.mem_singleton.mp hmem)
        have hcd : c.toNat = d.toNat := by
          simp only [UInt8.toNat_ofNat'] at hbyte
          omega
        refine ⟨[], cs, ?_, hoffset.symm⟩
        rw [Char.toNat_inj.mp hcd]
        rfl
      · have hle := le_of_mem_utf8EncodeChar (Nat.le_of_not_lt hd) hmem
        simp only [UInt8.toNat_ofNat'] at hle
        omega
    · have hle := Nat.le_of_not_lt hlt
      rw [List.getElem?_append_right hle] at h
      obtain ⟨front, back, hback, hlength⟩ := ih h
      refine ⟨d :: front, back, by rw [hback]; rfl, ?_⟩
      rw [length_bytesOf_cons, hlength, ← String.length_utf8EncodeChar]
      omega

private theorem slice?_eq_some_iff {text part : String} {start stop : Nat} :
    slice? text start stop = some part ↔ ∃ front back : String,
      text = front ++ part ++ back ∧ front.utf8ByteSize = start ∧
        (front ++ part).utf8ByteSize = stop := by
  unfold slice?
  constructor
  · intro h
    split at h
    · next hvalid =>
      obtain ⟨hfirst, hlast, hle⟩ := hvalid
      have hslice := Option.some.inj h
      rw [String.extract_eq_copy_slice _ _ hle] at hslice
      obtain ⟨front, back, hfront, hback⟩ := String.copy_slice_eq_iff_splits.mp ⟨hle, hslice⟩
      refine ⟨front, back, hback.eq_append, ?_, ?_⟩
      · exact (congrArg String.Pos.Raw.byteIdx hfront.offset_eq_rawEndPos).symm
      · exact (congrArg String.Pos.Raw.byteIdx hback.offset_eq_rawEndPos).symm
    · cases h
  · rintro ⟨front, back, rfl, rfl, rfl⟩
    let first : (front ++ part ++ back).Pos := ⟨front.rawEndPos, by
      rw [String.append_assoc]
      exact String.Pos.Raw.isValid_rawEndPos.append_right _⟩
    let last : (front ++ part ++ back).Pos :=
      ⟨(front ++ part).rawEndPos, String.Pos.Raw.isValid_rawEndPos.append_right _⟩
    have hfront : first.Splits front (part ++ back) := ⟨String.append_assoc .., rfl⟩
    have hback : last.Splits (front ++ part) back := ⟨rfl, rfl⟩
    obtain ⟨hle, hslice⟩ := String.copy_slice_eq_iff_splits.mpr ⟨front, back, hfront, hback⟩
    have hpart : String.extract first last = part :=
      (String.extract_eq_copy_slice first last hle).trans hslice
    exact (dif_pos ⟨first.isValid, last.isValid, hle⟩).trans (congrArg some hpart)

theorem slice?_of_toList_eq {text : String} {front part back : List Char}
    (h : text.toList = front ++ part ++ back) :
    slice? text (bytesOf front).length (bytesOf (front ++ part)).length =
      some (String.ofList part) := by
  rw [slice?_eq_some_iff, ← utf8ByteSize_ofList, ← utf8ByteSize_ofList]
  refine ⟨String.ofList front, String.ofList back, ?_, rfl, ?_⟩
  · rw [← String.ofList_append, ← String.ofList_append, ← h, String.ofList_toList]
  · rw [String.ofList_append]

end TableSql.Text
