import Mathlib.Data.Set.Card
import TableSql.Proofs.Text.Offset
import TableSql.Sql.Placeholder

/-! The scan of a text for placeholders, whatever the text is. What has been found at an offset are
the numerals behind the dollar signs before it: each round keeps this, and all rounds together pass
the whole text. -/

namespace TableSql.Sql

open Text (bytesOf)

/-- No digit stands first, so that a numeral before the text ends where the text begins. -/
def EndsNumeral (chars : List Char) : Prop := chars.takeWhile Char.isDigit = []

instance (chars : List Char) : Decidable (EndsNumeral chars) :=
  inferInstanceAs (Decidable (chars.takeWhile Char.isDigit = []))

/-- A dollar sign in a text, with all the digits that directly follow it. There may be none. -/
structure Dollar (text front digits back : List Char) : Prop where
  text_eq : text = front ++ '$' :: (digits ++ back)
  isDigit : ∀ c ∈ digits, c.isDigit
  endsNumeral : EndsNumeral back

/-- The digits behind the dollar signs of a text, where there are any. -/
def numerals (text : String) : Set String :=
  {numeral | numeral ≠ "" ∧ ∃ front back, Dollar text.toList front numeral.toList back}

def numeralsBefore (text : String) (offset : Nat) : Set String :=
  {numeral | numeral ≠ "" ∧ ∃ front back,
    Dollar text.toList front numeral.toList back ∧ (bytesOf front).length < offset}

theorem endsNumeral_iff {chars : List Char} :
    EndsNumeral chars ↔ chars.head?.any Char.isDigit = false := by
  unfold EndsNumeral
  cases chars with
  | nil => decide
  | cons c rest =>
    rw [List.takeWhile_cons]
    split
    · next hc => simp [hc]
    · next hc => simp [hc]

theorem endsNumeral_dropWhile (chars : List Char) :
    EndsNumeral (chars.dropWhile Char.isDigit) := by
  induction chars with
  | nil => rfl
  | cons c rest ih =>
    rw [List.dropWhile_cons]
    split
    · exact ih
    · next hc => exact List.takeWhile_cons_of_neg hc

theorem takeWhile_digits_append {digits back : List Char} (hdigits : ∀ c ∈ digits, c.isDigit)
    (hback : EndsNumeral back) : (digits ++ back).takeWhile Char.isDigit = digits := by
  rw [List.takeWhile_append_of_pos hdigits, hback, List.append_nil]

private theorem isDigitByte_iff_toNat {b : UInt8} :
    isDigitByte b ↔ 0x30 ≤ b.toNat ∧ b.toNat ≤ 0x39 := by
  simp only [isDigitByte, Bool.and_eq_true, decide_eq_true_eq, UInt8.le_iff_toNat_le,
    UInt8.reduceToNat]

/-- The bytes of a character are digits just where it is one. -/
theorem isDigitByte_of_mem_utf8EncodeChar {c : Char} {b : UInt8}
    (hb : b ∈ String.utf8EncodeChar c) : isDigitByte b = c.isDigit := by
  have hdigit : c.isDigit ↔ 0x30 ≤ c.toNat ∧ c.toNat ≤ 0x39 := Char.isDigit_iff_toNat
  rw [Bool.eq_iff_iff, isDigitByte_iff_toNat, hdigit]
  by_cases hc : c.toNat < 0x80
  · rw [Text.utf8EncodeChar_of_ascii hc, List.mem_singleton] at hb
    have hvalue : b.toNat = c.toNat := by
      rw [hb, UInt8.toNat_ofNat', Nat.mod_eq_of_lt (by omega)]
    rw [hvalue]
  · have hle := Text.le_of_mem_utf8EncodeChar (Nat.le_of_not_lt hc) hb
    omega

private theorem isDigitByte_of_mem_bytesOf {digits : List Char} (hdigits : ∀ c ∈ digits, c.isDigit)
    {b : UInt8} (hb : b ∈ bytesOf digits) : isDigitByte b := by
  obtain ⟨c, hc, hb⟩ := List.mem_flatMap.mp hb
  rw [isDigitByte_of_mem_utf8EncodeChar hb]
  exact hdigits c hc

private theorem toNat_lt_of_isDigit {c : Char} (hc : c.isDigit) : c.toNat < 0x80 :=
  Nat.lt_of_le_of_lt (Char.isDigit_iff_toNat.mp hc).2 (by decide)

/-- The byte behind some characters is a digit just where the next character is one. -/
theorem any_isDigitByte {text : String} {front back : List Char}
    (htext : text.toList = front ++ back) :
    (Text.byte? text (bytesOf front).length).any isDigitByte = back.head?.any Char.isDigit := by
  rw [Text.byte?_length_bytesOf htext]
  cases back with
  | nil => rfl
  | cons c rest =>
    obtain ⟨lead, tail, hencode, -⟩ := Text.exists_utf8EncodeChar c
    have hlead : isDigitByte lead = c.isDigit :=
      isDigitByte_of_mem_utf8EncodeChar (hencode ▸ List.mem_cons_self)
    rw [bytesOf, List.flatMap_cons, hencode]
    exact hlead

/-- The digits at an offset are passed one after another, up to their end. -/
theorem digitsEnd_eq {text : String} {front digits back : List Char}
    (htext : text.toList = front ++ digits ++ back) (hdigits : ∀ c ∈ digits, c.isDigit)
    (hback : EndsNumeral back) :
    digitsEnd text (bytesOf front).length = (bytesOf (front ++ digits)).length := by
  induction digits generalizing front with
  | nil =>
    rw [List.append_nil] at htext ⊢
    have hend := any_isDigitByte htext
    rw [endsNumeral_iff.mp hback] at hend
    rw [digitsEnd, dif_neg (Bool.eq_false_iff.mp hend)]
  | cons c digits ih =>
    obtain ⟨hc, hdigits⟩ := List.forall_mem_cons.mp hdigits
    have hpassed : (Text.byte? text (bytesOf front).length).any isDigitByte := by
      rw [List.append_assoc] at htext
      rw [any_isDigitByte htext]
      exact hc
    have hsplit : front ++ c :: digits = front ++ [c] ++ digits := by
      rw [List.append_assoc, List.singleton_append]
    rw [hsplit] at htext ⊢
    have hnext := Text.length_bytesOf_concat_ascii (toNat_lt_of_isDigit hc) front
    rw [digitsEnd, dif_pos hpassed, ← hnext]
    exact ih htext hdigits

theorem length_bytesOf_concat_dollar (front : List Char) :
    (bytesOf (front ++ ['$'])).length = (bytesOf front).length + 1 :=
  Text.length_bytesOf_concat_ascii (by decide) front

namespace Dollar

variable {text : String} {front digits back front' digits' back' : List Char}

theorem toList_eq (h : Dollar text.toList front digits back) :
    text.toList = front ++ ['$'] ++ digits ++ back := by
  rw [h.text_eq, List.append_assoc, List.append_assoc, List.singleton_append]

theorem byte?_eq (h : Dollar text.toList front digits back) :
    Text.byte? text (bytesOf front).length = some dollarByte := by
  rw [Text.byte?_length_bytesOf h.text_eq]
  rfl

/-- The offset of a dollar sign determines the digits behind it. -/
theorem digits_eq {chars : List Char} (h : Dollar chars front digits back)
    (h' : Dollar chars front' digits' back')
    (hlength : (bytesOf front).length = (bytesOf front').length) : digits = digits' := by
  have htexts := h.text_eq.symm.trans h'.text_eq
  obtain ⟨-, hrest⟩ := Text.append_inj_of_length_bytesOf htexts hlength
  have hdigits := congrArg (List.takeWhile Char.isDigit) (List.cons.inj hrest).2
  rwa [takeWhile_digits_append h.isDigit h.endsNumeral,
    takeWhile_digits_append h'.isDigit h'.endsNumeral] at hdigits

/-- No dollar sign stands among the digits behind another. -/
theorem length_le_of_lt (h : Dollar text.toList front digits back)
    (h' : Dollar text.toList front' digits' back')
    (hlt : (bytesOf front).length < (bytesOf front').length) :
    (bytesOf (front ++ ['$'] ++ digits)).length ≤ (bytesOf front').length := by
  -- Else the byte of this dollar sign would be one of the bytes of the digits.
  by_contra hinside
  obtain ⟨k, hk⟩ := Nat.exists_eq_add_of_le hlt
  rw [Text.length_bytesOf_append, length_bytesOf_concat_dollar] at hinside
  have hin : k < (bytesOf digits).length := by omega
  have htext : text.toList = (front ++ ['$']) ++ (digits ++ back) := by
    rw [h.toList_eq, List.append_assoc]
  have hbyte := Text.byte?_of_toList_eq htext k
  rw [length_bytesOf_concat_dollar, ← hk, h'.byte?_eq, Text.bytesOf_append,
    List.getElem?_append_left hin] at hbyte
  have hdigit := isDigitByte_of_mem_bytesOf h.isDigit (List.mem_of_getElem? hbyte.symm)
  exact absurd hdigit (by decide)

end Dollar

theorem exists_dollar {text : String} {offset : Nat}
    (h : Text.byte? text offset = some dollarByte) :
    ∃ front digits back,
      Dollar text.toList front digits back ∧ (bytesOf front).length = offset := by
  rw [Text.byte?_eq_getElem?] at h
  have hascii : '$'.toNat < 0x80 := by decide
  obtain ⟨front, rest, htext, hlength⟩ := Text.exists_of_ascii_byte hascii h
  refine ⟨front, rest.takeWhile Char.isDigit, rest.dropWhile Char.isDigit, ⟨?_, ?_, ?_⟩, hlength⟩
  · rw [htext, List.takeWhile_append_dropWhile]
  · exact List.all_eq_true.mp List.all_takeWhile
  · exact endsNumeral_dropWhile rest

private theorem numeralsBefore_zero (text : String) : numeralsBefore text 0 = ∅ := by
  ext numeral
  constructor
  · rintro ⟨-, front, back, -, hlt⟩
    exact absurd hlt (Nat.not_lt_zero _)
  · exact False.elim

private theorem numeralsBefore_utf8ByteSize (text : String) :
    numeralsBefore text text.utf8ByteSize = numerals text := by
  ext numeral
  refine and_congr_right fun _ => exists_congr fun front => exists_congr fun back =>
    and_iff_left_of_imp fun hdollar => ?_
  exact Text.lt_utf8ByteSize_of_byte? hdollar.byte?_eq

/-- A byte that is no dollar sign adds no numeral. -/
theorem numeralsBefore_succ {text : String} {offset : Nat}
    (h : Text.byte? text offset ≠ some dollarByte) :
    numeralsBefore text (offset + 1) = numeralsBefore text offset := by
  ext numeral
  refine and_congr_right fun _ => exists_congr fun front => exists_congr fun back =>
    and_congr_right fun hdollar => ?_
  have hne : (bytesOf front).length ≠ offset := by
    rintro rfl
    exact h hdollar.byte?_eq
  omega

/-- A dollar sign adds the digits behind it, and no other up to where they end. -/
theorem Dollar.mem_numeralsBefore_iff {text : String} {front digits back : List Char}
    (h : Dollar text.toList front digits back) (numeral : String) :
    numeral ∈ numeralsBefore text (bytesOf (front ++ ['$'] ++ digits)).length ↔
      numeral ∈ numeralsBefore text (bytesOf front).length ∨
        digits ≠ [] ∧ numeral = String.ofList digits := by
  have hlength : (bytesOf (front ++ ['$'] ++ digits)).length =
      (bytesOf front).length + 1 + (bytesOf digits).length := by
    rw [Text.length_bytesOf_append, length_bytesOf_concat_dollar]
  constructor
  · rintro ⟨hne, front', back', hdollar, hlt⟩
    obtain hbefore | hsame | hbehind :=
      Nat.lt_trichotomy (bytesOf front').length (bytesOf front).length
    · exact .inl ⟨hne, front', back', hdollar, hbefore⟩
    · have hdigits := h.digits_eq hdollar hsame.symm
      refine .inr ⟨?_, ?_⟩
      · rw [hdigits]
        exact fun hnil => hne (String.toList_eq_nil_iff.mp hnil)
      · rw [hdigits, String.ofList_toList]
    · have hle := h.length_le_of_lt hdollar hbehind
      omega
  · rintro (⟨hne, front', back', hdollar, hlt⟩ | ⟨hne, rfl⟩)
    · exact ⟨hne, front', back', hdollar, by omega⟩
    · refine ⟨?_, front, back, ?_, by omega⟩
      · rw [Ne, ← String.toList_eq_nil_iff, String.toList_ofList]
        exact hne
      · rwa [String.toList_ofList]

namespace Scan

variable {text : String} {scan next last : Scan} {rounds : Nat}

/-- What a round does at a dollar sign. The digits behind it are found where they are sliced. -/
theorem next?_of_dollar {front digits back : List Char} (h : Dollar text.toList front digits back)
    (hoffset : (bytesOf front).length = scan.offset) :
    scan.next? text = some ⟨(bytesOf (front ++ ['$'] ++ digits)).length,
      if digits = [] then scan.found else scan.found.insert (String.ofList digits)⟩ := by
  have hbyte : Text.byte? text scan.offset = some dollarByte := hoffset ▸ h.byte?_eq
  have hfirst : scan.offset + 1 = (bytesOf (front ++ ['$'])).length := by
    rw [length_bytesOf_concat_dollar, hoffset]
  have hstop := digitsEnd_eq h.toList_eq h.isDigit h.endsNumeral
  have hslice := Text.slice?_of_toList_eq h.toList_eq
  unfold next?
  rw [if_pos hbyte]
  dsimp only
  rw [hfirst, hstop, hslice]
  by_cases hdigits : digits = []
  · rw [hdigits, List.append_nil, if_neg (Nat.lt_irrefl _), if_pos rfl]
  · have hpos : 0 < (bytesOf digits).length := by
      rw [List.length_pos_iff]
      intro hnil
      exact hdigits (Text.bytesOf_injective hnil)
    rw [if_pos, if_neg hdigits, Option.map_some]
    rw [Text.length_bytesOf_append (front ++ ['$'])]
    exact Nat.lt_add_of_pos_right hpos

theorem next?_of_ne (h : Text.byte? text scan.offset ≠ some dollarByte) :
    scan.next? text = some ⟨scan.offset + 1, scan.found⟩ :=
  if_neg h

/-- Inside the text there always is a next scan, and it is not behind the end. -/
theorem exists_next? (hlt : scan.offset < text.utf8ByteSize) :
    ∃ next, scan.next? text = some next ∧ next.offset ≤ text.utf8ByteSize := by
  by_cases hbyte : Text.byte? text scan.offset = some dollarByte
  · obtain ⟨front, digits, back, hdollar, hoffset⟩ := exists_dollar hbyte
    refine ⟨_, next?_of_dollar hdollar hoffset, ?_⟩
    rw [← Text.length_bytesOf_toList, hdollar.toList_eq, Text.length_bytesOf_append _ back]
    exact Nat.le_add_right _ _
  · exact ⟨_, next?_of_ne hbyte, hlt⟩

/-- What has been found are the numerals before the offset, each once. -/
structure Covers (text : String) (scan : Scan) : Prop where
  nodup : scan.found.Nodup
  mem_iff : ∀ numeral, numeral ∈ scan.found ↔ numeral ∈ numeralsBefore text scan.offset

private theorem covers_start (text : String) : Covers text start where
  nodup := List.nodup_nil
  mem_iff numeral := by
    rw [start, numeralsBefore_zero]
    exact iff_of_false List.not_mem_nil (Set.notMem_empty numeral)

/-- A round keeps that. No dollar sign is passed by, whether the digits behind it end the round or
the round is one byte. -/
theorem Covers.of_next? (h : Covers text scan) (hnext : scan.next? text = some next) :
    Covers text next := by
  by_cases hbyte : Text.byte? text scan.offset = some dollarByte
  · obtain ⟨front, digits, back, hdollar, hoffset⟩ := exists_dollar hbyte
    rw [next?_of_dollar hdollar hoffset] at hnext
    obtain rfl := Option.some.inj hnext
    have hmem := hdollar.mem_numeralsBefore_iff
    rw [hoffset] at hmem
    by_cases hdigits : digits = []
    · rw [if_pos hdigits]
      refine ⟨h.nodup, fun numeral => ?_⟩
      rw [hmem, h.mem_iff]
      exact (or_iff_left fun hadded => hadded.1 hdigits).symm
    · rw [if_neg hdigits]
      refine ⟨h.nodup.insert, fun numeral => ?_⟩
      rw [hmem, List.mem_insert_iff, h.mem_iff, and_iff_right hdigits, or_comm]
  · rw [next?_of_ne hbyte] at hnext
    obtain rfl := Option.some.inj hnext
    refine ⟨h.nodup, fun numeral => ?_⟩
    rw [numeralsBefore_succ hbyte, h.mem_iff]

/-- A number of rounds, each begun inside the text, that lead from one scan to another. -/
inductive Reaches (text : String) : Nat → Scan → Scan → Prop
  | done (scan : Scan) : Reaches text 0 scan scan
  | round {rounds : Nat} {scan next last : Scan} (hlt : scan.offset < text.utf8ByteSize)
      (hnext : scan.next? text = some next) (hrest : Reaches text rounds next last) :
      Reaches text (rounds + 1) scan last

theorem Reaches.covers (h : Reaches text rounds scan last) (hscan : Covers text scan) :
    Covers text last := by
  induction h with
  | done => exact hscan
  | round hlt hnext hrest ih => exact ih (hscan.of_next? hnext)

theorem Reaches.run?_eq (h : Reaches text rounds scan last) :
    scan.run? text = last.run? text := by
  induction h with
  | done => rfl
  | round hlt hnext hrest ih =>
    rw [run?, if_pos hlt]
    split
    · next hnext' =>
      obtain rfl := Option.some.inj (hnext.symm.trans hnext')
      exact ih
    · next hnone =>
      rw [hnext] at hnone
      cases hnone

/-- Each round comes nearer to the end, so that it is reached. -/
theorem exists_reaches (hle : scan.offset ≤ text.utf8ByteSize) :
    ∃ rounds last, Reaches text rounds scan last ∧ last.offset = text.utf8ByteSize ∧
      rounds + scan.offset ≤ text.utf8ByteSize := by
  induction hleft : text.utf8ByteSize - scan.offset using Nat.strongRecOn generalizing scan with
  | _ left ih =>
    rcases Nat.lt_or_eq_of_le hle with hlt | heq
    · obtain ⟨next, hnext, hnextle⟩ := exists_next? hlt
      have hforward := offset_lt_of_next? hnext
      obtain ⟨rounds, last, hreaches, hend, hrounds⟩ :=
        ih (text.utf8ByteSize - next.offset) (by omega) hnextle rfl
      exact ⟨rounds + 1, last, .round hlt hnext hreaches, hend, by omega⟩
    · exact ⟨0, scan, .done scan, heq, by omega⟩

private theorem run?_of_end (h : scan.offset = text.utf8ByteSize) : scan.run? text = some scan := by
  rw [run?, if_neg (by omega)]

end Scan

/-- The scan of a text is over after at most as many rounds as it has bytes, and has found the
numerals then. -/
theorem exists_scanned (text : String) :
    ∃ rounds ≤ text.utf8ByteSize, ∃ last, Scan.Reaches text rounds .start last ∧
      last.offset = text.utf8ByteSize ∧ last.found.Nodup ∧
      (∀ numeral, numeral ∈ last.found ↔ numeral ∈ numerals text) ∧
      placeholderCount? text = some last.found.length := by
  have hstart : Scan.start.offset ≤ text.utf8ByteSize := Nat.zero_le _
  obtain ⟨rounds, last, hreaches, hend, hrounds⟩ := Scan.exists_reaches hstart
  have hcovers := hreaches.covers (Scan.covers_start text)
  refine ⟨rounds, hrounds, last, hreaches, hend, hcovers.nodup, ?_, ?_⟩
  · rw [← numeralsBefore_utf8ByteSize, ← hend]
    exact hcovers.mem_iff
  · rw [placeholderCount?, hreaches.run?_eq, Scan.run?_of_end hend, Option.map_some]

/-- The scan of any text comes to the end of it, in no more rounds than there are bytes and with
every slice taken, and counts the numerals behind dollar signs, each once: the runs of at least one
digit that directly follow a dollar sign and end where the digits do. -/
theorem scan_counts_each_numeral_once (text : String) :
    (∃ rounds ≤ text.utf8ByteSize, ∃ last, Scan.Reaches text rounds .start last ∧
      last.offset = text.utf8ByteSize ∧ last.found.length = placeholderCount text) ∧
    placeholderCount? text = some (placeholderCount text) ∧
    (numerals text).encard = placeholderCount text := by
  obtain ⟨rounds, hrounds, last, hreaches, hend, hnodup, hmem, hcount⟩ := exists_scanned text
  have hlength : placeholderCount text = last.found.length := by
    rw [placeholderCount, hcount, Option.getD_some]
  have hset : numerals text = (last.found.toFinset : Set String) := by
    ext numeral
    rw [Finset.mem_coe, List.mem_toFinset, hmem]
  refine ⟨⟨rounds, hrounds, last, hreaches, hend, hlength.symm⟩, ?_, ?_⟩
  · rw [hcount, hlength]
  · rw [hset, Set.encard_coe_eq_coe_finsetCard, List.toFinset_card_of_nodup hnodup, hlength]

example : placeholderCount? "é$12$$1€$12$" = some 2 := by decide +kernel

end TableSql.Sql
