import Mathlib.Data.List.Basic
import Mathlib.Tactic.SplitIfs
import TableSql.Proofs.Text.Utf8
import TableSql.Text.Excerpt

/-! Excerpts: bytes can be cut just where a character ends, and an excerpt ends at the last such
offset within its limit. -/

namespace TableSql.Text

theorem isContinuation_ofNat {n : Nat} (h : n < 256) :
    isContinuation (UInt8.ofNat n) ↔ 0x80 ≤ n ∧ n < 0xc0 := by
  simp only [isContinuation, Bool.and_eq_true, decide_eq_true_eq, UInt8.le_iff_toNat_le,
    UInt8.lt_iff_toNat_lt, UInt8.toNat_ofNat', Nat.mod_eq_of_lt h, UInt8.reduceToNat]

/-- The first byte of a character begins it, the others go on with it. -/
theorem exists_utf8EncodeChar (c : Char) :
    ∃ lead tail, String.utf8EncodeChar c = lead :: tail ∧ ¬ isContinuation lead ∧
      ∀ b ∈ tail, isContinuation b := by
  have htail (n : Nat) : isContinuation (UInt8.ofNat (n % 64 + 128)) := by
    rw [isContinuation_ofNat] <;> omega
  unfold String.utf8EncodeChar
  dsimp only
  split_ifs with h₁ h₂ h₃
  all_goals
    refine ⟨_, _, rfl, ?_, ?_⟩
    · rw [isContinuation_ofNat] <;> omega
    · simp only [List.mem_cons, List.not_mem_nil, or_false, forall_eq_or_imp, forall_eq, htail,
        and_self, false_implies, implies_true]

def bytesOf (cs : List Char) : List UInt8 := cs.flatMap String.utf8EncodeChar

theorem bytesOf_append (front back : List Char) :
    bytesOf (front ++ back) = bytesOf front ++ bytesOf back :=
  List.flatMap_append

theorem length_bytesOf_cons (c : Char) (cs : List Char) :
    (bytesOf (c :: cs)).length = c.utf8Size + (bytesOf cs).length := by
  rw [bytesOf, List.flatMap_cons, List.length_append, String.length_utf8EncodeChar]
  rfl

theorem length_utf8 (text : String) : (utf8 text).length = text.utf8ByteSize := by
  rw [← String.size_toByteArray, ← toByteArray_utf8, List.size_toByteArray]

/-- Nothing of the text before goes on where characters begin. -/
private theorem isBoundary_append_length (bytes : List UInt8) (cs : List Char) :
    isBoundary (bytes ++ bytesOf cs) bytes.length := by
  cases cs with
  | nil => simp [isBoundary, bytesOf]
  | cons c cs =>
    obtain ⟨lead, tail, hencode, hlead, -⟩ := exists_utf8EncodeChar c
    have hget : (bytes ++ bytesOf (c :: cs))[bytes.length]? = some lead := by
      rw [List.getElem?_append_right (Nat.le_refl _), Nat.sub_self, bytesOf, List.flatMap_cons,
        hencode]
      rfl
    rw [isBoundary, hget]
    simp [hlead]

/-- Bytes before do not matter where what follows is cut inside. -/
private theorem isBoundary_append_of_pos (bytes bytes' : List UInt8) {offset : Nat}
    (h : 0 < offset) :
    isBoundary (bytes ++ bytes') (bytes.length + offset) = isBoundary bytes' offset := by
  have hne : offset ≠ 0 := Nat.ne_of_gt h
  have hne' : bytes.length + offset ≠ 0 := by omega
  simp only [isBoundary, List.getElem?_append_right (Nat.le_add_right _ _), Nat.add_sub_cancel_left,
    List.length_append, Nat.add_left_cancel_iff, hne, hne']

/-- Behind its first byte a character cannot be cut. -/
private theorem not_isBoundary_inside {c : Char} {cs : List Char} {offset : Nat} (hpos : 0 < offset)
    (hlt : offset < c.utf8Size) : ¬ isBoundary (bytesOf (c :: cs)) offset := by
  obtain ⟨lead, tail, hencode, -, htail⟩ := exists_utf8EncodeChar c
  rw [← String.length_utf8EncodeChar, hencode] at hlt
  obtain ⟨offset, rfl⟩ := Nat.exists_eq_succ_of_ne_zero (Nat.ne_of_gt hpos)
  have hin : offset < tail.length := Nat.lt_of_succ_lt_succ hlt
  have hget : (bytesOf (c :: cs))[offset + 1]? = some tail[offset] := by
    rw [bytesOf, List.flatMap_cons, hencode, List.cons_append, List.getElem?_cons_succ,
      List.getElem?_append_left hin, List.getElem?_eq_getElem hin]
  rw [isBoundary, Nat.succ_eq_add_one, hget]
  simp [htail _ (List.getElem_mem hin)]

/-- Bytes can be cut where some of their characters end. -/
theorem isBoundary_iff_exists_prefix {cs : List Char} {offset : Nat} :
    isBoundary (bytesOf cs) offset ↔ ∃ front, front <+: cs ∧ (bytesOf front).length = offset := by
  constructor
  · intro h
    induction cs generalizing offset with
    | nil =>
      refine ⟨[], List.nil_prefix, ?_⟩
      simpa [isBoundary, bytesOf, eq_comm] using h
    | cons c cs ih =>
      obtain rfl | hpos := Nat.eq_zero_or_pos offset
      · exact ⟨[], List.nil_prefix, rfl⟩
      by_cases hlt : offset < c.utf8Size
      · exact absurd h (not_isBoundary_inside hpos hlt)
      -- Behind the first character the offset is a boundary of what follows it.
      obtain ⟨rest, rfl⟩ := Nat.exists_eq_add_of_le (Nat.le_of_not_lt hlt)
      have hrest : isBoundary (bytesOf cs) rest := by
        obtain rfl | hrest := Nat.eq_zero_or_pos rest
        · rfl
        rwa [bytesOf, List.flatMap_cons, ← String.length_utf8EncodeChar,
          isBoundary_append_of_pos _ _ hrest] at h
      obtain ⟨front, hfront, hlength⟩ := ih hrest
      exact ⟨c :: front, List.prefix_cons_inj c |>.mpr hfront, by rw [length_bytesOf_cons, hlength]⟩
  · rintro ⟨front, ⟨back, rfl⟩, rfl⟩
    rw [bytesOf_append]
    exact isBoundary_append_length _ _

theorem boundaryUpTo_le (bytes : List UInt8) (offset : Nat) :
    boundaryUpTo bytes offset ≤ offset := by
  induction offset with
  | zero => exact Nat.le_refl 0
  | succ offset ih =>
    rw [boundaryUpTo]
    split
    · exact Nat.le_refl _
    · exact Nat.le_succ_of_le ih

theorem isBoundary_boundaryUpTo (bytes : List UInt8) (offset : Nat) :
    isBoundary bytes (boundaryUpTo bytes offset) := by
  induction offset with
  | zero => rfl
  | succ offset ih =>
    rw [boundaryUpTo]
    split
    · next h => exact h
    · exact ih

/-- The search backwards passes no boundary by. -/
theorem le_boundaryUpTo {bytes : List UInt8} {offset limit : Nat} (h : isBoundary bytes offset)
    (hle : offset ≤ limit) : offset ≤ boundaryUpTo bytes limit := by
  induction limit with
  | zero => exact hle
  | succ limit ih =>
    rw [boundaryUpTo]
    split
    · exact hle
    · next hlimit =>
      have hne : offset ≠ limit + 1 := by
        rintro rfl
        exact hlimit h
      exact ih (by omega)

example : isBoundary (utf8 "éé") 3 = false ∧ boundaryUpTo (utf8 "éé") 3 = 2 := by decide

theorem exists_before? {text : String} {offset : Nat} (h : isBoundary (utf8 text) offset) :
    ∃ front : String, before? text offset = some front ∧ front.toList <+: text.toList ∧
      (utf8 front).length = offset := by
  obtain ⟨front, ⟨back, hback⟩, hlength⟩ := isBoundary_iff_exists_prefix.mp h
  have hfront : utf8 (String.ofList front) = bytesOf front :=
    congrArg bytesOf String.toList_ofList
  have hbytes : utf8 text = bytesOf front ++ bytesOf back := by
    rw [utf8, ← hback]
    exact bytesOf_append front back
  refine ⟨String.ofList front, ?_, ?_, by rw [hfront, hlength]⟩
  · rw [before?, if_pos h, ofUtf8?_eq_some_iff, hfront, hbytes, ← hlength, List.take_left]
  · rw [String.toList_ofList, ← hback]
    exact List.prefix_append front back

theorem cut?_of_length_le {limit : Option Nat} {text : String}
    (h : ∀ max ∈ limit, (utf8 text).length ≤ max) : cut? limit text = some text := by
  cases limit with
  | none => rfl
  | some max =>
    have hle : text.utf8ByteSize ≤ max := length_utf8 text ▸ h max rfl
    exact if_neg (Nat.not_lt_of_le hle)

/-- A text that is too long is cut behind as many of its characters as fit. -/
theorem exists_cut?_of_lt_length {max : Nat} {text : String} (h : max < (utf8 text).length) :
    ∃ front : String, cut? (some max) text = some (front ++ "...") ∧
      front.toList <+: text.toList ∧
      (utf8 front).length = boundaryUpTo (utf8 text) max := by
  rw [length_utf8] at h
  obtain ⟨front, hbefore, hprefix, hlength⟩ :=
    exists_before? (isBoundary_boundaryUpTo (utf8 text) max)
  refine ⟨front, ?_, hprefix, hlength⟩
  simp only [cut?, if_pos h, hbefore, Option.map_some]

/-- The search finds a boundary, so that no text is left uncut. -/
theorem cut?_eq_some_excerpt (limit : Option Nat) (text : String) :
    cut? limit text = some (excerpt limit text) := by
  have hsome : ∃ shown, cut? limit text = some shown := by
    by_cases hfits : ∀ max ∈ limit, (utf8 text).length ≤ max
    · exact ⟨text, cut?_of_length_le hfits⟩
    · obtain ⟨max, hmax⟩ := not_forall.mp hfits
      obtain ⟨rfl, hlonger⟩ := Classical.not_imp.mp hmax
      obtain ⟨front, hcut, -⟩ := exists_cut?_of_lt_length (Nat.lt_of_not_le hlonger)
      exact ⟨_, hcut⟩
  obtain ⟨shown, hshown⟩ := hsome
  rw [excerpt, hshown, Option.getD_some]

end TableSql.Text
