/-! Offsets into the bytes of a text: the byte at one, and the text between two. -/

namespace TableSql.Text

/-- The byte at an offset. There is none where the text has ended. -/
def byte? (text : String) (offset : Nat) : Option UInt8 :=
  if h : offset < text.utf8ByteSize then some (text.getUTF8Byte ⟨offset⟩ h) else none

theorem lt_utf8ByteSize_of_byte? {text : String} {offset : Nat} {b : UInt8}
    (h : byte? text offset = some b) : offset < text.utf8ByteSize := by
  unfold byte? at h
  split at h
  · assumption
  · cases h

/-- The text between two offsets. There is none where one of them is inside a character or behind
the end, or where they are the wrong way round. -/
def slice? (text : String) (start stop : Nat) : Option String :=
  if h : (String.Pos.Raw.mk start).IsValid text ∧ (String.Pos.Raw.mk stop).IsValid text ∧
      start ≤ stop then
    some (text.extract ⟨⟨start⟩, h.1⟩ ⟨⟨stop⟩, h.2.1⟩)
  else none

end TableSql.Text
