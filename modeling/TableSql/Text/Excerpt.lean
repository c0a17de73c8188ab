import TableSql.Text.Utf8

/-! The beginning of a text within a number of bytes. -/

namespace TableSql.Text

/-- Whether a byte goes on with a character that a byte before it began. -/
def isContinuation (b : UInt8) : Bool := 0x80 ≤ b && b < 0xc0

/-- Whether bytes can be cut at an offset: a character begins there, or the bytes end. -/
def isBoundary (bytes : List UInt8) (offset : Nat) : Bool :=
  offset = 0 || match bytes[offset]? with
    | some b => !isContinuation b
    | none => offset = bytes.length

/-- The last boundary that is not behind an offset. -/
def boundaryUpTo (bytes : List UInt8) : Nat → Nat
  | 0 => 0
  | offset + 1 => if isBoundary bytes (offset + 1) then offset + 1 else boundaryUpTo bytes offset

/-- The text before an offset. There is none where the offset is not at a boundary. -/
def before? (text : String) (offset : Nat) : Option String :=
  if isBoundary (utf8 text) offset then ofUtf8? ((utf8 text).take offset) else none

/-- A text longer than `limit` bytes is cut at the last boundary up to there and followed by three
dots. A cut inside a character would leave no text. -/
def cut? (limit : Option Nat) (text : String) : Option String :=
  match limit with
  | none => some text
  | some limit =>
    if limit < text.utf8ByteSize then
      (before? text (boundaryUpTo (utf8 text) limit)).map (· ++ "...")
    else some text

def excerpt (limit : Option Nat) (text : String) : String := (cut? limit text).getD text

end TableSql.Text
