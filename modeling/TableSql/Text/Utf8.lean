/-! UTF-8: the bytes of a text, and the text of bytes. -/

namespace TableSql.Text

def utf8 (text : String) : List UInt8 := text.toList.flatMap String.utf8EncodeChar

def ofUtf8? (bytes : List UInt8) : Option String := String.fromUTF8? ⟨bytes.toArray⟩

/-- The character encoded by exactly the first `size` bytes. -/
def charOfBytes? (bytes : List UInt8) (size : Nat) : Option Char :=
  match (ofUtf8? (bytes.take size)).map String.toList with
  | some [c] => if size ≤ bytes.length then some c else none
  | _ => none

/-- The characters of bytes that need not be text; `none` stands for a byte that begins none.
`fuel` bounds the number of characters. -/
def charsOfBytes : Nat → List UInt8 → List (Option Char)
  | 0, _ => []
  | _, [] => []
  | fuel + 1, b :: rest =>
    match [1, 2, 3, 4].filterMap fun size => (charOfBytes? (b :: rest) size).map (·, size) with
    | (c, size) :: _ => some c :: charsOfBytes fuel (rest.drop (size - 1))
    | [] => none :: charsOfBytes fuel rest

/-- The characters of a text, or of bytes that are none. -/
def decode (bytes : List UInt8) : List (Option Char) :=
  match ofUtf8? bytes with
  | some text => text.toList.map some
  | none => charsOfBytes bytes.length bytes

end TableSql.Text
