import TableSql.Decimal.Integer
import TableSql.Sql.Column
import TableSql.Text.Offset

/-! Placeholders: a dollar sign before the ordinal of an argument, which counts from 1. Those of a
text, which may be any, are counted by a scan of its bytes. -/

namespace TableSql.Sql

def placeholder (ordinal : Nat) : String := "$" ++ Decimal.numeral ordinal

def placeholders (ordinals : List Nat) : String := commaList (ordinals.map placeholder)

def dollarByte : UInt8 := 0x24

def isDigitByte (b : UInt8) : Bool := 0x30 ≤ b && b ≤ 0x39

def digitsEnd (text : String) (offset : Nat) : Nat :=
  if h : (Text.byte? text offset).any isDigitByte then digitsEnd text (offset + 1) else offset
termination_by text.utf8ByteSize - offset
decreasing_by
  obtain ⟨b, hb, -⟩ := (Option.any_eq_true _ _).mp h
  have := Text.lt_utf8ByteSize_of_byte? hb
  omega

theorem le_digitsEnd (text : String) (offset : Nat) : offset ≤ digitsEnd text offset := by
  fun_induction digitsEnd text offset with
  | case1 offset h ih => exact Nat.le_of_succ_le ih
  | case2 offset h => exact Nat.le_refl offset

/-- A scan for placeholders: how far it has come in the bytes of a text, and the numerals it has
found up to there, each once. -/
structure Scan where
  offset : Nat
  found : List String
  deriving Repr

namespace Scan

def start : Scan := ⟨0, []⟩

/-- A round of the scan. Behind a dollar sign the digits are taken from the text, if there are any,
and the scan goes on where they end. There is no next scan where they could not be taken. -/
def next? (text : String) (scan : Scan) : Option Scan :=
  if Text.byte? text scan.offset = some dollarByte then
    let first := scan.offset + 1
    let stop := digitsEnd text first
    if first < stop then
      (Text.slice? text first stop).map fun numeral => ⟨stop, scan.found.insert numeral⟩
    else some ⟨first, scan.found⟩
  else some ⟨scan.offset + 1, scan.found⟩

theorem offset_lt_of_next? {text : String} {scan next : Scan} (h : scan.next? text = some next) :
    scan.offset < next.offset := by
  unfold next? at h
  split at h
  · dsimp only at h
    split at h
    · obtain ⟨numeral, -, rfl⟩ := Option.map_eq_some_iff.mp h
      exact le_digitsEnd text (scan.offset + 1)
    · cases h
      exact Nat.lt_succ_self scan.offset
  · cases h
    exact Nat.lt_succ_self scan.offset

/-- All rounds up to the end of the text. -/
def run? (text : String) (scan : Scan) : Option Scan :=
  if scan.offset < text.utf8ByteSize then
    match h : scan.next? text with
    | some next =>
      have := offset_lt_of_next? h
      next.run? text
    | none => none
  else some scan
termination_by text.utf8ByteSize - scan.offset

end Scan

/-- The number of different placeholders that a scan of a text finds. Ordinals differ when their
digits do. -/
def placeholderCount? (text : String) : Option Nat :=
  (Scan.start.run? text).map fun scan => scan.found.length

/-- The scan finds a number in any text. -/
def placeholderCount (text : String) : Nat := (placeholderCount? text).getD 0

end TableSql.Sql
