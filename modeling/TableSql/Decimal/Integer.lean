import TableSql.Power

/-! Decimal numerals of integers: written without padding, read within the bounds of an integer type. -/

namespace TableSql.Decimal

/-- The decimal digits of `n`, most significant first, with no leading zero. -/
def numeral (n : Nat) : String :=
  String.ofList (Nat.toDigits 10 n)

/-- A minus sign before the digits of a negative number. -/
def signedNumeral (i : Int) : String :=
  match i with
  | .ofNat n => numeral n
  | .negSucc n => "-" ++ numeral (n + 1)

/-- The numeral padded with zeros to at least `width` digits. -/
def padded (width n : Nat) : String :=
  let digits := Nat.toDigits 10 n
  String.ofList (List.replicate (width - digits.length) '0' ++ digits)

def digit? (c : Char) : Option Nat :=
  if c.isDigit then some (c.toNat - '0'.toNat) else none

inductive IntegerFault
  | empty
  | invalidDigit
  | tooLarge
  | tooSmall
  deriving DecidableEq, Repr

def IntegerFault.message : IntegerFault → String
  | .empty => "cannot parse integer from empty string"
  | .invalidDigit => "invalid digit found in string"
  | .tooLarge => "number too large to fit in target type"
  | .tooSmall => "number too small to fit in target type"

/-- The integers of a fixed-width type. -/
structure Bounds where
  low : Int
  high : Int
  deriving DecidableEq, Repr

namespace Bounds

/-- Two's complement of the given width. -/
def signed (bits : Nat) : Bounds := ⟨-twoPow (bits - 1), twoPow (bits - 1) - 1⟩

def unsigned (bits : Nat) : Bounds := ⟨0, twoPow bits - 1⟩

def contains (b : Bounds) (i : Int) : Bool := b.low ≤ i && i ≤ b.high

/-- Which bound `i` is beyond, if any. -/
def check (b : Bounds) (i : Int) : Except IntegerFault Int :=
  if i < b.low then .error .tooSmall else if b.high < i then .error .tooLarge else .ok i

end Bounds

/-- Digits from left to right; the first that is no digit, or that leaves the bounds, is the fault. -/
def readDigits (b : Bounds) (negative : Bool) (i : Int) : List Char → Except IntegerFault Int
  | [] => .ok i
  | c :: rest =>
    match digit? c with
    | none => .error .invalidDigit
    | some d =>
      match b.check (if negative then i * 10 - d else i * 10 + d) with
      | .error fault => .error fault
      | .ok j => readDigits b negative j rest

/-- A numeral with an optional sign; only a type with negative numbers takes a minus. -/
def readInteger (b : Bounds) (text : String) : Except IntegerFault Int :=
  match text.toList with
  | [] => .error .empty
  | ['+'] | ['-'] => .error .invalidDigit
  | '+' :: digits => readDigits b false 0 digits
  | '-' :: digits =>
    if b.low < 0 then readDigits b true 0 digits else .error .invalidDigit
  | digits => readDigits b false 0 digits

end TableSql.Decimal
