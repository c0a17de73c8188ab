/-! Powers of the bases that numbers are written in. -/

namespace TableSql

abbrev twoPow (n : Nat) : Nat := Nat.pow 2 n

abbrev tenPow (n : Nat) : Nat := Nat.pow 10 n

end TableSql
