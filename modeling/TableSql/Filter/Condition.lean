import TableSql.Filter.Basic

/-! Filters as conditions, with their placeholders numbered and their values in the same order. -/

namespace TableSql

/-- Conditions, the arguments of their placeholders, and the first ordinal they leave free. -/
structure Compiled where
  conditions : List Sql.Condition
  args : List Value
  next : Nat
  deriving Repr

namespace Compiled

/-- A filter with a comparison and at least one value takes an ordinal for each value; any other
is left out and takes none. -/
def ofEntries (start : Nat) : List (String × Filter) → Compiled
  | [] => ⟨[], [], start⟩
  | (key, f) :: rest =>
    match f.mode, f.mode.bind MatchMode.comparator?, f.values with
    | some mode, some comparator, v :: vs =>
      let count := (v :: vs).length
      let others := ofEntries (start + count) rest
      ⟨⟨key, comparator, mode.pattern, List.range' start count⟩ :: others.conditions,
        v :: vs ++ others.args, others.next⟩
    | _, _, _ => ofEntries start rest

end Compiled

def Filters.compile (fs : Filters) (start : Nat) : Compiled := .ofEntries start fs.entries

end TableSql
