import TableSql.Property.Kind
import TableSql.Sql.Comparison

/-! Match modes: how the value of a filter is compared with a column. -/

namespace TableSql

inductive MatchMode
  | startsWith
  | endsWith
  | contains
  | notContains
  | equals
  | notEquals
  | between
  | isIn
  | lt
  | lte
  | gt
  | gte
  | is
  | isNot
  | before
  | after
  | stContains
  | stDwithin
  deriving DecidableEq, Repr

namespace MatchMode

def all : List MatchMode :=
  [.startsWith, .endsWith, .contains, .notContains, .equals, .notEquals, .between, .isIn, .lt,
   .lte, .gt, .gte, .is, .isNot, .before, .after, .stContains, .stDwithin]

def name : MatchMode → String
  | .startsWith => "startsWith"
  | .endsWith => "endsWith"
  | .contains => "contains"
  | .notContains => "notContains"
  | .equals => "equals"
  | .notEquals => "notEquals"
  | .between => "between"
  | .isIn => "in"
  | .lt => "lt"
  | .lte => "lte"
  | .gt => "gt"
  | .gte => "gte"
  | .is => "is"
  | .isNot => "isNot"
  | .before => "before"
  | .after => "after"
  | .stContains => "st_contains"
  | .stDwithin => "st_dwithin"

def inspect : MatchMode → String
  | .startsWith => "StartsWith"
  | .endsWith => "EndsWith"
  | .contains => "Contains"
  | .notContains => "NotContains"
  | .equals => "Equals"
  | .notEquals => "NotEquals"
  | .between => "Between"
  | .isIn => "In"
  | .lt => "Lt"
  | .lte => "Lte"
  | .gt => "Gt"
  | .gte => "Gte"
  | .is => "Is"
  | .isNot => "IsNot"
  | .before => "Before"
  | .after => "After"
  | .stContains => "StContains"
  | .stDwithin => "StDwithin"

def ofName? (name : String) : Option MatchMode := all.find? (·.name = name)

def decoder : Json.Decoder MatchMode := .choice (all.map fun m => (m.name, m))

/-- The comparison of a mode. Ranges and the spatial modes have none with a single column. -/
def comparator? : MatchMode → Option Sql.Comparator
  | .startsWith | .endsWith | .contains => some .isLike
  | .notContains => some .isNotLike
  | .equals => some .equal
  | .notEquals => some .notEqual
  | .isIn => some .isIn
  | .lt | .before => some .less
  | .lte => some .lessOrEqual
  | .gt | .after => some .greater
  | .gte => some .greaterOrEqual
  | .is => some .isSame
  | .isNot => some .isNotSame
  | .between | .stContains | .stDwithin => none

def pattern : MatchMode → Sql.Pattern
  | .startsWith => .start
  | .endsWith => .stop
  | .contains | .notContains => .within
  | .isIn => .list
  | _ => .bare

/-- Whether properties of a kind can be compared in a mode. -/
def allowedFor (m : MatchMode) : Kind → Bool
  | .string =>
    [.startsWith, .endsWith, .contains, .notContains, .equals, .notEquals, .lt, .lte, .gt,
      .gte].contains m
  | .number => [.equals, .notEquals, .lt, .lte, .gt, .gte].contains m
  | .date => [.is, .isNot, .before, .after].contains m

theorem ofName?_name (m : MatchMode) : ofName? m.name = some m := by
  cases m <;> decide

/-- A mode that any kind allows can be compiled. -/
theorem comparator?_isSome_of_allowedFor {m : MatchMode} {k : Kind} (h : m.allowedFor k) :
    m.comparator?.isSome := by
  revert h
  cases k <;> cases m <;> decide

end MatchMode

end TableSql
