import TableSql.Filter.Basic
import TableSql.Property.Basic

/-! Which filters of a request can be applied to a table. The others are left out, not refused. -/

namespace TableSql

inductive Rejection
  | unknownProperty
  | unfilterableProperty
  | mismatchedMode (mode : Option MatchMode) (kind : Kind)
  deriving DecidableEq, Repr

/-- The filter of a property has to be allowed at all, and in its mode. -/
def Filter.rejection? (f : Filter) : Option Property → Option Rejection
  | none => some .unknownProperty
  | some p =>
    if !p.filterable then some .unfilterableProperty
    else if f.mode.any (·.allowedFor p.kind) then none
    else some (.mismatchedMode f.mode p.kind)

namespace Filters

def clean (property? : String → Option Property) (fs : Filters) : Filters :=
  fs.retain fun key f => (f.rejection? (property? key)).isNone

/-- The keys of the other filters, with what is wrong with each. -/
def rejected (property? : String → Option Property) (fs : Filters) :
    List (String × Rejection) :=
  fs.entries.filterMap fun (key, f) => (f.rejection? (property? key)).map (key, ·)

end Filters

end TableSql
