import TableSql.Client.Session
import TableSql.Proofs.Text.Blank
import TableSql.Proofs.Text.Excerpt

/-! What the line before a statement shows of its text: the words with single spaces between them,
cut where a character ends. -/

namespace TableSql.Statement

open Text

/-- The text of a statement is shown with its words on one line, one space between each two, and in
whole unless that is too long: then up to the last boundary within the limit, which is found. -/
theorem sentLine_sql (statement : Statement) (trace : TraceOptions) :
    let sql := collapse statement.text
    let limit := trace.maxSqlLength.map UInt64.toNat
    collapse sql = sql ∧ words sql.toList = words statement.text.toList ∧
    sql.toList.filter (fun c => !isBlank c) = statement.text.toList.filter (fun c => !isBlank c) ∧
    SingleSpaced sql.toList ∧
    ∃ shown, cut? limit sql = some shown ∧ ("sql", shown) ∈ (statement.sentLine trace).fields ∧
      ((∀ max ∈ limit, (utf8 sql).length ≤ max) → shown = sql) ∧
      ∀ max ∈ limit, max < (utf8 sql).length →
        ∃ front : String, shown = front ++ "..." ∧ front.toList <+: sql.toList ∧
          isBoundary (utf8 sql) (utf8 front).length ∧ (utf8 front).length ≤ max ∧
          ∀ offset ≤ max, isBoundary (utf8 sql) offset → offset ≤ (utf8 front).length := by
  intro sql limit
  have hcut := cut?_eq_some_excerpt limit sql
  refine ⟨collapse_collapse _, words_collapse _, filter_collapse _, singleSpaced_collapse _,
    excerpt limit sql, hcut, List.mem_cons_self, fun hfits => ?_, fun max hmax hlonger => ?_⟩
  · exact Option.some.inj (hcut.symm.trans (cut?_of_length_le hfits))
  · have hlimit : limit = some max := hmax
    obtain ⟨front, hfront, hprefix, hlength⟩ := exists_cut?_of_lt_length hlonger
    rw [hlimit] at hcut
    refine ⟨front, ?_, hprefix, ?_, ?_, fun offset hle hboundary => ?_⟩
    · rw [hlimit]
      exact Option.some.inj (hcut.symm.trans hfront)
    · rw [hlength]
      exact isBoundary_boundaryUpTo _ _
    · rw [hlength]
      exact boundaryUpTo_le _ _
    · rw [hlength]
      exact le_boundaryUpTo hboundary hle

end TableSql.Statement
