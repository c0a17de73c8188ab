import TableSql.Client.Response

/-! The count that is taken from the rows of a reply, and when nothing but a count that was asked
for is taken. -/

namespace TableSql

def Reply.count? (reply : Reply) : Option Int64 :=
  (reply.rows.head?.bind (·.get? Sql.totalColumn)).bind Value.asInt?

namespace Response

theorem count?_ofReply (reply : Reply) : (ofReply reply).count? = reply.count? := by
  unfold count? ofReply Reply.count?
  cases reply.rows <;> rfl

/-- What a response may differ in from its reply. Where no count is asked for it has the same rows
and no total. Where one is, its rows have lost the column of the count if there is a total, and are
the same if there is none. -/
def MovesCountOnly (asked : Bool) (reply : Reply) (response : Response) : Prop :=
  if asked then
    response.rows = reply.rows ∧ response.total = none ∨
      response.rows = reply.rows.map (·.erase Sql.totalColumn) ∧ response.total.isSome
  else response.rows = reply.rows ∧ response.total = none

theorem rows_takeTotal (reply : Reply) :
    (ofReply reply).takeTotal.rows =
      if reply.count?.isSome then reply.rows.map (·.erase Sql.totalColumn) else reply.rows := by
  rw [← count?_ofReply, takeTotal]
  cases (ofReply reply).count? <;> rfl

theorem total_takeTotal (reply : Reply) :
    (ofReply reply).takeTotal.total =
      reply.count?.bind fun n => if n < 0 then none else some n.toUInt64 := by
  rw [← count?_ofReply, takeTotal]
  cases (ofReply reply).count? <;> rfl

/-- The row that has the count is another row without it. -/
private theorem map_erase_ne {reply : Reply} {n : Int64} (h : reply.count? = some n) :
    reply.rows.map (·.erase Sql.totalColumn) ≠ reply.rows := by
  intro heq
  obtain ⟨v, hv, -⟩ := Option.bind_eq_some_iff.mp h
  obtain ⟨row, hrow, hv⟩ := Option.bind_eq_some_iff.mp hv
  have herased : (row.erase Sql.totalColumn).get? Sql.totalColumn = none :=
    Entries.get?_erase_self _ _
  have hfirst := congrArg List.head? heq
  rw [List.head?_map, hrow, Option.map_some] at hfirst
  rw [Option.some.inj hfirst, hv] at herased
  cases herased

/-- Nothing but a count that was asked for is taken where the first row has no such number, or where
one was asked for and the number is not negative. -/
theorem movesCountOnly_takeTotal_iff (asked : Bool) (reply : Reply) :
    MovesCountOnly asked reply (ofReply reply).takeTotal ↔
      if asked then ∀ n, reply.count? = some n → 0 ≤ n else reply.count? = none := by
  unfold MovesCountOnly
  rw [rows_takeTotal, total_takeTotal]
  cases hcount : reply.count? with
  | none => cases asked <;> simp
  | some n =>
    have hne := map_erase_ne hcount
    by_cases hn : n < 0
    · have hlt : ¬ 0 ≤ n := Int64.not_le.mpr hn
      cases asked <;> simp [hne, hn, hlt]
    · have hle : 0 ≤ n := Int64.not_lt.mp hn
      cases asked <;> simp [hne, hn, hle]

end Response

end TableSql
