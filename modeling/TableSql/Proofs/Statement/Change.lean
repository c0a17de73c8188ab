import TableSql.Proofs.Sql.Identifier
import TableSql.Proofs.Statement.Shape
import TableSql.Proofs.Statement.Update
import TableSql.Proofs.Value.Record

/-! What an update does to a row of the table: the cells of the first row of the batch with its id
are written into it, and it keeps an id that it is found by. -/

namespace TableSql

namespace SameId

/-- An id that is the same as another can stand in its place. -/
def Lawful (same : SameId) : Prop :=
  ∀ v w x, same.test v w → same.test w x = same.test v x

def rowFor? (same : SameId) (id : Value) (rows : List Record) : Option Record :=
  rows.find? fun row => same.test id (row.get Sql.idColumn)

theorem test_of_rowFor? {same : SameId} {id : Value} {rows : List Record} {row : Record}
    (h : same.rowFor? id rows = some row) :
    row ∈ rows ∧ same.test id (row.get Sql.idColumn) :=
  ⟨List.mem_of_find?_eq_some h,
    List.find?_some (p := fun row : Record => same.test id (row.get Sql.idColumn)) h⟩

theorem any_test_of_rowFor? {same : SameId} {id : Value} {rows : List Record} {row : Record}
    (h : same.rowFor? id rows = some row) :
    rows.any (fun row => same.test id (row.get Sql.idColumn)) = true :=
  List.any_eq_true.mpr ⟨row, test_of_rowFor? h⟩

theorem rowFor?_eq_none_iff {same : SameId} {id : Value} {rows : List Record} :
    same.rowFor? id rows = none ↔ ∀ row ∈ rows, ¬ same.test id (row.get Sql.idColumn) :=
  List.find?_eq_none

theorem rowFor?_congr {same : SameId} {id id' : Value} (h : ∀ v, same.test id' v = same.test id v)
    (rows : List Record) : same.rowFor? id' rows = same.rowFor? id rows := by
  simp only [rowFor?, h]

end SameId

namespace Statement

def writtenCells (assigned : List Sql.Column) (consumer : Option Consumer) (row : Record) :
    List (String × Value) :=
  assigned.map fun column => (column.sql, updatedCell consumer column.key row)

/-- A row of the table once a row, if there is one for it, has been written into it. -/
def overwritten (assigned : List Sql.Column) (consumer : Option Consumer) (target : Record) :
    Option Record → Record
  | some row => target.write (writtenCells assigned consumer row)
  | none => target

/-- For each of the rows for an id, the cells of the first of them are written again. -/
theorem foldl_write_rowFor? (same : SameId) (assigned : List Sql.Column)
    (consumer : Option Consumer) (id : Value) (rows : List Record) (target : Record) :
    rows.foldl (fun written row => written.write
        (if same.test id (row.get Sql.idColumn) then
          ((same.rowFor? id rows).map (writtenCells assigned consumer)).getD []
        else [])) target =
      overwritten assigned consumer target (same.rowFor? id rows) := by
  rw [Record.foldl_write_if]
  cases hfind : same.rowFor? id rows with
  | none => exact ite_self _
  | some row => exact if_pos (SameId.any_test_of_rowFor? hfind)

private theorem foldl_assignments {arg : Nat → Value} {isId : Nat → Bool}
    {assignments : List Sql.Assignment} {cells : List (String × Value)}
    (h : List.Forall₂ (fun a cell => ∃ ordinal, a.value? isId = some ordinal ∧
      a.column = cell.1 ∧ arg ordinal = cell.2) assignments cells) (target : Record) :
    assignments.foldl (fun changed a =>
      match a.value? isId with
      | some ordinal => changed.insert a.column (arg ordinal)
      | none => changed) target = target.write cells := by
  induction h generalizing target with
  | nil => rfl
  | cons hhead _ ih =>
    obtain ⟨ordinal, hvalue, hcolumn, harg⟩ := hhead
    rw [List.foldl_cons, ih, Record.write_cons, hvalue, ← hcolumn, ← harg]

section Update

variable (columns : Sql.Columns) (table : String) (rows : List Record)
  (consumer : Option Consumer) (same : SameId)

/-- A row of the table has the cells of the first row with its id written into it. -/
theorem apply_update {u : Sql.Update}
    (hcommand : (update columns table rows consumer).command = .update u) (target : Record) :
    u.apply (update columns table rows consumer).arg
        ((update columns table rows consumer).holdsId same target) target =
      overwritten (assignedColumns columns rows.head? consumer) consumer target
        (same.rowFor? (target.get Sql.idColumn) rows) := by
  obtain rfl := Sql.Command.update.inj hcommand
  have hany := any_ids columns table rows consumer same target
  cases hfind : same.rowFor? (target.get Sql.idColumn) rows with
  | none =>
    have hnone : rows.any (fun row =>
        same.test (target.get Sql.idColumn) (row.get Sql.idColumn)) = false :=
      List.any_eq_false.mpr fun row hrow => List.find?_eq_none.mp hfind row hrow
    rw [hnone] at hany
    exact if_neg (Bool.not_eq_true _ ▸ hany)
  | some row =>
    rw [SameId.any_test_of_rowFor? hfind] at hany
    refine (if_pos hany).trans (foldl_assignments ?_ target)
    rw [writtenCells, List.forall₂_map_right_iff, assignments_eq_mapIdx, List.forall₂_iff_get]
    refine ⟨List.length_mapIdx, fun m _ hm => ?_⟩
    obtain ⟨j, -, -, hvalue, harg⟩ :=
      value?_assignment columns table rows consumer same target row m hm hfind
    rw [List.get_eq_getElem, List.getElem_mapIdx]
    exact ⟨_, hvalue, rfl, harg⟩

/-- Only the column of the id is written where the id stands. -/
private theorem key_of_sql_eq_id {column : Sql.Column} {first : Option Record}
    (hcolumn : column ∈ assignedColumns columns first consumer)
    (hsql : column.sql = Sql.idColumn) : column.key = Sql.idColumn := by
  rw [assignedColumns_eq] at hcolumn
  rcases List.mem_append.mp hcolumn with hgiven | hbare
  · obtain ⟨key, -, rfl⟩ := List.mem_map.mp (List.mem_of_mem_filter hgiven)
    exact Sql.Identifier.eq_of_quote_eq (by decide) hsql
  · split at hbare
    · rcases List.mem_cons.mp hbare with rfl | hname
      · exact absurd hsql (by decide)
      · obtain rfl := List.mem_singleton.mp hname
        exact absurd hsql (by decide)
    · cases hbare

private theorem updatedCell_id (row : Record) :
    updatedCell consumer Sql.idColumn row = row.get Sql.idColumn := by
  cases consumer with
  | none => rfl
  | some c =>
    have hcell : c.cell? Sql.idColumn = none := rfl
    rw [updatedCell, Option.bind_some, hcell, Option.getD_none]

variable {same}

/-- Written over, a row of the table has the same id as before. -/
theorem test_overwritten (hsame : same.Lawful) (first : Option Record) (target : Record)
    (chunk : List Record) (v : Value) :
    same.test ((overwritten (assignedColumns columns first consumer) consumer target
        (same.rowFor? (target.get Sql.idColumn) chunk)).get Sql.idColumn) v =
      same.test (target.get Sql.idColumn) v := by
  cases hfind : same.rowFor? (target.get Sql.idColumn) chunk with
  | none => rfl
  | some row =>
    rw [overwritten, Record.get]
    by_cases hid : Sql.idColumn ∈
        Entries.keys (writtenCells (assignedColumns columns first consumer) consumer row)
    · obtain ⟨value, hmem, hget⟩ := Record.get?_write_of_mem hid
      obtain ⟨column, hcolumn, hcell⟩ := List.mem_map.mp hmem
      obtain ⟨hsql, rfl⟩ := Prod.mk.inj hcell
      rw [hget, Option.getD_some, key_of_sql_eq_id columns consumer hcolumn hsql, updatedCell_id]
      exact hsame _ _ v (SameId.test_of_rowFor? hfind).2
    · rw [Record.get?_write_of_not_mem hid]
      rfl

end Update

end Statement

end TableSql
