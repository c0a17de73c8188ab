import TableSql.Proofs.Statement.Arguments
import TableSql.Statement.Evaluation
import TableSql.Statement.Insert

/-! Insertions: the ordinals of the tuples, and the cells that each tuple binds. -/

namespace TableSql.Statement

theorem tuples_eq_map (width start count : Nat) :
    tuples width (start + 1) count =
      (List.range count).map fun i => List.range' (start + i * width + 1) width := by
  induction count generalizing start with
  | zero => rfl
  | succ count ih =>
    have hnext : start + 1 + width = start + width + 1 := by omega
    rw [tuples, hnext, ih, List.range_succ_eq_map, List.map_cons, List.map_map, Nat.zero_mul,
      Nat.add_zero]
    refine congrArg _ (List.map_congr_left fun i _ => ?_)
    rw [Function.comp_apply, Nat.succ_eq_add_one, Nat.succ_mul,
      show start + width + i * width = start + (i * width + width) by omega]

theorem length_insertedCells (columns : Sql.Columns) (consumer : Option Consumer) (row : Record) :
    (insertedCells columns consumer row).length = (insertedColumns columns consumer).length := by
  cases consumer <;> simp [insertedCells, insertedColumns, Sql.Columns.sql, Sql.Columns.toList]

theorem length_args_insert (columns : Sql.Columns) (table : String) (rows : List Record)
    (consumer : Option Consumer) (returning : Option String) :
    (insert columns table rows consumer returning).args.length =
      rows.length * (insertedColumns columns consumer).length :=
  length_flatMap_blocks _ _ rows fun row _ => length_insertedCells columns consumer row

private theorem flatten_tuples (width start count : Nat) :
    (tuples width start count).flatten = List.range' start (count * width) := by
  induction count generalizing start with
  | zero =>
    rw [Nat.zero_mul]
    rfl
  | succ count ih =>
    rw [tuples, List.flatten_cons, ih, Nat.succ_mul, Nat.add_comm (count * width)]
    exact List.range'_append_1

theorem binds_insert (columns : Sql.Columns) (table : String) (rows : List Record)
    (consumer : Option Consumer) (returning : Option String) :
    (insert columns table rows consumer returning).Binds
      (tuples (insertedColumns columns consumer).length 1 rows.length).flatten := by
  intro n
  rw [flatten_tuples, List.mem_range'_1, length_args_insert]
  omega

/-- An insertion of at least one row is one that a server takes. -/
theorem addsRows_insert (columns : Sql.Columns) (table : String) {rows : List Record}
    (hrows : rows ≠ []) (consumer : Option Consumer) (returning : Option String) {i : Sql.Insert}
    (hcommand : (insert columns table rows consumer returning).command = .insert i) :
    (insert columns table rows consumer returning).AddsRows i := by
  obtain rfl := Sql.Command.insert.inj hcommand
  refine ⟨hcommand, ?_, ?_, binds_insert columns table rows consumer returning⟩
  · obtain ⟨row, rest, rfl⟩ := List.exists_cons_of_ne_nil hrows
    exact List.cons_ne_nil _ _
  · dsimp only
    rw [tuples_eq_map, List.forall_mem_map]
    exact fun i _ => List.length_range'

/-- The ordinals of each tuple hold the cells of its row. -/
theorem map_arg_tuples (columns : Sql.Columns) (table : String) (rows : List Record)
    (consumer : Option Consumer) (returning : Option String) :
    (tuples (insertedColumns columns consumer).length 1 rows.length).map
        (·.map (insert columns table rows consumer returning).arg) =
      rows.map (insertedCells columns consumer) := by
  have hlength := length_args_insert columns table rows consumer returning
  rw [tuples_eq_map, List.map_map]
  apply List.ext_getElem
  · simp
  · intro i _ hi
    have hrow : i < rows.length := by simpa using hi
    have hblock : (i + 1) * (insertedColumns columns consumer).length ≤
        rows.length * (insertedColumns columns consumer).length := Nat.mul_le_mul_right _ hrow
    rw [Nat.succ_mul] at hblock
    rw [List.getElem_map, List.getElem_map, List.getElem_range, Function.comp_apply, Nat.zero_add,
      map_arg_range' _ _ _ (by omega)]
    exact take_drop_flatMap _ _ rows (fun row _ => length_insertedCells columns consumer row) i hrow

theorem insertedColumns_eq (columns : Sql.Columns) (consumer : Option Consumer) :
    insertedColumns columns consumer = columns.keys.map Sql.Identifier.quote
      ++ if consumer.isSome then ["consumerId", "consumerName"] else [] := by
  cases consumer <;>
    simp [insertedColumns, Sql.Columns.sql, Sql.Columns.toList, Sql.Column.named,
      Consumer.idColumn, Consumer.nameColumn]

private theorem length_insertedColumns (columns : Sql.Columns) (consumer : Option Consumer) :
    (insertedColumns columns consumer).length =
      columns.keys.length + if consumer.isSome then 2 else 0 := by
  rw [insertedColumns_eq, List.length_append, List.length_map]
  cases consumer <;> rfl

theorem getElem?_insertedCells (columns : Sql.Columns) (consumer : Option Consumer) (row : Record)
    (j : Fin columns.keys.length) :
    (insertedCells columns consumer row)[(j : Nat)]? = some (row.get columns.keys[j]) := by
  have hj : (j : Nat) < (columns.keys.map row.get).length := by
    rw [List.length_map]
    exact j.isLt
  unfold insertedCells
  rw [List.getElem?_append_left hj, List.getElem?_map, List.getElem?_eq_getElem j.isLt]
  rfl

/-- The cells of the consumer stand behind those of the row. -/
private theorem getElem?_insertedCells_consumer (columns : Sql.Columns) (c : Consumer)
    (row : Record) (j : Nat) :
    (insertedCells columns (some c) row)[columns.keys.length + j]? = [c.id, .text c.name][j]? := by
  have hkeys : (columns.keys.map row.get).length = columns.keys.length := List.length_map _
  rw [insertedCells, List.getElem?_append_right (by omega), hkeys, Nat.add_sub_cancel_left]

/-- A cell of a row is found among all arguments behind the cells of the rows before it. -/
private theorem getElem?_args_insert (columns : Sql.Columns) (table : String) (rows : List Record)
    (consumer : Option Consumer) (returning : Option String) {i j : Nat} (hi : i < rows.length)
    (hj : j < (insertedColumns columns consumer).length) :
    (insert columns table rows consumer returning).args[
        i * (insertedColumns columns consumer).length + j]? =
      (insertedCells columns consumer rows[i])[j]? :=
  getElem?_flatMap_blocks _ _ rows (fun row _ => length_insertedCells columns consumer row) hi hj

private theorem placeholders_range' (start count : Nat) :
    Sql.placeholders (List.range' (start + 1) count) =
      Sql.commaList ((List.range count).map fun j => Sql.placeholder (start + j + 1)) := by
  rw [Sql.placeholders, List.range'_eq_map_range, List.map_map]
  congr 2
  funext j
  rw [Function.comp_apply, Nat.add_right_comm]

theorem text_insert (columns : Sql.Columns) (table : String) (rows : List Record)
    (consumer : Option Consumer) (returning : Option String) :
    (insert columns table rows consumer returning).text =
      "INSERT INTO " ++ Sql.Identifier.quote table ++ " ("
        ++ Sql.commaList (insertedColumns columns consumer) ++ ") VALUES "
        ++ Sql.commaList ((List.range rows.length).map fun i =>
          "(" ++ Sql.placeholders (List.range' (i * (insertedColumns columns consumer).length + 1)
            (insertedColumns columns consumer).length) ++ ")")
        ++ match returning with
          | some clause => if clause.isEmpty then "" else " " ++ clause
          | none => "" := by
  change Sql.Insert.text _ = _
  unfold Sql.Insert.text
  dsimp only
  rw [tuples_eq_map, List.map_map]
  simp only [Nat.zero_add]
  congr 1
  cases returning with
  | none => rfl
  | some clause => cases hempty : clause.isEmpty <;> simp [Option.filter, hempty]

/-- An insertion names the columns of the table, each as an identifier, and those of the consumer
as they are, and writes a tuple for each row. With `width` columns in all, the `j`-th place of the
`i`-th tuple is the placeholder of ordinal `i * width + j + 1`, and what is bound to it is what the
`i`-th row holds in the `j`-th column, null where it has none, or the consumer's id and name. The
clause that says what is returned follows after a blank, unless it is empty. -/
theorem insert_binds_rows_in_blocks (columns : Sql.Columns) (table : String) (rows : List Record)
    (consumer : Option Consumer) (returning : Option String) :
    let statement := insert columns table rows consumer returning
    let width := columns.keys.length + if consumer.isSome then 2 else 0
    statement.text =
      "INSERT INTO " ++ Sql.Identifier.quote table ++ " ("
        ++ String.intercalate ", " (columns.keys.map Sql.Identifier.quote
          ++ if consumer.isSome then ["consumerId", "consumerName"] else [])
        ++ ") VALUES "
        ++ String.intercalate ", " ((List.range rows.length).map fun i =>
          "(" ++ String.intercalate ", " ((List.range width).map fun j =>
            "$" ++ Decimal.numeral (i * width + j + 1)) ++ ")")
        ++ (match returning with
          | some clause => if clause.isEmpty then "" else " " ++ clause
          | none => "") ∧
    statement.args.length = rows.length * width ∧
    ∀ i : Fin rows.length,
      (∀ j : Fin columns.keys.length,
        statement.args[i * width + j]? = some ((rows[i].get? columns.keys[j]).getD .null)) ∧
      consumer.elim True fun c =>
        statement.args[i * width + columns.keys.length]? = some c.id ∧
          statement.args[i * width + columns.keys.length + 1]? = some (.text c.name) := by
  intro statement width
  have hwidth : (insertedColumns columns consumer).length = width :=
    length_insertedColumns columns consumer
  have hcell : ∀ (i : Fin rows.length) (j : Nat), j < width →
      statement.args[i * width + j]? = (insertedCells columns consumer rows[i])[j]? := by
    intro i j hj
    have h := getElem?_args_insert columns table rows consumer returning i.isLt (hwidth ▸ hj)
    rwa [hwidth] at h
  refine ⟨?_, ?_, fun i => ⟨fun j => ?_, ?_⟩⟩
  · have htext := text_insert columns table rows consumer returning
    rw [hwidth, insertedColumns_eq] at htext
    simp only [placeholders_range'] at htext
    exact htext
  · rw [← hwidth]
    exact length_args_insert columns table rows consumer returning
  · rw [hcell i j (by omega)]
    exact getElem?_insertedCells columns consumer rows[i] j
  · cases consumer with
    | none => trivial
    | some c =>
      have hlast : width = columns.keys.length + 2 := rfl
      have hcells := getElem?_insertedCells_consumer columns c rows[i]
      refine ⟨?_, ?_⟩
      · rw [hcell i _ (by omega)]
        exact hcells 0
      · rw [Nat.add_assoc, hcell i _ (by omega)]
        exact hcells 1

end TableSql.Statement
