import TableSql.Proofs.Statement.Arguments
import TableSql.Statement.Evaluation
import TableSql.Statement.Update
import Mathlib.Data.List.Forall2
import Mathlib.Tactic.Ring

/-! Updates: the ordinals of their branches, and the row of the batch that each row of the table
takes its new values from. -/

namespace TableSql.Statement

theorem assignments_eq_mapIdx (count start : Nat) (columns : List Sql.Column) :
    assignments count (start + 1) columns =
      columns.mapIdx fun m column =>
        ⟨column.sql, (List.range' 1 count).map fun j => (j, start + m * count + j)⟩ := by
  induction columns generalizing start with
  | nil => rfl
  | cons column rest ih =>
    have hbranches : (List.range' 1 count).zip (List.range' (start + 1) count) =
        (List.range' 1 count).map fun j => (j, start + 0 * count + j) := by
      apply List.ext_getElem
      · simp
      · intro i _ _
        simp only [List.getElem_zip, List.getElem_range', List.getElem_map, Prod.mk.injEq, true_and]
        omega
    have hnext : start + 1 + count = start + count + 1 := by omega
    rw [assignments, hbranches, hnext, ih, List.mapIdx_cons]
    congr 2
    funext m column
    rw [show start + count + m * count = start + (m + 1) * count by ring]

theorem length_args_update (columns : Sql.Columns) (table : String) (rows : List Record)
    (consumer : Option Consumer) :
    (update columns table rows consumer).args.length =
      rows.length + rows.length * (assignedColumns columns rows.head? consumer).length := by
  have hblocks := length_flatMap_blocks
    (fun column : Sql.Column => rows.map (updatedCell consumer column.key)) rows.length
    (assignedColumns columns rows.head? consumer) fun _ _ => List.length_map _
  rw [update, List.length_append, List.length_map, hblocks, Nat.mul_comm]

private theorem mem_ordinals_zip (xs ys : List Nat) (h : xs.length = ys.length) (n : Nat) :
    n ∈ (xs.zip ys).flatMap (fun branch => [branch.1, branch.2]) ↔ n ∈ xs ∨ n ∈ ys := by
  induction xs generalizing ys with
  | nil =>
    have hys := List.length_eq_zero_iff.mp h.symm
    rw [hys]
    simp
  | cons x xs ih =>
    cases ys with
    | nil => cases h
    | cons y ys =>
      have hrest := ih ys (Nat.succ.inj h)
      rw [List.zip_cons_cons, List.flatMap_cons, List.mem_append, hrest]
      simp only [List.mem_cons, List.not_mem_nil, or_false]
      tauto

/-- The ids share their ordinals, and the values have the following ones. -/
private theorem mem_ordinals_update (count start : Nat) (columns : List Sql.Column) (n : Nat) :
    n ∈ (assignments count start columns).flatMap Sql.Assignment.ordinals ++ List.range' 1 count ↔
      n ∈ List.range' 1 count ∨ n ∈ List.range' start (columns.length * count) := by
  induction columns generalizing start with
  | nil =>
    rw [List.length_nil, Nat.zero_mul]
    simp [assignments]
  | cons column rest ih =>
    have hbranches := mem_ordinals_zip (List.range' 1 count) (List.range' start count) (by simp) n
    have hrange : List.range' start ((rest.length + 1) * count) =
        List.range' start count ++ List.range' (start + count) (rest.length * count) := by
      rw [List.range'_append_1, Nat.succ_mul, Nat.add_comm]
    rw [assignments, List.flatMap_cons, List.append_assoc, List.mem_append, ih,
      Sql.Assignment.ordinals, hbranches, List.length_cons, hrange, List.mem_append]
    tauto

theorem binds_update (columns : Sql.Columns) (table : String) (rows : List Record)
    (consumer : Option Consumer) :
    (update columns table rows consumer).Binds
      ((assignments rows.length (rows.length + 1)
          (assignedColumns columns rows.head? consumer)).flatMap Sql.Assignment.ordinals
        ++ List.range' 1 rows.length) := by
  intro n
  rw [mem_ordinals_update, List.mem_range'_1, List.mem_range'_1, length_args_update,
    Nat.mul_comm rows.length]
  omega

/-- An update of at least one row that has a column to change is one that a server takes. -/
theorem changesRows_update {columns : Sql.Columns} (table : String) {rows : List Record}
    (hrows : rows ≠ []) {consumer : Option Consumer}
    (hassigned : assignedColumns columns rows.head? consumer ≠ []) {u : Sql.Update}
    (hcommand : (update columns table rows consumer).command = .update u) :
    (update columns table rows consumer).ChangesRows u := by
  obtain rfl := Sql.Command.update.inj hcommand
  refine ⟨hcommand, ?_, ?_, binds_update columns table rows consumer⟩
  · obtain ⟨column, rest, hcons⟩ := List.exists_cons_of_ne_nil hassigned
    dsimp only
    rw [hcons]
    exact List.cons_ne_nil _ _
  · obtain ⟨row, rest, rfl⟩ := List.exists_cons_of_ne_nil hrows
    exact List.cons_ne_nil _ _

/-- The first ordinals hold the ids. -/
theorem map_arg_ids (columns : Sql.Columns) (table : String) (rows : List Record)
    (consumer : Option Consumer) :
    (List.range' 1 rows.length).map (update columns table rows consumer).arg =
      rows.map (·.get Sql.idColumn) := by
  have hlength := length_args_update columns table rows consumer
  have h := map_arg_range' (update columns table rows consumer) 0 rows.length (by omega)
  rw [Nat.zero_add, List.drop_zero] at h
  rw [h, update, List.take_left' (List.length_map _)]

/-- The ordinals of the `m`-th assignment hold the values of its column. -/
theorem map_arg_cells (columns : Sql.Columns) (table : String) (rows : List Record)
    (consumer : Option Consumer) (m : Nat)
    (hm : m < (assignedColumns columns rows.head? consumer).length) :
    (List.range' 1 rows.length).map (fun j =>
        (update columns table rows consumer).arg (rows.length + m * rows.length + j)) =
      rows.map (updatedCell consumer (assignedColumns columns rows.head? consumer)[m].key) := by
  have hlength := length_args_update columns table rows consumer
  have hblock : (m + 1) * rows.length ≤
      rows.length * (assignedColumns columns rows.head? consumer).length := by
    rw [Nat.mul_comm]
    exact Nat.mul_le_mul_left _ hm
  have hbound : rows.length + m * rows.length + rows.length ≤
      (update columns table rows consumer).args.length := by
    rw [Nat.succ_mul] at hblock
    omega
  have h := map_arg_range' (update columns table rows consumer)
    (rows.length + m * rows.length) rows.length hbound
  have hshift : List.range' (rows.length + m * rows.length + 1) rows.length =
      (List.range' 1 rows.length).map (rows.length + m * rows.length + ·) := by
    rw [List.map_add_range']
  rw [hshift, List.map_map] at h
  refine h.trans ?_
  have hids : (rows.map (·.get Sql.idColumn)).length = rows.length := List.length_map _
  rw [update, ← hids, List.drop_length_add_append, hids]
  exact take_drop_flatMap (fun column : Sql.Column => rows.map (updatedCell consumer column.key))
    rows.length _ (fun _ _ => List.length_map _) m hm

theorem updatedCell_eq (consumer : Option Consumer) (key : String) (row : Record) :
    updatedCell consumer key row =
      match consumer with
      | none => (row.get? key).getD .null
      | some c =>
        if key = "consumerId" then c.id
        else if key = "consumerName" then .text c.name
        else (row.get? key).getD .null := by
  cases consumer with
  | none => rfl
  | some c =>
    rw [updatedCell, Option.bind_some, Consumer.cell?, Consumer.idColumn, Consumer.nameColumn]
    dsimp only
    by_cases hid : key = "consumerId"
    · rw [if_pos hid, if_pos hid, Option.getD_some]
    · rw [if_neg hid, if_neg hid]
      by_cases hname : key = "consumerName"
      · rw [if_pos hname, if_pos hname, Option.getD_some]
      · rw [if_neg hname, if_neg hname, Option.getD_none]
        rfl

/-- A search by id finds the branch of the row that the same search finds among the rows. -/
private theorem map_find?_ordinals {idOf valueOf : Nat → Value} {rowId rowValue : Record → Value}
    (test : Value → Bool) (ordinals : List Nat) (rows : List Record)
    (hid : ordinals.map idOf = rows.map rowId)
    (hvalue : ordinals.map valueOf = rows.map rowValue) :
    (ordinals.find? fun j => test (idOf j)).map valueOf =
      (rows.find? fun row => test (rowId row)).map rowValue := by
  induction ordinals generalizing rows with
  | nil =>
    have hrows : rows = [] := List.map_eq_nil_iff.mp hid.symm
    rw [hrows]
    rfl
  | cons j ordinals ih =>
    cases rows with
    | nil => simp at hid
    | cons row rows =>
      obtain ⟨hj, hids⟩ := List.cons.inj hid
      obtain ⟨hv, hvalues⟩ := List.cons.inj hvalue
      rw [List.find?_cons, List.find?_cons, hj]
      cases test (rowId row) with
      | true => exact congrArg some hv
      | false => exact ih rows hids hvalues

/-- The rows of the table that an update concerns are those with the id of a row of the batch. -/
theorem any_ids (columns : Sql.Columns) (table : String) (rows : List Record)
    (consumer : Option Consumer) (same : SameId) (target : Record) :
    (List.range' 1 rows.length).any
        ((update columns table rows consumer).holdsId same target) =
      rows.any fun row => same.test (target.get Sql.idColumn) (row.get Sql.idColumn) := by
  have h : ((List.range' 1 rows.length).map (update columns table rows consumer).arg).any
        (same.test (target.get Sql.idColumn)) =
      (rows.map (·.get Sql.idColumn)).any (same.test (target.get Sql.idColumn)) := by
    rw [map_arg_ids]
  rw [List.any_map, List.any_map] at h
  exact h

/-- The value of the `m`-th assignment for a row of the table is the cell of the first row of the
batch that has its id. -/
theorem value?_assignment (columns : Sql.Columns) (table : String) (rows : List Record)
    (consumer : Option Consumer) (same : SameId) (target row : Record) (m : Nat)
    (hm : m < (assignedColumns columns rows.head? consumer).length)
    (hrow : rows.find? (fun row => same.test (target.get Sql.idColumn) (row.get Sql.idColumn)) =
      some row) :
    ∃ j, 0 < j ∧ j ≤ rows.length ∧
      Sql.Assignment.value?
        ⟨(assignedColumns columns rows.head? consumer)[m].sql,
          (List.range' 1 rows.length).map fun j => (j, rows.length + m * rows.length + j)⟩
        ((update columns table rows consumer).holdsId same target) =
          some (rows.length + m * rows.length + j) ∧
      (update columns table rows consumer).arg (rows.length + m * rows.length + j) =
        updatedCell consumer (assignedColumns columns rows.head? consumer)[m].key row := by
  have h := map_find?_ordinals (same.test (target.get Sql.idColumn))
    (List.range' 1 rows.length) rows (map_arg_ids columns table rows consumer)
    (map_arg_cells columns table rows consumer m hm)
  rw [hrow, Option.map_some] at h
  obtain ⟨j, hfind, hvalue⟩ := Option.map_eq_some_iff.mp h
  have hmem := List.mem_range'_1.mp (List.mem_of_find?_eq_some hfind)
  refine ⟨j, by omega, by omega, ?_, hvalue⟩
  rw [Sql.Assignment.value?, List.find?_map, Option.map_map]
  exact Option.map_eq_some_iff.mpr ⟨j, hfind, rfl⟩

/-- An update of `count` rows sets each of its columns by a CASE over the ids, the ordinals `1` to
`count`, and the values of the `m`-th column have the ordinals after `count + m * count`. For a row
of the table that has the id of a row of the batch, each CASE gives the cell of the first such row,
whatever follows it; any other row of the table is left out. -/
theorem update_takes_first_match (columns : Sql.Columns) (table : String) (rows : List Record)
    (consumer : Option Consumer) :
    let count := rows.length
    let assigned := assignedColumns columns rows.head? consumer
    let statement := update columns table rows consumer
    ∃ u : Sql.Update, statement.command = .update u ∧
      statement.text =
        "UPDATE " ++ Sql.Identifier.quote table ++ " SET "
          ++ String.intercalate ", " (assigned.mapIdx fun m column =>
            column.sql ++ " = CASE"
              ++ String.join ((List.range' 1 count).map fun j =>
                " WHEN " ++ "id" ++ " = " ++ ("$" ++ Decimal.numeral j)
                  ++ " THEN " ++ ("$" ++ Decimal.numeral (count + m * count + j)))
              ++ " ELSE " ++ column.sql ++ " END")
          ++ " WHERE " ++ "id" ++ " IN ("
          ++ String.intercalate ", " ((List.range' 1 count).map fun j => "$" ++ Decimal.numeral j)
          ++ ")" ∧
      statement.args.length = count + count * assigned.length ∧
      ∀ (same : SameId) (target : Record),
        match rows.find? fun row => same.test (target.get "id") (row.get "id") with
        | some row =>
          u.concerns (statement.holdsId same target) = true ∧
          List.Forall₂ (fun a column => ∃ ordinal,
              a.value? (statement.holdsId same target) = some ordinal ∧
              0 < ordinal ∧ ordinal ≤ statement.args.length ∧
              statement.arg ordinal =
                match consumer with
                | none => (row.get? column.key).getD .null
                | some c =>
                  if column.key = "consumerId" then c.id
                  else if column.key = "consumerName" then .text c.name
                  else (row.get? column.key).getD .null)
            u.assignments assigned
        | none => u.concerns (statement.holdsId same target) = false := by
  intro count assigned statement
  have hassignments := assignments_eq_mapIdx count count assigned
  have hlength : statement.args.length = count + count * assigned.length :=
    length_args_update columns table rows consumer
  refine ⟨_, rfl, ?_, hlength, ?_⟩
  · change Sql.Update.text ⟨table, assignments count (count + 1) assigned, List.range' 1 count⟩ = _
    rw [hassignments, Sql.Update.text, Sql.placeholders, List.mapIdx_eq_zipIdx_map, List.map_map,
      List.mapIdx_eq_zipIdx_map]
    simp only [Function.comp_def, Sql.Assignment.text, List.map_map, Sql.idColumn]
    rfl
  · intro same target
    have hany := any_ids columns table rows consumer same target
    cases hfind : rows.find? fun row => same.test (target.get "id") (row.get "id") with
    | none =>
      refine hany.trans (List.any_eq_false.mpr fun row hrow => ?_)
      exact List.find?_eq_none.mp hfind row hrow
    | some row =>
      have hrow := List.mem_of_find?_eq_some hfind
      have htest := List.find?_some hfind
      refine ⟨hany.trans (List.any_eq_true.mpr ⟨row, hrow, htest⟩), ?_⟩
      change List.Forall₂ _ (assignments count (count + 1) assigned) assigned
      rw [hassignments, List.forall₂_iff_get]
      refine ⟨List.length_mapIdx, fun m _ hm => ?_⟩
      obtain ⟨j, hpos, hle, hvalue, harg⟩ :=
        value?_assignment columns table rows consumer same target row m hm hfind
      change j ≤ count at hle
      refine ⟨count + m * count + j, ?_, by omega, ?_, ?_⟩
      · rw [List.get_eq_getElem, List.getElem_mapIdx]
        exact hvalue
      · have hblock : (m + 1) * count ≤ count * assigned.length := by
          rw [Nat.mul_comm]
          exact Nat.mul_le_mul_left count hm
        rw [Nat.succ_mul] at hblock
        rw [hlength]
        omega
      · exact harg.trans (updatedCell_eq consumer assigned[m].key row)

end TableSql.Statement
