import TableSql.Entity.Operations
import TableSql.Proofs.Statement.Insert
import TableSql.Proofs.Statement.Update

/-! One row added and the same row changed: what each statement binds for the column of a property.
An insertion reads the row, and so does an update, except in the columns that a consumer is written
to: there an update reads the consumer, also for a property of that name. -/

namespace TableSql

namespace Statement

variable (columns : Sql.Columns) (table : String) (row : Record) (consumer : Option Consumer)

private theorem getElem?_insertedColumns {j : Nat} {key : String}
    (h : columns.keys[j]? = some key) :
    (insertedColumns columns consumer)[j]? = some (Sql.Identifier.quote key) := by
  obtain ⟨hj, -⟩ := List.getElem?_eq_some_iff.mp h
  have hquoted : j < (columns.keys.map Sql.Identifier.quote).length := by
    rw [List.length_map]
    exact hj
  rw [insertedColumns_eq, List.getElem?_append_left hquoted, List.getElem?_map, h]
  rfl

/-- The one tuple of an insertion of one row binds in each column what the row has there. -/
theorem values_insert_row (returning : Option String) {j : Nat} {key : String}
    (h : columns.keys[j]? = some key) :
    ((tuples (insertedColumns columns consumer).length 1 1).map
        (·.map (insert columns table [row] consumer returning).arg)).map (·[j]?) =
      [some (row.get key)] := by
  have hcells := map_arg_tuples columns table [row] consumer returning
  obtain ⟨hj, rfl⟩ := List.getElem?_eq_some_iff.mp h
  rw [List.length_singleton] at hcells
  rw [hcells, List.map_singleton, List.map_singleton]
  exact congrArg ([·]) (getElem?_insertedCells columns consumer row ⟨j, hj⟩)

private theorem getElem?_assignments_row {assigned : List Sql.Column} {m : Nat}
    {column : Sql.Column} (h : assigned[m]? = some column) :
    (assignments 1 2 assigned)[m]? = some ⟨column.sql, [(1, m + 2)]⟩ := by
  rw [assignments_eq_mapIdx, List.getElem?_mapIdx, h, Option.map_some]
  simp only [List.range'_one, List.map_singleton, Nat.mul_one]
  rw [show 1 + m + 1 = m + 2 by omega]

private theorem arg_update_row {m : Nat} {column : Sql.Column}
    (h : (assignedColumns columns (some row) consumer)[m]? = some column) :
    (update columns table [row] consumer).arg (m + 2) =
      updatedCell consumer column.key row := by
  obtain ⟨hm, rfl⟩ := List.getElem?_eq_some_iff.mp h
  have hcells := map_arg_cells columns table [row] consumer m hm
  simp only [List.length_singleton, List.range'_one, List.map_singleton, Nat.mul_one] at hcells
  rw [show m + 2 = 1 + m + 1 by omega]
  exact (List.cons.inj hcells).1

private theorem exists_assigned {key : String} (hkey : key ∈ columns.keys)
    (hrow : row.contains key = true) :
    ∃ m : Nat, (assignedColumns columns (some row) consumer)[m]? = some (.named key) := by
  apply List.mem_iff_getElem?.mp
  have hgiven : Sql.Column.named key ∈ columns.toList.filter fun column => row.contains column.key :=
    List.mem_filter.mpr ⟨List.mem_map_of_mem hkey, hrow⟩
  exact List.mem_append_left _ hgiven

theorem updatedCell_of_get? {key : String} {value : Value} (h : row.get? key = some value) :
    updatedCell consumer key row =
      match consumer with
      | none => value
      | some c =>
        if key = "consumerId" then c.id
        else if key = "consumerName" then .text c.name
        else value := by
  have hget : (row.get? key).getD .null = value := by rw [h, Option.getD_some]
  rw [updatedCell_eq]
  cases consumer <;> simp only [hget]

/-- A row's own value is bound where the consumer does not write something else to its column. -/
theorem updatedCell_eq_iff {key : String} {value : Value} (h : row.get? key = some value) :
    updatedCell consumer key row = value ↔ ∀ c ∈ consumer,
      (key = "consumerId" → c.id = value) ∧ (key = "consumerName" → .text c.name = value) := by
  rw [updatedCell_of_get? row consumer h]
  cases consumer with
  | none => simp
  | some c =>
    by_cases hid : key = "consumerId"
    · simp [hid]
    · by_cases hname : key = "consumerName"
      · simp [hname]
      · simp [hid, hname]

end Statement

namespace Entity

/-- A row that has the key of a property that takes part in both kinds of statement is added with
its own value in the column of the property. Where it is changed the column gets the same value,
unless the key is that of a column of the consumer: there it gets what the consumer writes, so that
both statements agree exactly where the row has that already. -/
theorem insert_and_update_bind_alike_iff (e : Entity) (row : Record) (consumer : Option Consumer)
    (returning : Option String) {key : String} {value : Value}
    (hinsert : key ∈ e.registry.insert.keys) (hupdate : key ∈ e.registry.update.keys)
    (hvalue : row.get? key = some value) :
    let inserted := e.insertStatement [row] consumer returning
    let updated := e.updateStatement [row] consumer
    ∃ (i : Sql.Insert) (u : Sql.Update) (a : Sql.Assignment) (j m ordinal : Nat),
      inserted.command = .insert i ∧ updated.command = .update u ∧
      e.registry.insert.keys[j]? = some key ∧
      i.columns[j]? = some (Sql.Identifier.quote key) ∧
      (i.values inserted.arg).map (·[j]?) = [some value] ∧
      (e.assignedColumns [row] consumer)[m]? = some ⟨key, Sql.Identifier.quote key⟩ ∧
      u.assignments[m]? = some a ∧ a.column = Sql.Identifier.quote key ∧
      (∀ (same : SameId) (target : Record),
        same.test (target.get "id") (row.get "id") = true →
          a.value? (updated.holdsId same target) = some ordinal) ∧
      (updated.arg ordinal =
        match consumer with
        | none => value
        | some c =>
          if key = "consumerId" then c.id
          else if key = "consumerName" then .text c.name
          else value) ∧
      (updated.arg ordinal = value ↔ ∀ c ∈ consumer,
        (key = "consumerId" → c.id = value) ∧ (key = "consumerName" → .text c.name = value)) := by
  intro inserted updated
  obtain ⟨j, hj⟩ := List.mem_iff_getElem?.mp hinsert
  have hrow : row.contains key = true := by rw [Record.contains, hvalue, Option.isSome_some]
  obtain ⟨m, hm⟩ := Statement.exists_assigned e.registry.update row consumer hupdate hrow
  have hget : row.get key = value := by rw [Record.get, hvalue, Option.getD_some]
  have hid : updated.arg 1 = row.get Sql.idColumn :=
    (List.cons.inj (Statement.map_arg_ids e.registry.update e.table [row] consumer)).1
  have hcell : updated.arg (m + 2) = Statement.updatedCell consumer key row :=
    Statement.arg_update_row e.registry.update e.table row consumer hm
  refine ⟨_, _, _, j, m, m + 2, rfl, rfl, hj, ?_, ?_, hm, Statement.getElem?_assignments_row hm,
    rfl, fun same target htest => ?_, ?_, ?_⟩
  · exact Statement.getElem?_insertedColumns e.registry.insert consumer hj
  · rw [← hget]
    exact Statement.values_insert_row e.registry.insert e.table row consumer returning hj
  · have hholds : updated.holdsId same target 1 = true := by
      rw [Statement.holdsId, hid]
      exact htest
    simp [Sql.Assignment.value?, hholds]
  · exact hcell.trans (Statement.updatedCell_of_get? row consumer hvalue)
  · rw [hcell]
    exact Statement.updatedCell_eq_iff row consumer hvalue

/-- Orders, of which the consumer is a property like any other. -/
def orders : Entity where
  name := "orders"
  table := "orders"
  properties := [.ofKey "consumerId" .string, .ofKey "item" .string]
  options := .default
  isTableName_table := by decide
  chunkSize_ne_zero := EntityOptions.chunkSize_default_ne_zero

def acmeOrder : Record :=
  Record.ofCells [("id", .int 1), ("item", .text "desk"), ("consumerId", .text "acme")]

def admin : Consumer := ⟨.int 7, "admin"⟩

theorem insert_and_update_bind_item :
    "item" ∈ orders.registry.insert.keys ∧ "item" ∈ orders.registry.update.keys ∧
    acmeOrder.get? "item" = some (.text "desk") ∧
    ∃ (i : Sql.Insert) (u : Sql.Update) (a : Sql.Assignment) (j m ordinal : Nat),
      (orders.insertStatement [acmeOrder] (some admin) none).command = .insert i ∧
      i.columns[j]? = some "item" ∧
      (i.values (orders.insertStatement [acmeOrder] (some admin) none).arg).map (·[j]?) =
        [some (.text "desk")] ∧
      (orders.updateStatement [acmeOrder] (some admin)).command = .update u ∧
      u.assignments[m]? = some a ∧ a.column = "item" ∧
      (orders.updateStatement [acmeOrder] (some admin)).arg ordinal = .text "desk" := by
  have hinsert : "item" ∈ orders.registry.insert.keys := by decide
  have hupdate : "item" ∈ orders.registry.update.keys := by decide
  have hvalue : acmeOrder.get? "item" = some (.text "desk") := rfl
  have hquote : Sql.Identifier.quote "item" = "item" := by decide +kernel
  obtain ⟨i, u, a, j, m, ordinal, hi, hu, -, hcolumn, hvalues, -, ha, hassigned, -, -, hiff⟩ :=
    insert_and_update_bind_alike_iff orders acmeOrder (some admin) none hinsert hupdate hvalue
  rw [hquote] at hcolumn hassigned
  have hbound := hiff.mpr fun c _ => ⟨fun h => absurd h (by decide), fun h => absurd h (by decide)⟩
  exact ⟨hinsert, hupdate, hvalue, i, u, a, j, m, ordinal, hi, hcolumn, hvalues, hu, ha, hassigned,
    hbound⟩

/-- The consumer of the order is kept where the order is added, and lost where it is changed. -/
theorem update_loses_acme :
    let inserted := orders.insertStatement [acmeOrder] (some admin) none
    let updated := orders.updateStatement [acmeOrder] (some admin)
    "consumerId" ∈ orders.registry.insert.keys ∧ "consumerId" ∈ orders.registry.update.keys ∧
    acmeOrder.get? "consumerId" = some (.text "acme") ∧
    inserted.text =
      "INSERT INTO orders (\"consumerId\", item, consumerId, consumerName) VALUES ($1, $2, $3, $4)" ∧
    inserted.arg 1 = .text "acme" ∧
    updated.text =
      "UPDATE orders SET \"consumerId\" = CASE WHEN id = $1 THEN $2 ELSE \"consumerId\" END, "
        ++ "item = CASE WHEN id = $1 THEN $3 ELSE item END, "
        ++ "consumerId = CASE WHEN id = $1 THEN $4 ELSE consumerId END, "
        ++ "consumerName = CASE WHEN id = $1 THEN $5 ELSE consumerName END WHERE id IN ($1)" ∧
    updated.arg 2 = .int 7 ∧ updated.arg 2 ≠ inserted.arg 1 := by
  intro inserted updated
  have hkept : inserted.arg 1 = .text "acme" := rfl
  have hlost : updated.arg 2 = .int 7 := rfl
  refine ⟨by decide, by decide, rfl, by decide +kernel, hkept, by decide +kernel, hlost, ?_⟩
  rw [hkept, hlost]
  exact nofun

end Entity

end TableSql
