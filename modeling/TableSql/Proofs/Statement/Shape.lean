import TableSql.Proofs.Filter.Condition
import TableSql.Statement.Insert
import TableSql.Statement.Update

/-! The command of a statement depends on the shape of what is written or asked for: how many values
and rows there are and under which keys, but not on the values. -/

namespace TableSql

/-- The number of values that a filter compares with: those of an array, or one. -/
def Filter.valueCount (f : Filter) : Nat :=
  match f.value with
  | .array items => items.length
  | _ => 1

theorem Filter.length_values (f : Filter) : f.values.length = f.valueCount := by
  unfold values valueCount
  cases f.value <;> rfl

/-- Filters of one key that differ at most in their values. -/
def SameShape (entry entry' : String × Filter) : Prop :=
  entry.1 = entry'.1 ∧ entry.2.mode = entry'.2.mode ∧ entry.2.valueCount = entry'.2.valueCount

private theorem Filter.isCompared_congr {f f' : Filter} (hmode : f.mode = f'.mode)
    (hcount : f.valueCount = f'.valueCount) : f.isCompared = f'.isCompared := by
  have hempty : f.values.isEmpty = f'.values.isEmpty := by
    rw [Bool.eq_iff_iff, List.isEmpty_iff_length_eq_zero, List.isEmpty_iff_length_eq_zero,
      f.length_values, f'.length_values, hcount]
  rw [isCompared, isCompared, hmode, hempty]

/-- Filters take as many ordinals as they have values, so that the conditions after them do not
change with the values either. -/
theorem Compiled.conditions_congr {entries entries' : List (String × Filter)}
    (h : List.Forall₂ SameShape entries entries') (start : Nat) :
    (ofEntries start entries).conditions = (ofEntries start entries').conditions := by
  induction h generalizing start with
  | nil => rfl
  | @cons entry entry' rest rest' hentry _ ih =>
    obtain ⟨key, f⟩ := entry
    obtain ⟨key', f'⟩ := entry'
    obtain ⟨hkey, hmode, hcount⟩ := hentry
    dsimp only at hkey hmode hcount
    subst hkey
    have hcompared := Filter.isCompared_congr hmode hcount
    cases hf : f.isCompared with
    | false =>
      rw [ofEntries_cons_of_not_isCompared hf,
        ofEntries_cons_of_not_isCompared (hcompared.symm.trans hf), ih]
    | true =>
      obtain ⟨mode, comparator, hsome, hcomparator, hvalues⟩ := exists_of_isCompared hf
      obtain ⟨-, -, -, -, hvalues'⟩ := exists_of_isCompared (hcompared.symm.trans hf)
      have hlength : f.values.length = f'.values.length := by
        rw [f.length_values, f'.length_values, hcount]
      rw [ofEntries_cons_of_isCompared hsome hcomparator hvalues,
        ofEntries_cons_of_isCompared (hmode.symm.trans hsome) hcomparator hvalues', hlength, ih]

namespace Statement

theorem text_congr {s s' : Statement} (h : s.command = s'.command) : s.text = s'.text :=
  congrArg Sql.Command.text h

theorem command_select_congr (columns : Sql.Columns) (table : String) (request : SelectRequest)
    {filters : Filters} (h : List.Forall₂ SameShape request.filters.entries filters.entries) :
    (select columns table request).command =
      (select columns table { request with filters := filters }).command := by
  unfold select Filters.compile
  dsimp only
  rw [Compiled.conditions_congr h]

section Rows

variable (columns : Sql.Columns) (table : String) {rows rows' : List Record}
  {consumer consumer' : Option Consumer}

theorem insertedColumns_congr (h : consumer.isSome = consumer'.isSome) :
    insertedColumns columns consumer = insertedColumns columns consumer' := by
  cases consumer with
  | none =>
    cases consumer' with
    | none => rfl
    | some c' => cases h
  | some c =>
    cases consumer' with
    | none => cases h
    | some c' => rfl

theorem command_insert_congr (returning : Option String) (hrows : rows.length = rows'.length)
    (hconsumer : consumer.isSome = consumer'.isSome) :
    (insert columns table rows consumer returning).command =
      (insert columns table rows' consumer' returning).command := by
  unfold insert
  dsimp only
  rw [insertedColumns_congr columns hconsumer, hrows]

/-- No row at all assigns what a row without cells does. -/
theorem assignedColumns_eq (first : Option Record) (consumer : Option Consumer) :
    assignedColumns columns first consumer =
      (columns.toList.filter fun column => first.any (·.contains column.key)) ++
        if consumer.isSome then [.bare Consumer.idColumn, .bare Consumer.nameColumn] else [] := by
  cases first <;> cases consumer <;> simp [assignedColumns]

theorem command_update_congr (hrows : rows.length = rows'.length)
    (hfirst : ∀ key, rows.head?.any (·.contains key) = rows'.head?.any (·.contains key))
    (hconsumer : consumer.isSome = consumer'.isSome) :
    (update columns table rows consumer).command =
      (update columns table rows' consumer').command := by
  have hassigned : assignedColumns columns rows.head? consumer =
      assignedColumns columns rows'.head? consumer' := by
    simp only [assignedColumns_eq, hfirst, hconsumer]
  unfold update
  dsimp only
  rw [hassigned, hrows]

end Rows

end Statement

end TableSql
