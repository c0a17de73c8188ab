import TableSql.Proofs.Filter.Condition
import TableSql.Proofs.Sql.Command
import TableSql.Proofs.Statement.Insert
import TableSql.Proofs.Statement.Update
import TableSql.Statement.Delete

/-! Statements as their builders make them. The placeholders of a statement are those of its
arguments: each argument has one, and nothing else looks like one. -/

namespace TableSql.Statement

open Sql (Plain Shows)

/-- The placeholders in the text of a statement are those of its arguments. -/
def Numbered (s : Statement) : Prop :=
  ∃ ordinals, Shows s.text ordinals ∧ s.Binds ordinals

theorem plain_sql {columns : Sql.Columns} (hkeys : ∀ key ∈ columns.keys, Plain key) :
    ∀ column ∈ columns.sql, Plain column := by
  intro column hcolumn
  rw [Sql.Columns.sql, Sql.Columns.toList, List.map_map] at hcolumn
  obtain ⟨key, hkey, rfl⟩ := List.mem_map.mp hcolumn
  exact Sql.plain_quote (hkeys key hkey)

theorem plain_insertedColumns {columns : Sql.Columns} (hkeys : ∀ key ∈ columns.keys, Plain key)
    (consumer : Option Consumer) : ∀ column ∈ insertedColumns columns consumer, Plain column := by
  intro column hcolumn
  rcases List.mem_append.mp hcolumn with hcolumn | hcolumn
  · exact plain_sql hkeys column hcolumn
  · cases consumer with
    | none => cases hcolumn
    | some c =>
      have hnames : ∀ name ∈ [Consumer.idColumn, Consumer.nameColumn], Plain name := by decide
      exact hnames column hcolumn

theorem plain_assignedColumns {columns : Sql.Columns} (hkeys : ∀ key ∈ columns.keys, Plain key)
    (first : Option Record) (consumer : Option Consumer) :
    ∀ column ∈ assignedColumns columns first consumer, Plain column.sql := by
  intro column hcolumn
  rcases List.mem_append.mp hcolumn with hcolumn | hcolumn
  · cases first with
    | none => cases hcolumn
    | some row =>
      have hmem := (List.mem_filter.mp hcolumn).1
      exact plain_sql hkeys column.sql (List.mem_map_of_mem hmem)
  · cases consumer with
    | none => cases hcolumn
    | some c =>
      have hnames : ∀ name ∈ [Sql.Column.bare Consumer.idColumn, .bare Consumer.nameColumn],
          Plain name.sql := by decide
      exact hnames column hcolumn

theorem plain_conditions {start : Nat} {filters : Filters}
    (hkeys : ∀ key ∈ filters.keys, Plain key) :
    ∀ c ∈ (filters.compile start).conditions, Plain c.key := by
  intro c hc
  have hkey : c.key ∈ (filters.compile start).conditions.map Sql.Condition.key :=
    List.mem_map_of_mem hc
  rw [Filters.compile, Compiled.map_key_conditions] at hkey
  obtain ⟨entry, hentry, heq⟩ := List.mem_map.mp hkey
  rw [← heq]
  exact hkeys entry.1 (List.mem_map_of_mem (List.mem_filter.mp hentry).1)

theorem numbered_select {columns : Sql.Columns} {table : String} {request : SelectRequest}
    (htable : Plain table) (hkeys : ∀ key ∈ columns.keys, Plain key)
    (hfilters : ∀ key ∈ request.filters.keys, Plain key)
    (hfield : ∀ name ∈ request.sortField, Plain name) :
    Numbered (select columns table request) := by
  refine ⟨_, Sql.Select.shows htable (plain_sql hkeys) (plain_conditions hfilters) hfield, ?_⟩
  intro n
  obtain ⟨-, hordinals, -⟩ := Compiled.ofEntries_spec 1 request.filters.entries
  change n ∈ (Compiled.ofEntries 1 request.filters.entries).conditions.flatMap _ ↔
    0 < n ∧ n ≤ (Compiled.ofEntries 1 request.filters.entries).args.length
  rw [hordinals, List.mem_range'_1]
  omega

theorem numbered_insert {columns : Sql.Columns} {table : String} {returning : Option String}
    (rows : List Record) (consumer : Option Consumer) (htable : Plain table)
    (hkeys : ∀ key ∈ columns.keys, Plain key) (hreturning : ∀ clause ∈ returning, Plain clause) :
    Numbered (insert columns table rows consumer returning) := by
  have hclause : ∀ clause ∈ returning.filter fun clause => !clause.isEmpty, Plain clause := by
    intro clause hclause
    exact hreturning clause (Option.filter_eq_some_iff.mp hclause).1
  exact ⟨_, Sql.Insert.shows htable (plain_insertedColumns hkeys consumer) hclause,
    binds_insert columns table rows consumer returning⟩

theorem numbered_update {columns : Sql.Columns} {table : String} (rows : List Record)
    (consumer : Option Consumer) (htable : Plain table)
    (hkeys : ∀ key ∈ columns.keys, Plain key) :
    Numbered (update columns table rows consumer) := by
  have hcolumns : ∀ a ∈ assignments rows.length (rows.length + 1)
      (assignedColumns columns rows.head? consumer), Plain a.column := by
    rw [assignments_eq_mapIdx]
    intro a ha
    obtain ⟨m, hm, rfl⟩ := List.mem_mapIdx.mp ha
    exact plain_assignedColumns hkeys _ consumer _ (List.getElem_mem hm)
  exact ⟨_, Sql.Update.shows htable hcolumns, binds_update columns table rows consumer⟩

theorem numbered_delete {table : String} (htable : Plain table)
    (condition : Sql.DeleteCondition) (arg : Value) :
    Numbered ⟨.delete ⟨table, condition⟩, [arg]⟩ := by
  refine ⟨_, Sql.Delete.shows htable, fun n => ?_⟩
  rw [List.mem_singleton, List.length_singleton]
  omega

inductive Builder
  | select (columns : Sql.Columns) (table : String) (request : SelectRequest)
  | insert (columns : Sql.Columns) (table : String) (rows : List Record)
      (consumer : Option Consumer) (returning : Option String)
  | update (columns : Sql.Columns) (table : String) (rows : List Record)
      (consumer : Option Consumer)
  | deleteByIds (table : String) (ids : List Value)
  | deleteArchived (table : String) (before : Value)

namespace Builder

def statement : Builder → Statement
  | select columns table request => .select columns table request
  | insert columns table rows consumer returning => .insert columns table rows consumer returning
  | update columns table rows consumer => .update columns table rows consumer
  | deleteByIds table ids => .deleteByIds table ids
  | deleteArchived table before => .deleteArchived table before

/-- The texts given to a builder that its statement repeats. -/
def texts : Builder → List String
  | select columns table request =>
    table :: columns.keys ++ request.filters.keys ++ request.sortField.toList
  | insert columns table _ _ returning => table :: columns.keys ++ returning.toList
  | update columns table _ _ => table :: columns.keys
  | deleteByIds table _ => [table]
  | deleteArchived table _ => [table]

theorem numbered (b : Builder) (htexts : ∀ text ∈ b.texts, Plain text) :
    b.statement.Numbered := by
  cases b with
  | select columns table request =>
    apply numbered_select
    · exact htexts table (by simp [texts])
    · exact fun key hkey => htexts key (by simp [texts, hkey])
    · exact fun key hkey => htexts key (by simp [texts, hkey])
    · exact fun name hname => htexts name (by simp [texts, Option.mem_def.mp hname])
  | insert columns table rows consumer returning =>
    apply numbered_insert
    · exact htexts table (by simp [texts])
    · exact fun key hkey => htexts key (by simp [texts, hkey])
    · exact fun clause hclause => htexts clause (by simp [texts, Option.mem_def.mp hclause])
  | update columns table rows consumer =>
    apply numbered_update
    · exact htexts table (by simp [texts])
    · exact fun key hkey => htexts key (by simp [texts, hkey])
  | deleteByIds table ids => exact numbered_delete (htexts table List.mem_cons_self) .listed _
  | deleteArchived table before =>
    exact numbered_delete (htexts table List.mem_cons_self) .archivedBefore _

/-- If no text given to a builder has a dollar sign, a scan of the statement finds the numerals of
the ordinals of its arguments, every one of them and nothing else, whatever the values are. -/
theorem placeholders_are_args (b : Builder) (htexts : ∀ text ∈ b.texts, '$' ∉ text.toList) :
    (∀ run, run ∈ Sql.placeholderRuns b.statement.text.toList ↔
      ∃ n, 0 < n ∧ n ≤ b.statement.args.length ∧ run = (Decimal.numeral n).toList) ∧
    b.statement.placeholderCount = b.statement.args.length := by
  obtain ⟨ordinals, hshows, hordinals⟩ := b.numbered htexts
  refine ⟨fun run => ?_, Sql.placeholderCount_eq_of_shows hshows hordinals⟩
  rw [hshows.placeholderRuns_eq, List.mem_map]
  constructor
  · rintro ⟨n, hn, rfl⟩
    obtain ⟨hpos, hle⟩ := (hordinals n).mp hn
    exact ⟨n, hpos, hle, rfl⟩
  · rintro ⟨n, hpos, hle, rfl⟩
    exact ⟨n, (hordinals n).mpr ⟨hpos, hle⟩, rfl⟩

/-- Two rows in which the first column is named by a digit, and one of the values by a dollar. -/
def twoAddresses : Builder :=
  .update ((Sql.Columns.empty.add "2nd").add "fullName") "addresses"
    [ Record.ofCells [("id", .int 7), ("2nd", .text "$9"), ("fullName", .text "John")],
      Record.ofCells [("id", .int 8), ("2nd", .null)] ] none

theorem placeholders_are_args_twoAddresses :
    (∀ text ∈ twoAddresses.texts, '$' ∉ text.toList) ∧
    twoAddresses.statement.text =
      "UPDATE addresses SET 2nd = CASE WHEN id = $1 THEN $3 WHEN id = $2 THEN $4 ELSE 2nd END, "
        ++ "\"fullName\" = CASE WHEN id = $1 THEN $5 WHEN id = $2 THEN $6 ELSE \"fullName\" END "
        ++ "WHERE id IN ($1, $2)" ∧
    ['6'] ∈ Sql.placeholderRuns twoAddresses.statement.text.toList ∧
    ['9'] ∉ Sql.placeholderRuns twoAddresses.statement.text.toList ∧
    twoAddresses.statement.placeholderCount = 6 := by
  have htexts : ∀ text ∈ twoAddresses.texts, '$' ∉ text.toList := by decide
  obtain ⟨hruns, hcount⟩ := placeholders_are_args twoAddresses htexts
  refine ⟨htexts, by decide +kernel, ?_, ?_, hcount⟩
  · exact (hruns ['6']).mpr ⟨6, by decide, by decide, rfl⟩
  · intro h
    obtain ⟨n, _, hle, hn⟩ := (hruns ['9']).mp h
    have hnine : (Decimal.numeral 9).toList = (Decimal.numeral n).toList := hn
    obtain rfl := Sql.numeral_injective hnine
    exact absurd hle (by decide)

end Builder

end TableSql.Statement
