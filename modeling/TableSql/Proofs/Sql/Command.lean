import TableSql.Proofs.Sql.Placeholder
import TableSql.Sql.Command

/-! The ordinals that the texts of commands show, where the names in them are plain. -/

namespace TableSql.Sql

theorem shows_placeholders (ordinals : List Nat) : Shows (placeholders ordinals) ordinals := by
  have h := Shows.commaList ordinals fun n _ => shows_placeholder n
  rwa [List.flatMap_singleton'] at h

theorem shows_pattern (p : Pattern) (ordinals : List Nat) :
    Shows (p.text ordinals) ordinals := by
  have hjoined : Shows (String.intercalate "," (ordinals.map placeholder)) ordinals := by
    have h : Shows (String.intercalate "," (ordinals.map placeholder))
        (ordinals.flatMap fun n => [n]) :=
      .intercalate (by decide) (by decide) ordinals fun n _ => shows_placeholder n
    rwa [List.flatMap_singleton'] at h
  have hstop : Shows ("%" ++ String.intercalate "," (ordinals.map placeholder)) ordinals :=
    .plain_append (by decide) hjoined
  have hopen : Shows ("(" ++ String.intercalate "," (ordinals.map placeholder)) ordinals :=
    .plain_append (by decide) hjoined
  cases p with
  | bare => exact hjoined
  | start => exact hjoined.append_closing (by decide)
  | stop => exact hstop
  | within => exact hstop.append_closing (by decide)
  | list => exact hopen.append_closing (by decide)

private theorem plain_comparator (c : Comparator) : Plain c.text := by
  cases c <;> decide

theorem shows_condition {c : Condition} (hkey : Plain c.key) : Shows c.text c.ordinals := by
  unfold Condition.text
  refine .plain_append ?_ (shows_pattern c.pattern c.ordinals)
  simp +decide [plain_quote hkey, plain_comparator c.comparator]

theorem shows_whereClause {conditions : List Condition} (hkeys : ∀ c ∈ conditions, Plain c.key) :
    Shows (whereClause (conditions.map Condition.text) .and)
      (conditions.flatMap Condition.ordinals) := by
  unfold whereClause
  cases conditions with
  | nil => exact shows_of_plain (by decide)
  | cons c rest =>
    refine .plain_append (by decide) ?_
    exact .intercalate (by decide) (by decide) _ fun c hc => shows_condition (hkeys c hc)

theorem closing_orderBy {field : Option String} (hfield : ∀ name ∈ field, Plain name)
    (order : SortOrder) : Closing (orderBy field order) := by
  have horder : Plain order.text := by cases order <;> decide
  cases field with
  | none => exact (by decide : Closing "")
  | some name =>
    have hquoted := plain_quote (hfield name rfl)
    simp only [orderBy, String.append_assoc]
    split
    · decide
    · apply closing_append (by decide) (by decide)
      simp +decide [hquoted, horder]

theorem closing_limit (rows : Option UInt64) (first : UInt64) : Closing (limit rows first) := by
  cases rows with
  | none => exact (by decide : Closing "")
  | some rows =>
    simp only [limit, String.append_assoc]
    split
    · decide
    · apply closing_append (by decide) (by decide)
      simp +decide

private theorem plain_head {columns : List String} (hcolumns : ∀ column ∈ columns, Plain column)
    (counted : Bool) {table : String} (htable : Plain table) :
    Plain (Select.head columns counted table) := by
  have hlist : Plain (if columns.isEmpty then "*" else commaList columns) := by
    split
    · decide
    · exact plain_commaList hcolumns
  have hcount : Plain (if counted then ", COUNT(*) OVER () AS " ++ totalColumn else "") := by
    cases counted <;> decide
  unfold Select.head
  simp +decide only [plain_append, hlist, hcount, plain_quote htable]

theorem Select.shows {s : Select} (htable : Plain s.table)
    (hcolumns : ∀ column ∈ s.columns, Plain column) (hkeys : ∀ c ∈ s.conditions, Plain c.key)
    (hfield : ∀ name ∈ s.sortField, Plain name) :
    Shows s.text (s.conditions.flatMap Condition.ordinals) := by
  have hwhere := Shows.plain_append (plain_head hcolumns s.counted htable)
    (shows_whereClause hkeys)
  have hsorted := hwhere.append_closing (closing_orderBy hfield s.sortOrder)
  exact hsorted.append_closing (closing_limit s.rows s.first)

theorem Insert.shows {i : Insert} (htable : Plain i.table)
    (hcolumns : ∀ column ∈ i.columns, Plain column)
    (hreturning : ∀ clause ∈ i.returning, Plain clause) : Shows i.text i.ordinals := by
  have hhead : Plain ("INSERT INTO " ++ Identifier.quote i.table ++ " (" ++ commaList i.columns
      ++ ") VALUES ") := by
    simp +decide [plain_quote htable, plain_commaList hcolumns]
  have htuples : Shows
      (commaList (i.tuples.map fun ordinals => "(" ++ placeholders ordinals ++ ")"))
      (i.tuples.flatMap id) := by
    refine .commaList _ fun ordinals _ => ?_
    have hopen := Shows.plain_append (by decide : Plain "(") (shows_placeholders ordinals)
    exact hopen.append_closing (by decide)
  rw [List.flatMap_id] at htuples
  have hrows := Shows.plain_append hhead htuples
  unfold Insert.text
  cases hclause : i.returning with
  | none => exact hrows.append_closing (by decide)
  | some clause =>
    exact hrows.append_closing
      (closing_append (by decide) (by decide) (hreturning clause hclause))

theorem Assignment.shows {a : Assignment} (hcolumn : Plain a.column) :
    Shows a.text a.ordinals := by
  have hbranch : ∀ branch ∈ a.branches, Shows (" WHEN " ++ idColumn ++ " = "
      ++ placeholder branch.1 ++ " THEN " ++ placeholder branch.2) [branch.1, branch.2] := by
    intro branch _
    have hid : Shows (" WHEN " ++ idColumn ++ " = " ++ placeholder branch.1) [branch.1] :=
      .plain_append (by decide) (shows_placeholder branch.1)
    have hthen := hid.append_closing (by decide : Closing " THEN ")
    refine hthen.append (shows_placeholder branch.2) ?_
    exact endsNumeral_append_left (by decide) (by decide) _
  have hends : ∀ branch ∈ a.branches, EndsNumeral (" WHEN " ++ idColumn ++ " = "
      ++ placeholder branch.1 ++ " THEN " ++ placeholder branch.2).toList := by
    intro branch _
    simp only [String.append_assoc]
    exact endsNumeral_append_left (by decide) (by decide) _
  obtain ⟨hbranches, -⟩ := Shows.join a.branches hends hbranch
  -- The column may begin with a digit, so that it is taken together with the word before it.
  have helse : Closing (" ELSE " ++ (a.column ++ " END")) := by
    apply closing_append (by decide) (by decide)
    exact plain_append.mpr ⟨hcolumn, by decide⟩
  have hcase := hbranches.append_closing helse
  unfold Assignment.text
  simp only [String.append_assoc] at hcase ⊢
  exact .plain_append hcolumn (.plain_append (by decide) hcase)

theorem Update.shows {u : Update} (htable : Plain u.table)
    (hcolumns : ∀ a ∈ u.assignments, Plain a.column) : Shows u.text u.ordinals := by
  have hset := Shows.commaList u.assignments fun a ha => Assignment.shows (hcolumns a ha)
  have hids : Shows (" WHERE " ++ (idColumn ++ (" IN (" ++ (placeholders u.ids ++ ")"))))
      u.ids := by
    have hlist := (shows_placeholders u.ids).append_closing (by decide : Closing ")")
    exact .plain_append (by decide) (.plain_append (by decide) (.plain_append (by decide) hlist))
  have hassigned := hset.append hids (endsNumeral_append_left (by decide) (by decide) _)
  have htableSet := Shows.plain_append (plain_quote htable)
    (.plain_append (by decide : Plain " SET ") hassigned)
  unfold Update.text
  simp only [String.append_assoc]
  exact .plain_append (by decide) htableSet

theorem Delete.shows {d : Delete} (htable : Plain d.table) : Shows d.text [1] := by
  have hhead : Plain ("DELETE FROM " ++ Identifier.quote d.table ++ " WHERE ") := by
    simp +decide [plain_quote htable]
  unfold Delete.text
  refine .plain_append hhead ?_
  cases d.condition with
  | listed =>
    have hid : Shows (idColumn ++ " = ANY(" ++ placeholder 1) [1] :=
      .plain_append (by decide) (shows_placeholder 1)
    exact hid.append_closing (by decide)
  | archivedBefore => exact .plain_append (by decide) (shows_placeholder 1)

end TableSql.Sql
