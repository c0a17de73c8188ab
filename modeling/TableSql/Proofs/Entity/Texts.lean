import TableSql.Proofs.Entity.Add
import TableSql.Proofs.Entity.Get
import TableSql.Proofs.Entity.Writing
import TableSql.Proofs.Sql.Identifier
import TableSql.Proofs.Statement.Shape

/-! What callers can put into the texts that an entity sends: no value at all, and a sort field as
it is unless something in it asks for quotes. -/

namespace TableSql.Entity

variable {σ : Type}

/-- No value enters the text of a statement. What a text depends on is, for a request, how many
values each filter has; for new rows, how many they are; for changed rows, how many they are and
which keys the first of them has; and for both whether there is a consumer. -/
theorem text_ignores_values (e : Entity) :
    (∀ (request : SelectRequest) (filters : Filters),
      List.Forall₂ (fun entry entry' => entry.1 = entry'.1 ∧ entry.2.mode = entry'.2.mode ∧
        entry.2.valueCount = entry'.2.valueCount) request.filters.entries filters.entries →
      (e.selectStatement request).text =
        (e.selectStatement { request with filters := filters }).text) ∧
    (∀ (rows rows' : List Record) (consumer consumer' : Option Consumer)
        (returning : Option String),
      rows.length = rows'.length → consumer.isSome = consumer'.isSome →
      (e.insertStatement rows consumer returning).text =
        (e.insertStatement rows' consumer' returning).text) ∧
    (∀ (rows rows' : List Record) (consumer consumer' : Option Consumer),
      rows.length = rows'.length →
      (∀ key, rows.head?.any (·.contains key) = rows'.head?.any (·.contains key)) →
      consumer.isSome = consumer'.isSome →
      (e.updateStatement rows consumer).text = (e.updateStatement rows' consumer').text) ∧
    (∀ ids ids' : List Value,
      (e.deleteByIdsStatement ids).text = (e.deleteByIdsStatement ids').text) ∧
    ∀ before before' : Value,
      (e.deleteArchivedStatement before).text = (e.deleteArchivedStatement before').text := by
  refine ⟨fun request filters hfilters => ?_,
    fun rows rows' consumer consumer' returning hrows hconsumer => ?_,
    fun rows rows' consumer consumer' hrows hfirst hconsumer => ?_, fun _ _ => rfl, fun _ _ => rfl⟩
  · exact Statement.text_congr
      (Statement.command_select_congr e.registry.select e.table request hfilters)
  · exact Statement.text_congr
      (Statement.command_insert_congr e.registry.insert e.table returning hrows hconsumer)
  · exact Statement.text_congr
      (Statement.command_update_congr e.registry.update e.table hrows hfirst hconsumer)

def byNames (names : List Value) : SelectRequest :=
  { SelectRequest.all with
    filters := Filters.empty.insert "name" ⟨.array names, some .isIn⟩ }

theorem contains_idAndName (id name : Value) (key : String) :
    (Record.ofCells [("id", id), ("name", name)]).contains key =
      decide (key = "id" ∨ key = "name") := by
  have hcells : (Record.ofCells [("id", id), ("name", name)]).cells =
      [("id", id), ("name", name)] := rfl
  rw [Record.contains, Record.get?, hcells, Entries.get?, Entries.get?]
  by_cases hid : "id" = key
  · simp [hid]
  · by_cases hname : "name" = key
    · simp [hid, hname]
    · simp [hid, hname, Ne.symm hid, Ne.symm hname, Entries.get?]

theorem text_ignores_hostile_names :
    let e := persons 2 (by decide)
    (e.selectStatement (byNames [.text "John", .null])).text =
      (e.selectStatement (byNames [.text "$1) or 1 = 1 --", .array [.int 1, .int 2]])).text ∧
    (e.updateStatement [Record.ofCells [("id", .int 1), ("name", .text "John")]] none).text =
      (e.updateStatement [Record.ofCells [("id", .null), ("name", .text "'; --")]] none).text ∧
    (e.selectStatement (byNames [.text "John", .null])).text =
      "SELECT name, age FROM persons WHERE name IN ($1,$2)" := by
  intro e
  obtain ⟨hselect, -, hupdate, -, -⟩ := text_ignores_values e
  refine ⟨?_, ?_, by decide +kernel⟩
  · exact hselect (byNames [.text "John", .null]) _ (.cons ⟨rfl, rfl, rfl⟩ .nil)
  · refine hupdate _ _ none none rfl (fun key => ?_) rfl
    rw [List.head?_singleton, List.head?_singleton, Option.any_some, Option.any_some,
      contains_idAndName, contains_idAndName]

section Sorting

theorem sent_get (e : Entity) (client : Client σ) (request : SelectRequest)
    (session : Session (σ × List Statement)) :
    ((e.get client.recorded request).run session).2.client.2 =
      session.client.2 ++ [e.selectStatement (e.cleaned request)] := by
  cases hquery : client.query (e.selectStatement (e.cleaned request)) session.client.1 with
  | mk answer state =>
    obtain ⟨log, hget⟩ := e.run_get (Client.query_recorded hquery)
    rw [hget]

private theorem orderBy_of_ne_empty {field : String} (h : field ≠ "") (order : Sql.SortOrder) :
    Sql.orderBy (some field) order =
      " ORDER BY " ++ Sql.Identifier.quote field ++ " " ++ order.text := by
  rw [Sql.orderBy, if_neg]
  rwa [String.isEmpty_iff]

/-- A sort field is one identifier that stands for it, with the direction and the limits behind it,
exactly where it has an upper-case letter of ASCII, is a reserved word or is an identifier as it is.
Any other field stands in the text as it is. -/
theorem sortField_is_token_iff (e : Entity) (client : Client σ) (request : SelectRequest)
    (field : String) (hfield : request.sortField = some field) (hne : field ≠ "")
    (session : Session (σ × List Statement)) :
    ∃ (statement : Statement) (conditions : List Sql.Condition) (written : String),
      ((e.get client.recorded request).run session).2.client.2 =
        session.client.2 ++ [statement] ∧
      let after := " " ++ request.sortOrder.text ++ Sql.limit request.rows request.first
      statement.text =
        Sql.Select.head e.registry.select.sql request.pagination e.table
          ++ Sql.whereClause (conditions.map Sql.Condition.text) .and
          ++ " ORDER BY " ++ written ++ after ∧
      (Sql.Identifier.token? (written ++ after).toList = some (field.toList, after.toList) ↔
        field.toList.any Char.isUpper = true ∨ Sql.Identifier.isReserved field = true ∨
          Sql.Identifier.isUnquoted field = true) ∧
      (field.toList.any Char.isUpper = false → Sql.Identifier.isReserved field = false →
        written = field) := by
  let conditions := ((e.clean request.filters).compile 1).conditions
  refine ⟨e.selectStatement (e.cleaned request), conditions, Sql.Identifier.quote field,
    e.sent_get client request session, ?_, ?_, ?_⟩
  · change Sql.Select.text ⟨_, _, _, conditions, request.sortField, _, _, _⟩ = _
    rw [Sql.Select.text, hfield, orderBy_of_ne_empty hne]
    simp only [String.append_assoc]
    rfl
  · have hblank : (" " ++ request.sortOrder.text ++ Sql.limit request.rows request.first).toList =
        ' ' :: (request.sortOrder.text ++ Sql.limit request.rows request.first).toList := by
      rw [String.append_assoc, String.toList_append]
      rfl
    rw [String.toList_append, hblank, Sql.Identifier.token?_quote_iff, Sql.Identifier.needsQuotes,
      Bool.or_eq_true, or_assoc]
  · intro hlower hreserved
    rw [Sql.Identifier.quote, Sql.Identifier.needsQuotes, hlower, hreserved]
    rfl

theorem sortField_is_token_createdAt :
    let request : SelectRequest :=
      { SelectRequest.all with
        sortField := some "createdAt", sortOrder := .descending, rows := some 10 }
    request.sortField = some "createdAt" ∧ "createdAt" ≠ "" ∧
    ∃ (statement : Statement) (written : String),
      (((persons 2 (by decide)).get Client.scripted.recorded request).run ⟨([], []), []⟩).2.client.2 =
        [statement] ∧
      Sql.Identifier.token? (written ++ " DESC LIMIT 10 OFFSET 0").toList =
        some ("createdAt".toList, " DESC LIMIT 10 OFFSET 0".toList) := by
  intro request
  have hne : "createdAt" ≠ "" := by decide
  obtain ⟨statement, conditions, written, hsent, -, htoken, -⟩ :=
    sortField_is_token_iff (persons 2 (by decide)) Client.scripted request "createdAt" rfl hne
      ⟨([], []), []⟩
  have hafter : " " ++ request.sortOrder.text ++ Sql.limit request.rows request.first =
      " DESC LIMIT 10 OFFSET 0" := by decide +kernel
  rw [hafter] at htoken
  exact ⟨rfl, hne, statement, written, hsent, htoken.mpr (.inl rfl)⟩

/-- A field that has neither an upper-case letter nor the form of an identifier leaves its place: the
statement sorts by a column and goes on with the rest of the field. -/
theorem sortField_with_semicolon_not_token :
    let request : SelectRequest :=
      { SelectRequest.all with sortField := some "name; drop table persons --" }
    let sent := (((persons 2 (by decide)).get Client.scripted.recorded request).run
      ⟨([], []), []⟩).2.client.2
    sent.map Statement.text =
      ["SELECT name, age FROM persons ORDER BY name; drop table persons -- ASC"] ∧
    Sql.Identifier.token? "name; drop table persons -- ASC".toList =
      some ("name".toList, "; drop table persons -- ASC".toList) := by
  intro request sent
  have hsent : sent = [] ++ [(persons 2 (by decide)).selectStatement
      ((persons 2 (by decide)).cleaned request)] := sent_get _ Client.scripted request ⟨([], []), []⟩
  rw [hsent]
  exact ⟨by decide +kernel, by decide +kernel⟩

end Sorting

end TableSql.Entity
