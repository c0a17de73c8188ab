import TableSql.Client.Table

/-! Clients that run insertions row by row: what a list of rows gives is what its parts give one
after another. Clients that run updates on a table. -/

namespace TableSql.Client

variable {σ : Type} {step : List Value → σ → Except Error Record × σ}

theorem eachRow_cons_ok {values : List Value} {state middle : σ} {record : Record}
    (h : step values state = (.ok record, middle)) (rest : List (List Value)) :
    eachRow step (values :: rest) state =
      ((eachRow step rest middle).1.map (record :: ·), (eachRow step rest middle).2) := by
  rw [eachRow, h]

theorem eachRow_cons_error {values : List Value} {state middle : σ} {e : Error}
    (h : step values state = (.error e, middle)) (rest : List (List Value)) :
    eachRow step (values :: rest) state = (.error e, middle) := by
  rw [eachRow, h]

theorem length_eachRow {rows : List (List Value)} {state after : σ} {returned : List Record}
    (h : eachRow step rows state = (.ok returned, after)) : returned.length = rows.length := by
  induction rows generalizing state returned with
  | nil =>
    cases h
    rfl
  | cons values rest ih =>
    rcases hstep : step values state with ⟨outcome, middle⟩
    cases outcome with
    | error e =>
      rw [eachRow_cons_error hstep] at h
      cases h
    | ok record =>
      rw [eachRow_cons_ok hstep] at h
      rcases hrest : eachRow step rest middle with ⟨outcome, last⟩
      rw [hrest] at h
      cases outcome with
      | error e => cases h
      | ok others =>
        cases h
        rw [List.length_cons, List.length_cons, ih hrest]

theorem eachRow_append_ok {first : List (List Value)} {state middle : σ} {returned : List Record}
    (h : eachRow step first state = (.ok returned, middle)) (second : List (List Value)) :
    eachRow step (first ++ second) state =
      ((eachRow step second middle).1.map (returned ++ ·), (eachRow step second middle).2) := by
  induction first generalizing state returned with
  | nil =>
    obtain ⟨hreturned, rfl⟩ := Prod.mk.inj h
    obtain rfl := Except.ok.inj hreturned
    refine Prod.ext ?_ rfl
    dsimp only [List.nil_append]
    cases (eachRow step second state).1 with
    | error e => rfl
    | ok more => rfl
  | cons values rest ih =>
    rcases hstep : step values state with ⟨outcome, next⟩
    cases outcome with
    | error e =>
      rw [eachRow_cons_error hstep] at h
      cases h
    | ok record =>
      rw [eachRow_cons_ok hstep] at h
      rcases hrest : eachRow step rest next with ⟨outcome, last⟩
      rw [hrest] at h
      cases outcome with
      | error e => cases h
      | ok others =>
        obtain ⟨hreturned, rfl⟩ := Prod.mk.inj h
        obtain rfl := Except.ok.inj hreturned
        rw [List.cons_append, eachRow_cons_ok hstep, ih hrest]
        refine Prod.ext ?_ rfl
        dsimp only
        cases (eachRow step second last).1 with
        | error e => rfl
        | ok more => rfl

theorem eachRow_append_error {first : List (List Value)} {state middle : σ} {e : Error}
    (h : eachRow step first state = (.error e, middle)) (second : List (List Value)) :
    eachRow step (first ++ second) state = (.error e, middle) := by
  induction first generalizing state with
  | nil => cases h
  | cons values rest ih =>
    rcases hstep : step values state with ⟨outcome, next⟩
    cases outcome with
    | error e' =>
      rw [eachRow_cons_error hstep] at h
      rw [List.cons_append, eachRow_cons_error hstep, h]
    | ok record =>
      rw [eachRow_cons_ok hstep] at h
      rcases hrest : eachRow step rest next with ⟨outcome, last⟩
      rw [hrest] at h
      cases outcome with
      | error e' =>
        cases h
        rw [List.cons_append, eachRow_cons_ok hstep, ih hrest]
        rfl
      | ok others => cases h

/-- A client that runs insertions into some columns by a step for each row, in order: it answers
what the steps return, or an error where one of them fails. The step may go by the table, the
columns and the clause that says what is returned. -/
def RunsInsertions (client : Client σ) (columns : List String)
    (step : String → List String → Option String → List Value → σ → Except Error Record × σ) :
    Prop :=
  ∀ (statement : Statement) (i : Sql.Insert) (state : σ), statement.AddsRows i →
    i.columns = columns →
    match eachRow (step i.table i.columns i.returning) (i.values statement.arg) state with
    | (.ok returned, after) =>
      ∃ affected columns, client.query statement state = (.ok ⟨returned, affected, columns⟩, after)
    | (.error _, _) => ∃ e after, client.query statement state = (.error e, after)

theorem runsInsertions_inserting (columns : List String)
    (step : String → List String → List Value → σ → Except Error Record × σ) :
    (inserting step).RunsInsertions columns fun table columns _ => step table columns := by
  intro statement i state hadds _
  rcases hrun : eachRow (step i.table i.columns) (i.values statement.arg) state with
    ⟨outcome, after⟩
  have hquery : (inserting step).query statement state =
      (outcome.map fun rows => ⟨rows, none, []⟩, after) := by
    simp only [inserting, hadds.command, hrun]
  cases outcome with
  | ok returned => exact ⟨none, [], hquery⟩
  | error e => exact ⟨e, after, hquery⟩

/-- A client that runs an update of a table as its meaning says, on each row of the table. -/
def RunsUpdates (client : Client σ) (same : SameId) (table : String) (contents : σ → List Record) :
    Prop :=
  ∀ (statement : Statement) (u : Sql.Update) (state : σ), statement.ChangesRows u →
    u.table = table → ∃ reply after, client.query statement state = (.ok reply, after) ∧
      contents after = (contents state).map fun row =>
        u.apply statement.arg (statement.holdsId same row) row

theorem runsUpdates_updating (same : SameId) (table : String) :
    (updating same).RunsUpdates same table id := by
  intro statement u state hchanges _
  have hquery : (updating same).query statement state =
      (.ok ⟨[], some (UInt64.ofNat
          (state.filter fun row => u.concerns (statement.holdsId same row)).length), []⟩,
        state.map fun row => u.apply statement.arg (statement.holdsId same row) row) := by
    simp only [updating, hchanges.command]
  exact ⟨_, _, hquery, rfl⟩

end TableSql.Client
