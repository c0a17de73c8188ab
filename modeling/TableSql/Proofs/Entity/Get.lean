import TableSql.Entity.Operations
import TableSql.Proofs.Client.Response
import TableSql.Proofs.Client.Session
import TableSql.Proofs.Filter.Condition

/-! Requests for rows: the one statement that answers a request, which of its filters the statement
keeps, and what the response keeps of the reply. -/

namespace TableSql.Entity

variable {σ : Type}

def cleaned (e : Entity) (request : SelectRequest) : SelectRequest :=
  { request with filters := e.clean request.filters }

/-- A request sends one statement. An answer without rows is an error too. -/
theorem run_get (e : Entity) {client : Client σ} {request : SelectRequest} {session : Session σ}
    {answer : Except Error Reply} {state : σ}
    (h : client.query (e.selectStatement (e.cleaned request)) session.client =
      (answer, state)) :
    ∃ log, (e.get client request).run session =
      (match answer with
        | .error fault => .error (.backend fault)
        | .ok reply =>
          if reply.rows.isEmpty then .error (.notFound "Resource not found")
          else .ok (Response.ofReply reply).takeTotal, ⟨state, log⟩) := by
  let before := session.log ++ e.rejectionLines request.filters
  let line := e.startLine "get" (requestFields (e.cleaned request))
  rw [get, Action.run_bind_ok (Action.run_forM_log _ _)]
  dsimp only
  rw [Action.run_bind_ok (Action.run_log _ _)]
  cases answer with
  | error fault =>
    obtain ⟨log, hexecute⟩ :=
      Statement.run_execute_error e.options.trace ⟨session.client, before ++ [line]⟩ h
    exact ⟨log, Action.run_bind_error hexecute⟩
  | ok reply =>
    obtain ⟨log, hexecute⟩ :=
      Statement.run_execute_ok e.options.trace ⟨session.client, before ++ [line]⟩ h
    refine ⟨log, (Action.run_bind_ok hexecute).trans ?_⟩
    unfold Response.ofReply
    dsimp only
    by_cases hrows : reply.rows.isEmpty
    · rw [if_pos hrows, if_pos hrows]
      exact Action.run_bind_error (Action.run_throw _ _)
    · rw [if_neg hrows, if_neg hrows]
      exact Action.run_bind_ok (Action.run_pure _ _)

/-- Whether a filter of a request leaves a condition: its key names a property that can be filtered
and compared in its mode, and there is a value to compare with. -/
def admits (e : Entity) (entry : String × Filter) : Bool :=
  (e.properties.find? (·.key = entry.1)).any fun p =>
    p.filterable && entry.2.mode.any (·.allowedFor p.kind) &&
      match entry.2.value with
      | .array [] => false
      | _ => true

private theorem isEmpty_values (f : Filter) :
    (!f.values.isEmpty) =
      match f.value with
      | .array [] => false
      | _ => true := by
  unfold Filter.values
  cases f.value with
  | array items => cases items <;> rfl
  | _ => rfl

/-- A mode that a property allows is always one that can be compiled, so that cleaning and
compiling together keep what is admitted. -/
theorem isCompared_and_isNone_rejection (e : Entity) (entry : String × Filter) :
    (entry.2.isCompared && (entry.2.rejection? (e.property? entry.1)).isNone) =
      e.admits entry := by
  obtain ⟨key, f⟩ := entry
  unfold admits property?
  dsimp only
  cases e.properties.find? (·.key = key) with
  | none => simp [Filter.rejection?]
  | some p =>
    rw [Option.any_some, ← isEmpty_values, Filter.isCompared, Filter.rejection?]
    cases hfilterable : p.filterable with
    | false => simp
    | true =>
      cases hmode : f.mode with
      | none => simp
      | some mode =>
        cases hallowed : mode.allowedFor p.kind with
        | false => simp [hallowed]
        | true =>
          have hcomparator := MatchMode.comparator?_isSome_of_allowedFor hallowed
          simp [hallowed, hcomparator]

theorem comparedEntries_clean (e : Entity) (filters : Filters) :
    comparedEntries (e.clean filters).entries = filters.entries.filter e.admits := by
  rw [comparedEntries, clean, Filters.clean, Filters.retain, List.filter_filter]
  exact List.filter_congr fun entry _ => e.isCompared_and_isNone_rejection entry

/-- A request is answered with one statement. Its conditions stand for the admitted filters, one
for each in the order of the request; the ordinals of all conditions are the numbers from one to
the number of arguments, and the arguments are the values of those filters. -/
theorem get_sends_admitted_filters (e : Entity) (client : Client σ) (request : SelectRequest)
    (session : Session (σ × List Statement)) :
    let admitted := request.filters.entries.filter e.admits
    ∃ (statement : Statement) (conditions : List Sql.Condition),
      ((e.get client.recorded request).run session).2.client.2 =
        session.client.2 ++ [statement] ∧
      statement.text =
        Sql.Select.head e.registry.select.sql request.pagination e.table
          ++ (if conditions.isEmpty then ""
            else " WHERE " ++ String.intercalate " AND " (conditions.map Sql.Condition.text))
          ++ Sql.orderBy request.sortField request.sortOrder
          ++ Sql.limit request.rows request.first ∧
      List.Forall₂ (fun entry c => ∃ mode comparator,
          entry.2.mode = some mode ∧ mode.comparator? = some comparator ∧
          c.text = Sql.Identifier.quote entry.1 ++ " " ++ comparator.text ++ " "
            ++ (let joined := String.intercalate "," (c.ordinals.map fun n =>
                "$" ++ Decimal.numeral n)
              match mode.pattern with
              | .bare => joined
              | .start => joined ++ "%"
              | .stop => "%" ++ joined
              | .within => "%" ++ joined ++ "%"
              | .list => "(" ++ joined ++ ")") ∧
          c.ordinals.map statement.arg = entry.2.values) admitted conditions ∧
      conditions.flatMap (·.ordinals) = List.range' 1 statement.args.length ∧
      statement.args = admitted.flatMap fun entry =>
        match entry.2.value with
        | .array items => items
        | v => [v] := by
  intro admitted
  let statement := e.selectStatement (e.cleaned request)
  let compiled := Compiled.ofEntries 1 (e.clean request.filters).entries
  obtain ⟨hconditions, hordinals, hvalues, -⟩ :=
    Compiled.ofEntries_spec 1 (e.clean request.filters).entries
  rw [comparedEntries_clean] at hconditions hvalues
  -- All ordinals together hold all arguments, so each condition's hold its filter's values.
  have hall : (compiled.conditions.flatMap Sql.Condition.ordinals).map statement.arg =
      statement.args := by
    have h := statement.map_arg_range' 0 statement.args.length (by omega)
    rw [List.drop_zero, List.take_length] at h
    rw [hordinals]
    exact h
  have hparts : List.Forall₂ (fun entry c =>
        Compiled.StandsFor entry c ∧ entry.2.values = c.ordinals.map statement.arg)
      admitted compiled.conditions := by
    apply forall₂_and_eq_of_flatMap_eq hconditions
    · rintro entry c ⟨_, _, _, _, _, hlength⟩
      rw [List.length_map, hlength]
    · rw [← List.map_flatMap, hall]
      exact hvalues.symm
  refine ⟨statement, compiled.conditions, ?_, ?_, ?_, hordinals, hvalues⟩
  · cases hquery : client.query statement session.client.1 with
    | mk answer state =>
      have hrecorded : client.recorded.query statement session.client =
          (answer, state, session.client.2 ++ [statement]) := by
        simp only [Client.recorded, hquery]
      obtain ⟨log, hget⟩ := e.run_get hrecorded
      rw [hget]
  · change Sql.Select.text _ = _
    unfold Sql.Select.text Sql.whereClause
    rw [List.isEmpty_map]
    rfl
  · refine hparts.imp ?_
    rintro entry c ⟨⟨mode, comparator, hmode, hcomparator, hc, -⟩, heq⟩
    refine ⟨mode, comparator, hmode, hcomparator, ?_, heq.symm⟩
    rw [hc]
    rfl

/-- A response has the rows of the reply, and its total is the number that the first row has in the
column of the count; wherever the first row has such a number, whether or not a count was asked for,
that column is removed from all rows, and a negative number is no total. So a response differs from
its reply by no more than a count that was asked for exactly where the first row of the reply has
no number there if none was asked for, and no negative one if one was. -/
theorem get_moves_countOnly_iff (e : Entity) (client : Client σ) (request : SelectRequest)
    (session after : Session σ) (response : Response)
    (h : (e.get client request).run session = (.ok response, after)) :
    ∃ reply : Reply,
      client.query (e.selectStatement (e.cleaned request)) session.client =
        (.ok reply, after.client) ∧
      reply.rows ≠ [] ∧
      (response.rows =
        if reply.count?.isSome then reply.rows.map (·.erase "total") else reply.rows) ∧
      (response.total = reply.count?.bind fun n => if n < 0 then none else some n.toUInt64) ∧
      (response.MovesCountOnly request.pagination reply ↔
        if request.pagination then ∀ n, reply.count? = some n → 0 ≤ n
        else reply.count? = none) := by
  rcases hquery : client.query (e.selectStatement (e.cleaned request)) session.client with
    ⟨answer, state⟩
  obtain ⟨log, hrun⟩ := e.run_get hquery
  rw [hrun] at h
  obtain ⟨hresponse, rfl⟩ := Prod.mk.inj h
  cases answer with
  | error fault => cases hresponse
  | ok reply =>
    dsimp only at hresponse
    split at hresponse
    · cases hresponse
    · next hrows =>
      obtain rfl := Except.ok.inj hresponse
      exact ⟨reply, rfl, fun hnil => hrows (List.isEmpty_iff.mpr hnil),
        Response.rows_takeTotal reply, Response.total_takeTotal reply,
        Response.movesCountOnly_takeTotal_iff _ reply⟩

/-- Invoices, of which the total is a column like any other. -/
def invoices : Entity where
  name := "invoices"
  table := "invoices"
  properties := [.ofKey "name" .string, .ofKey "total" .integer]
  options := .default
  isTableName_table := by decide
  chunkSize_ne_zero := by decide

def johnCounted (n : Int64) : Reply :=
  ⟨[Record.ofCells [("name", .text "John"), ("total", .int n)]], none, ["name", "total"]⟩

theorem run_get_johnCounted (pagination : Bool) (n : Int64) :
    ∃ log, (invoices.get Client.scripted { SelectRequest.all with pagination }).run
        ⟨[.ok (johnCounted n)], []⟩ =
      (.ok (Response.ofReply (johnCounted n)).takeTotal, ⟨[], log⟩) := by
  let session : Session (List (Except Error Reply)) := ⟨[.ok (johnCounted n)], []⟩
  let request := { SelectRequest.all with pagination }
  have hquery : Client.scripted.query (invoices.selectStatement (invoices.cleaned request))
      session.client = (.ok (johnCounted n), []) := rfl
  exact invoices.run_get hquery

theorem get_moves_countOnly_johnCounted :
    let request := { SelectRequest.all with pagination := true }
    ∃ response after,
      (invoices.get Client.scripted request).run ⟨[.ok (johnCounted 42)], []⟩ =
        (.ok response, after) ∧
      response.total = some 42 ∧
      response.rows.map (·.cells) = [[("name", .text "John")]] ∧
      response.MovesCountOnly true (johnCounted 42) := by
  intro request
  obtain ⟨log, hrun⟩ := run_get_johnCounted true 42
  obtain ⟨reply, hquery, -, hrows, htotal, hiff⟩ :=
    get_moves_countOnly_iff invoices Client.scripted request _ _ _ hrun
  obtain rfl : johnCounted 42 = reply := Except.ok.inj (Prod.mk.inj hquery).1
  refine ⟨_, _, hrun, htotal.trans rfl, ?_, hiff.mpr ?_⟩
  · rw [hrows]
    rfl
  · rintro n hn
    obtain rfl : (42 : Int64) = n := Option.some.inj hn
    decide

/-- The total of an invoice is taken for a count although none was asked for. -/
theorem get_takes_total_of_invoice :
    SelectRequest.all.pagination = false ∧
    ∃ response after,
      (invoices.get Client.scripted SelectRequest.all).run ⟨[.ok (johnCounted 5)], []⟩ =
        (.ok response, after) ∧
      response.total = some 5 ∧
      response.rows.map (·.cells) = [[("name", .text "John")]] ∧
      ¬ response.MovesCountOnly false (johnCounted 5) := by
  obtain ⟨log, hrun⟩ := run_get_johnCounted false 5
  refine ⟨rfl, _, _, hrun, rfl, rfl, ?_⟩
  rw [Response.movesCountOnly_takeTotal_iff]
  exact nofun

end TableSql.Entity
