import TableSql.Entity.Operations
import TableSql.Proofs.Client.Session
import TableSql.Proofs.Client.Table
import TableSql.Proofs.Entity.Chunks
import TableSql.Proofs.Statement.Insert

/-! Additions in chunks. A client that runs insertions row by row cannot tell the chunks of a batch
from the batch, and what is added does not depend on them. -/

namespace TableSql.Entity

variable {σ : Type}
  {step : String → List String → Option String → List Value → σ → Except Error Record × σ}

def addStep (e : Entity) (consumer : Option Consumer)
    (step : String → List String → Option String → List Value → σ → Except Error Record × σ) :
    List Value → σ → Except Error Record × σ :=
  step e.table (Statement.insertedColumns e.registry.insert consumer)
    (some (Sql.returningClause Sql.idColumn))

def addCells (e : Entity) (consumer : Option Consumer) : Record → List Value :=
  Statement.insertedCells e.registry.insert consumer

/-- Rows are added as a batch of steps says: with what the steps returned where all of them
succeed, and not at all otherwise. -/
def AddsAs (consumer : Option Consumer) (rows : List Record)
    (batch : Except Error (List Record) × σ) (added : Except Error (List Record) × Session σ) :
    Prop :=
  match batch with
  | (.ok returned, after) =>
    ∃ log, added = (.ok (List.zipWith (addedRow consumer) rows returned), ⟨after, log⟩)
  | (.error _, _) => ∃ fault after, added = (.error fault, after)

section Runs

variable {client : Client σ} {e : Entity} {consumer : Option Consumer}
  (hclient : client.RunsInsertions (Statement.insertedColumns e.registry.insert consumer) step)
include hclient

/-- What a client that runs insertions does with the statement of a chunk. -/
private theorem query_insertStatement {rows : List Record} (hrows : rows ≠ []) (state : σ) :
    match Client.eachRow (e.addStep consumer step) (rows.map (e.addCells consumer)) state with
    | (.ok returned, after) => ∃ affected columns,
      client.query (e.insertStatement rows consumer (some (Sql.returningClause Sql.idColumn)))
        state = (.ok ⟨returned, affected, columns⟩, after)
    | (.error _, _) => ∃ fault after,
      client.query (e.insertStatement rows consumer (some (Sql.returningClause Sql.idColumn)))
        state = (.error fault, after) := by
  have hreturning : (some (Sql.returningClause Sql.idColumn)).filter
      (fun clause => !clause.isEmpty) = some (Sql.returningClause Sql.idColumn) := by
    decide
  have hvalues := Statement.map_arg_tuples e.registry.insert e.table rows consumer
    (some (Sql.returningClause Sql.idColumn))
  have hadds : (e.insertStatement rows consumer
      (some (Sql.returningClause Sql.idColumn))).AddsRows _ :=
    Statement.addsRows_insert e.registry.insert e.table hrows consumer _ rfl
  have h := hclient _ _ state hadds rfl
  unfold Sql.Insert.values at h
  dsimp only at h
  rw [hreturning] at h
  unfold insertStatement at h
  rw [hvalues] at h
  exact h

private theorem run_addChunk {rows : List Record} (hrows : rows ≠ []) (session : Session σ) :
    AddsAs consumer rows
      (Client.eachRow (e.addStep consumer step) (rows.map (e.addCells consumer)) session.client)
      ((e.addChunk client consumer rows).run session) := by
  have hquery := query_insertStatement hclient hrows session.client
  rcases hbatch : Client.eachRow (e.addStep consumer step) (rows.map (e.addCells consumer))
    session.client with ⟨outcome, after⟩
  rw [hbatch] at hquery
  cases outcome with
  | error fault =>
    obtain ⟨fault, after, hquery⟩ := hquery
    obtain ⟨log, hexecute⟩ := Statement.run_execute_error e.options.trace session hquery
    exact ⟨_, _, Action.run_bind_error hexecute⟩
  | ok returned =>
    obtain ⟨affected, columns, hquery⟩ := hquery
    obtain ⟨log, hexecute⟩ := Statement.run_execute_ok e.options.trace session hquery
    have hlength : returned.length = rows.length :=
      (Client.length_eachRow hbatch).trans (List.length_map _)
    refine ⟨log, ?_⟩
    rw [addChunk, execute, Action.run_bind_ok hexecute, Response.ofReply, if_pos hlength]
    rfl

/-- Chunks written one after another are added as the rows of all of them in one batch. -/
theorem run_addChunks {chunks : List (List Record)} (hchunks : ∀ chunk ∈ chunks, chunk ≠ [])
    (session : Session σ) :
    AddsAs consumer chunks.flatten
      (Client.eachRow (e.addStep consumer step) (chunks.flatten.map (e.addCells consumer))
        session.client)
      ((e.addChunks client consumer chunks).run session) := by
  induction chunks generalizing session with
  | nil => exact ⟨session.log, rfl⟩
  | cons chunk rest ih =>
    obtain ⟨hchunk, hrest⟩ := List.forall_mem_cons.mp hchunks
    have hadd := run_addChunk hclient hchunk session
    rcases hfirst : Client.eachRow (e.addStep consumer step) (chunk.map (e.addCells consumer))
      session.client with ⟨outcome, middle⟩
    rw [hfirst] at hadd
    rw [List.flatten_cons, List.map_append]
    cases outcome with
    | error fault =>
      obtain ⟨fault, after, hadd⟩ := hadd
      rw [Client.eachRow_append_error hfirst]
      exact ⟨fault, after, Action.run_bind_error hadd⟩
    | ok front =>
      obtain ⟨log, hadd⟩ := hadd
      have hothers := ih hrest ⟨middle, log⟩
      rw [Client.eachRow_append_ok hfirst]
      rcases hlater : Client.eachRow (e.addStep consumer step)
        (rest.flatten.map (e.addCells consumer)) middle with ⟨outcome, last⟩
      rw [hlater] at hothers
      cases outcome with
      | error fault =>
        obtain ⟨fault, after, hothers⟩ := hothers
        refine ⟨fault, after, ?_⟩
        rw [addChunks, Action.run_bind_ok hadd, Action.run_bind_error hothers]
      | ok others =>
        obtain ⟨log, hothers⟩ := hothers
        have hlength : chunk.length = front.length :=
          ((Client.length_eachRow hfirst).trans (List.length_map _)).symm
        refine ⟨log, ?_⟩
        rw [addChunks, Action.run_bind_ok hadd, Action.run_bind_ok hothers, Action.run_pure,
          List.zipWith_append hlength]

theorem run_add (rows : List Record) (session : Session σ) :
    AddsAs consumer rows
      (Client.eachRow (e.addStep consumer step) (rows.map (e.addCells consumer)) session.client)
      ((e.add client rows consumer).run session) := by
  have hflatten : (e.chunksOf rows).flatten = rows := flatten_chunks _ rows
  have hchunks : ∀ chunk ∈ e.chunksOf rows, chunk ≠ [] := fun _ => ne_nil_of_mem_chunks
  have hadd := run_addChunks hclient hchunks
    { session with log := session.log ++ [e.startLine "add" (rowFields rows consumer)] }
  rw [hflatten] at hadd
  rw [add, Action.run_bind_ok (Action.run_log _ _)]
  exact hadd

/-- Rows are added exactly where the client's step succeeds on all of them, one after another. -/
theorem add_eq_ok_iff (rows added : List Record) (session : Session σ) :
    ((e.add client rows consumer).run session).1 = .ok added ↔
      ∃ returned, (Client.eachRow (e.addStep consumer step) (rows.map (e.addCells consumer))
          session.client).1 = .ok returned ∧
        added = List.zipWith (addedRow consumer) rows returned := by
  have hadd := run_add hclient rows session
  rcases hbatch : Client.eachRow (e.addStep consumer step) (rows.map (e.addCells consumer))
    session.client with ⟨outcome, last⟩
  rw [hbatch] at hadd
  cases outcome with
  | error fault =>
    obtain ⟨fault, after, hadd⟩ := hadd
    rw [hadd]
    constructor
    · intro h
      cases h
    · rintro ⟨returned, h, -⟩
      cases h
  | ok returned =>
    obtain ⟨log, hadd⟩ := hadd
    rw [hadd]
    constructor
    · intro h
      exact ⟨returned, rfl, (Except.ok.inj h).symm⟩
    · rintro ⟨returned, h, rfl⟩
      rw [Except.ok.inj h]

end Runs

/-- Two entities on one table and with the same properties add the same rows, whatever the sizes
of their chunks. A record is the row with the consumer written into it, and the id that the client
returned for the row when the batch is taken as a whole. -/
theorem add_ignores_chunkSize {client : Client σ} (e e' : Entity) (htable : e'.table = e.table)
    (hproperties : e'.properties = e.properties) (rows : List Record) (consumer : Option Consumer)
    (hclient : client.RunsInsertions (Statement.insertedColumns e.registry.insert consumer) step)
    (session session' : Session σ) (hstate : session'.client = session.client) :
    let outcome := ((e.add client rows consumer).run session).1
    let outcome' := ((e'.add client rows consumer).run session').1
    let batch := (Client.eachRow
      (step e.table (Statement.insertedColumns e.registry.insert consumer)
        (some (Sql.returningClause "id")))
      (rows.map (Statement.insertedCells e.registry.insert consumer)) session.client).1
    ((∃ added, outcome = .ok added) ↔ ∃ added, outcome' = .ok added) ∧
    ((∃ added, outcome = .ok added) ↔ ∃ returned, batch = .ok returned) ∧
    ∀ added, outcome = .ok added →
      outcome' = .ok added ∧
      added.length = rows.length ∧
      ∃ returned, batch = .ok returned ∧
        ∀ (i : Nat) (hi : i < rows.length), ∃ record, returned[i]? = some record ∧
          added[i]? = some
            ((match consumer with
              | none => rows[i]
              | some c =>
                (rows[i].insert "consumerId" c.id).insert "consumerName" (.text c.name)).insert
              "id" ((record.get? "id").getD .null)) := by
  intro outcome outcome' batch
  have hregistry : e'.registry = e.registry := congrArg Registry.ofProperties hproperties
  have hiff := fun added => add_eq_ok_iff hclient rows added session
  have hiff' := fun added => add_eq_ok_iff (hregistry ▸ hclient) rows added session'
  have hsame : ∀ added, outcome = .ok added ↔ outcome' = .ok added := by
    intro added
    refine (hiff added).trans (Iff.trans ?_ (hiff' added).symm)
    unfold addStep addCells
    rw [htable, hregistry, hstate]
  refine ⟨exists_congr hsame, ?_, ?_⟩
  · constructor
    · rintro ⟨added, h⟩
      obtain ⟨returned, hbatch, -⟩ := (hiff added).mp h
      exact ⟨returned, hbatch⟩
    · rintro ⟨returned, h⟩
      exact ⟨_, (hiff _).mpr ⟨returned, h, rfl⟩⟩
  · intro added h
    obtain ⟨returned, hbatch, rfl⟩ := (hiff added).mp h
    have hlength : returned.length = rows.length :=
      (Client.length_eachRow (Prod.ext hbatch rfl)).trans (List.length_map _)
    refine ⟨(hsame _).mp h, by simp [hlength], returned, hbatch, fun i hi => ?_⟩
    refine ⟨returned[i], List.getElem?_eq_getElem _, ?_⟩
    rw [List.getElem?_eq_getElem (by simp [hlength, hi]), List.getElem_zipWith]
    cases consumer with
    | none => rfl
    | some c => rfl

def persons (chunkSize : UInt64) (h : chunkSize ≠ 0) : Entity where
  name := "persons"
  table := "persons"
  properties := [.ofKey "name" .string, .ofKey "age" .integer]
  options := { EntityOptions.default with chunkSize }
  isTableName_table := by decide
  chunkSize_ne_zero := h

/-- Numbers new rows by a counter, and refuses a row whose first value is null. -/
def numberRow (_table : String) (_columns : List String) :
    List Value → Nat → Except Error Record × Nat
  | .null :: _, n => (.error (.checkViolation "name"), n)
  | _, n => (.ok (Record.empty.insert "id" (.int (Int64.ofNat n))), n + 1)

def threePersons : List Record :=
  [ Record.ofCells [("name", .text "John"), ("age", .int 30)],
    Record.ofCells [("name", .text "Henry"), ("id", .int 5)],
    Record.ofCells [("name", .text "Ann"), ("consumerId", .null)] ]

theorem add_threePersons_by_one_or_two :
    (Client.inserting numberRow).RunsInsertions ["name", "age", "consumerId", "consumerName"]
      (fun table columns _ => numberRow table columns) ∧
    ∃ added,
      (((persons 1 (by decide)).add (Client.inserting numberRow) threePersons
        (some ⟨.int 1, "admin"⟩)).run ⟨40, []⟩).1 = .ok added ∧
      (((persons 2 (by decide)).add (Client.inserting numberRow) threePersons
        (some ⟨.int 1, "admin"⟩)).run ⟨40, []⟩).1 = .ok added ∧
      (added[2]?.map fun record => record.cells) =
        some [("consumerId", .int 1), ("consumerName", .text "admin"), ("id", .int 42),
          ("name", .text "Ann")] := by
  have hclient := Client.runsInsertions_inserting
    ["name", "age", "consumerId", "consumerName"] numberRow
  obtain ⟨-, hbatch, hadd⟩ := add_ignores_chunkSize (persons 1 (by decide))
    (persons 2 (by decide)) rfl rfl threePersons (some ⟨.int 1, "admin"⟩) hclient
    ⟨40, []⟩ ⟨40, []⟩ rfl
  obtain ⟨added, h⟩ := hbatch.mpr ⟨_, rfl⟩
  obtain ⟨h', -, returned, hreturned, hrecords⟩ := hadd added h
  obtain ⟨record, hrecord, hadded⟩ := hrecords 2 (by decide)
  obtain rfl := Except.ok.inj hreturned
  obtain rfl := Option.some.inj hrecord
  refine ⟨hclient, added, h, h', ?_⟩
  rw [hadded]
  rfl

end TableSql.Entity
