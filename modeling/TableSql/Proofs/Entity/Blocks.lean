import Mathlib.Algebra.GroupWithZero.Nat
import TableSql.Proofs.Entity.Chunks
import TableSql.Proofs.Entity.Registry
import TableSql.Proofs.Entity.Writing

/-! Operations that write rows, block by block: what they send, and where they stop. -/

namespace TableSql

variable {σ : Type}

namespace Entity

/-- Rows are added chunk by chunk; a reply has to have a row for each of the chunk's. -/
def adding (e : Entity) (consumer : Option Consumer) : Writing where
  statement chunk := e.insertStatement chunk consumer (some (Sql.returningClause Sql.idColumn))
  refusal _ := none
  rejection chunk reply :=
    if reply.rows.length = chunk.length then none
    else some (.other (.idCount e.table reply.rows.length chunk.length))

/-- Rows are changed chunk by chunk, each of which has to have a column to change. -/
def updating (e : Entity) (consumer : Option Consumer) : Writing where
  statement chunk := e.updateStatement chunk consumer
  refusal chunk :=
    if (e.assignedColumns chunk consumer).isEmpty then some (.validation (.nothingToUpdate e.name))
    else none
  rejection _ _ := none

theorem chunkSize_pos (e : Entity) : 0 < e.options.chunkSize.toNat :=
  Nat.pos_of_ne_zero fun hzero => e.chunkSize_ne_zero (UInt64.toNat_inj.mp hzero)

def reported (reply : Reply) : UInt64 := (Response.ofReply reply).rowCount

theorem run_updateChunk_refused (e : Entity) (client : Client σ) (consumer : Option Consumer)
    {chunk : List Record} (h : (e.assignedColumns chunk consumer).isEmpty) (session : Session σ) :
    (e.updateChunk client consumer chunk).run session =
      (.error (.validation (.nothingToUpdate e.name)), session) := by
  rw [updateChunk, if_pos h]
  rfl

section Runs

variable (e : Entity) (client : Client σ) (consumer : Option Consumer)

def addedRows (consumer : Option Consumer) (chunks : List (List Record)) (replies : List Reply) :
    List Record :=
  (List.zipWith (fun chunk reply => List.zipWith (addedRow consumer) chunk reply.rows)
    chunks replies).flatten

section Chunk

variable {chunk : List Record} {session : Session (σ × List Statement)} {reply : Reply}
  {fault : Error} {after : σ}

private theorem run_addChunk_failed (hquery : client.query ((e.adding consumer).statement chunk)
      session.client.1 = (.error fault, after)) :
    ∃ log, (e.addChunk client.recorded consumer chunk).run session =
      (.error (.backend fault),
        ⟨(after, session.client.2 ++ [(e.adding consumer).statement chunk]), log⟩) := by
  obtain ⟨log, hexecute⟩ :=
    Statement.run_execute_error e.options.trace session (Client.query_recorded hquery)
  exact ⟨log, Action.run_bind_error hexecute⟩

private theorem run_addChunk_replied (hquery : client.query ((e.adding consumer).statement chunk)
      session.client.1 = (.ok reply, after)) :
    ∃ log, (e.addChunk client.recorded consumer chunk).run session =
      (if reply.rows.length = chunk.length then
          .ok (List.zipWith (addedRow consumer) chunk reply.rows)
        else .error (.other (.idCount e.table reply.rows.length chunk.length)),
        ⟨(after, session.client.2 ++ [(e.adding consumer).statement chunk]), log⟩) := by
  obtain ⟨log, hexecute⟩ :=
    Statement.run_execute_ok e.options.trace session (Client.query_recorded hquery)
  refine ⟨log, (Action.run_bind_ok hexecute).trans ?_⟩
  rw [Response.ofReply]
  split <;> rfl

private theorem run_updateChunk_failed (h : ¬ (e.assignedColumns chunk consumer).isEmpty)
    (hquery : client.query ((e.updating consumer).statement chunk) session.client.1 =
      (.error fault, after)) :
    ∃ log, (e.updateChunk client.recorded consumer chunk).run session =
      (.error (.backend fault),
        ⟨(after, session.client.2 ++ [(e.updating consumer).statement chunk]), log⟩) := by
  obtain ⟨log, hexecute⟩ :=
    Statement.run_execute_error e.options.trace session (Client.query_recorded hquery)
  rw [updateChunk, if_neg h]
  exact ⟨log, Action.run_bind_error hexecute⟩

private theorem run_updateChunk_replied (h : ¬ (e.assignedColumns chunk consumer).isEmpty)
    (hquery : client.query ((e.updating consumer).statement chunk) session.client.1 =
      (.ok reply, after)) :
    ∃ log, (e.updateChunk client.recorded consumer chunk).run session =
      (.ok (reported reply),
        ⟨(after, session.client.2 ++ [(e.updating consumer).statement chunk]), log⟩) := by
  obtain ⟨log, hexecute⟩ :=
    Statement.run_execute_ok e.options.trace session (Client.query_recorded hquery)
  rw [updateChunk, if_neg h]
  exact ⟨log, Action.run_bind_ok hexecute⟩

end Chunk

theorem run_addChunks_recorded (chunks : List (List Record))
    (session : Session (σ × List Statement)) :
    let course := (e.adding consumer).course client chunks session.client.1
    ∃ log, (e.addChunks client.recorded consumer chunks).run session =
      (course.outcome.map (addedRows consumer chunks),
        ⟨(course.after, session.client.2 ++ course.sent), log⟩) := by
  induction chunks generalizing session with
  | nil => exact ⟨session.log, by simp [addChunks, Writing.course, Except.map, addedRows]⟩
  | cons chunk rest ih =>
    have hrefusal : (e.adding consumer).refusal chunk = none := rfl
    rcases hquery : client.query ((e.adding consumer).statement chunk) session.client.1 with
      ⟨fault | reply, after⟩
    · obtain ⟨log, hchunk⟩ := e.run_addChunk_failed client consumer hquery
      rw [Writing.course_failed hrefusal hquery]
      exact ⟨log, Action.run_bind_error hchunk⟩
    · obtain ⟨log, hchunk⟩ := e.run_addChunk_replied client consumer hquery
      by_cases hlength : reply.rows.length = chunk.length
      · rw [if_pos hlength] at hchunk
        obtain ⟨log, hothers⟩ :=
          ih ⟨(after, session.client.2 ++ [(e.adding consumer).statement chunk]), log⟩
        simp only [List.append_assoc, List.singleton_append] at hothers
        rw [Writing.course_sent hrefusal hquery (if_pos hlength), addChunks,
          Action.run_bind_ok hchunk]
        refine ⟨log, ?_⟩
        cases houtcome : ((e.adding consumer).course client rest after).outcome with
        | error error =>
          rw [houtcome] at hothers
          rw [Action.run_bind_error hothers]
          rfl
        | ok replies =>
          rw [houtcome] at hothers
          rw [Action.run_bind_ok hothers]
          rfl
      · rw [if_neg hlength] at hchunk
        rw [Writing.course_rejected hrefusal hquery (if_neg hlength)]
        exact ⟨log, Action.run_bind_error hchunk⟩

/-- The sum of the numbers of rows that replies report, as the running count holds it. -/
def countFrom (count : UInt64) (replies : List Reply) : UInt64 :=
  replies.foldl (fun count reply => count + reported reply) count

theorem run_updateChunks_recorded (chunks : List (List Record)) (count : UInt64)
    (session : Session (σ × List Statement)) :
    let course := (e.updating consumer).course client chunks session.client.1
    ∃ log, (e.updateChunks client.recorded consumer count chunks).run session =
      (course.outcome.map (countFrom count),
        ⟨(course.after, session.client.2 ++ course.sent), log⟩) := by
  induction chunks generalizing count session with
  | nil => exact ⟨session.log, by simp [updateChunks, Writing.course, Except.map, countFrom]⟩
  | cons chunk rest ih =>
    by_cases hassigned : (e.assignedColumns chunk consumer).isEmpty
    · rw [Writing.course_refused (if_pos hassigned)]
      refine ⟨session.log, ?_⟩
      dsimp only
      rw [List.append_nil]
      exact Action.run_bind_error
        (e.run_updateChunk_refused client.recorded consumer hassigned session)
    · have hrefusal : (e.updating consumer).refusal chunk = none := if_neg hassigned
      rcases hquery : client.query ((e.updating consumer).statement chunk) session.client.1 with
        ⟨fault | reply, after⟩
      · obtain ⟨log, hchunk⟩ := e.run_updateChunk_failed client consumer hassigned hquery
        rw [Writing.course_failed hrefusal hquery]
        exact ⟨log, Action.run_bind_error hchunk⟩
      · obtain ⟨log, hchunk⟩ := e.run_updateChunk_replied client consumer hassigned hquery
        obtain ⟨log, hothers⟩ := ih (count + reported reply)
          ⟨(after, session.client.2 ++ [(e.updating consumer).statement chunk]), log⟩
        simp only [List.append_assoc, List.singleton_append] at hothers
        rw [Writing.course_sent hrefusal hquery rfl, updateChunks, Action.run_bind_ok hchunk]
        refine ⟨log, hothers.trans ?_⟩
        cases ((e.updating consumer).course client rest after).outcome with
        | error error => rfl
        | ok replies => rfl

theorem toNat_countFrom (count : UInt64) (replies : List Reply) :
    (countFrom count replies).toNat =
      (count.toNat + (replies.map fun reply => (reported reply).toNat).sum) % 2 ^ 64 := by
  induction replies generalizing count with
  | nil => exact (Nat.mod_eq_of_lt count.toNat_lt).symm
  | cons reply rest ih =>
    rw [countFrom, List.foldl_cons, ← countFrom, ih, UInt64.toNat_add, List.map_cons, List.sum_cons,
      Nat.mod_add_mod, Nat.add_assoc]

theorem run_add_recorded (rows : List Record) (session : Session (σ × List Statement)) :
    let course := (e.adding consumer).course client (e.chunksOf rows) session.client.1
    ∃ log, (e.add client.recorded rows consumer).run session =
      (course.outcome.map (addedRows consumer (e.chunksOf rows)),
        ⟨(course.after, session.client.2 ++ course.sent), log⟩) := by
  rw [add, Action.run_bind_ok (Action.run_log _ _)]
  exact e.run_addChunks_recorded client consumer _ ⟨session.client, _⟩

theorem run_update_recorded (rows : List Record) (session : Session (σ × List Statement)) :
    let course := (e.updating consumer).course client (e.chunksOf rows) session.client.1
    ∃ log, (e.update client.recorded rows consumer).run session =
      (course.outcome.map (countFrom 0),
        ⟨(course.after, session.client.2 ++ course.sent), log⟩) := by
  rw [update, Action.run_bind_ok (Action.run_log _ _)]
  exact e.run_updateChunks_recorded client consumer _ _ ⟨session.client, _⟩

variable {e client consumer}

theorem exists_replies_of_counted {chunks : List (List Record)} {state : σ} {total : UInt64}
    (h : ((e.updating consumer).course client chunks state).outcome.map (countFrom 0) =
      .ok total) :
    ∃ replies : List Reply,
      client.answers (chunks.map (e.updating consumer).statement) state = replies.map .ok ∧
      ((replies.map fun reply => (reported reply).toNat).sum < 2 ^ 64 →
        total.toNat = (replies.map fun reply => (reported reply).toNat).sum) := by
  cases hcourse : ((e.updating consumer).course client chunks state).outcome with
  | error error =>
    rw [hcourse] at h
    cases h
  | ok replies =>
    rw [hcourse] at h
    obtain rfl := Except.ok.inj h
    obtain ⟨-, -, hanswers⟩ := Writing.course_ok hcourse
    refine ⟨replies, hanswers, fun hfits => ?_⟩
    rw [toNat_countFrom, UInt64.toNat_zero, Nat.zero_add]
    exact Nat.mod_eq_of_lt hfits

end Runs

section Archive

variable {e : Entity}

def archivedRows (rows : List Record) : List Record :=
  rows.map (·.insert archivedColumn (.bool true))

def Archivable (e : Entity) : Prop :=
  ∃ p ∈ e.properties, p.key = archivedColumn ∧ p.allows .update

theorem archivedColumn_mem_keys_iff :
    e.registry.update.keys.contains archivedColumn ↔ e.Archivable := by
  rw [List.contains_iff_mem]
  exact Registry.mem_keys_ofProperties (o := .update) Operation.noConfusion

theorem run_archive_of_not_archivable (h : ¬ e.Archivable) (client : Client σ)
    (consumer : Option Consumer) (rows : List Record) (session : Session σ) :
    ∃ log, (e.archive client rows consumer).run session =
      (.error (.validation (.notArchivable e.name)), ⟨session.client, log⟩) := by
  have hkeys : (!e.registry.update.keys.contains archivedColumn) = true := by
    rw [Bool.not_eq_true', ← Bool.not_eq_true, archivedColumn_mem_keys_iff]
    exact h
  rw [archive, Action.run_bind_ok (Action.run_log _ _), if_pos hkeys]
  exact ⟨_, rfl⟩

theorem run_archive_of_archivable (h : e.Archivable) (client : Client σ)
    (consumer : Option Consumer) (rows : List Record) (session : Session (σ × List Statement)) :
    let course := (e.updating consumer).course client (e.chunksOf (archivedRows rows))
      session.client.1
    ∃ log, (e.archive client.recorded rows consumer).run session =
      (course.outcome.map (countFrom 0),
        ⟨(course.after, session.client.2 ++ course.sent), log⟩) := by
  have hkeys : ¬ (!e.registry.update.keys.contains archivedColumn) = true := by
    rw [archivedColumn_mem_keys_iff.mpr h]
    decide
  rw [archive, Action.run_bind_ok (Action.run_log _ _), if_neg hkeys]
  exact e.run_updateChunks_recorded client consumer _ _ ⟨session.client, _⟩

/-- The column is assigned whenever rows are archived. -/
theorem refusal_archivedRows (h : e.Archivable) (consumer : Option Consumer) (rows : List Record)
    {chunk : List Record} (hchunk : chunk ∈ e.chunksOf (archivedRows rows)) :
    (e.updating consumer).refusal chunk = none := by
  obtain ⟨row, rest, rfl⟩ := List.exists_cons_of_ne_nil (ne_nil_of_mem_chunks hchunk)
  have hrow : row ∈ archivedRows rows := by
    rw [← flatten_chunks e.options.chunkSize.toNat (archivedRows rows)]
    exact List.mem_flatten_of_mem hchunk List.mem_cons_self
  obtain ⟨original, -, rfl⟩ := List.mem_map.mp hrow
  have hcolumn : Sql.Column.named archivedColumn ∈
      e.assignedColumns (original.insert archivedColumn (.bool true) :: rest) consumer := by
    refine List.mem_append_left _ (List.mem_filter.mpr ⟨?_, ?_⟩)
    · exact List.mem_map_of_mem (List.contains_iff_mem.mp (archivedColumn_mem_keys_iff.mpr h))
    · exact congrArg Option.isSome (Record.get?_insert_self original archivedColumn _)
  exact if_neg fun hempty => List.ne_nil_of_mem hcolumn (List.isEmpty_iff.mp hempty)

private theorem eq_backend_of_stop? {consumer : Option Consumer} {chunk : List Record}
    {answer : Except Error Reply} {error : Error}
    (hrefusal : (e.updating consumer).refusal chunk = none)
    (hstop : (e.updating consumer).stop? chunk answer = some error) :
    ∃ fault, error = .backend fault := by
  cases answer with
  | error fault =>
    simp only [Writing.stop?, hrefusal] at hstop
    exact ⟨fault, (Option.some.inj hstop).symm⟩
  | ok reply =>
    simp only [Writing.stop?, hrefusal] at hstop
    cases hstop

private theorem archivedRows_not_invalid (h : e.Archivable) (client : Client σ)
    (consumer : Option Consumer) (rows : List Record) (state : σ) (invalid : Invalid) :
    ((e.updating consumer).course client (e.chunksOf (archivedRows rows)) state).outcome.map
      (countFrom 0) ≠ .error (.validation invalid) := by
  intro hcounted
  cases hcourse : ((e.updating consumer).course client (e.chunksOf (archivedRows rows))
    state).outcome with
  | ok replies =>
    rw [hcourse] at hcounted
    cases hcounted
  | error error =>
    rw [hcourse] at hcounted
    obtain rfl := Except.error.inj hcounted
    obtain ⟨n, hstop, -, -⟩ := Writing.course_error hcourse
    obtain ⟨chunk, hchunk, hstop⟩ := Option.bind_eq_some_iff.mp hstop
    obtain ⟨answer, -, hstop⟩ := Option.bind_eq_some_iff.mp hstop
    have hrefusal := refusal_archivedRows h consumer rows (List.mem_of_getElem? hchunk)
    obtain ⟨fault, hfault⟩ := eq_backend_of_stop? hrefusal hstop
    cases hfault

/-- To archive rows is to update them with the column set. -/
theorem archive_eq_update (h : e.Archivable) (client : Client σ) (consumer : Option Consumer)
    (rows : List Record) (session : Session (σ × List Statement)) :
    let archived := (e.archive client.recorded rows consumer).run session
    let updated := (e.update client.recorded (archivedRows rows) consumer).run session
    archived.1 = updated.1 ∧ archived.2.client = updated.2.client ∧
      ∀ invalid, archived.1 ≠ .error (.validation invalid) := by
  intro archived updated
  obtain ⟨log, harchived⟩ := run_archive_of_archivable h client consumer rows session
  obtain ⟨log', hupdated⟩ := e.run_update_recorded client consumer (archivedRows rows) session
  unfold archived updated
  rw [harchived, hupdated]
  exact ⟨rfl, rfl, archivedRows_not_invalid h client consumer rows session.client.1⟩

end Archive

/-- Rows are written in blocks of the size of a chunk, one statement each and in order, until one
stops the operation; an update then counts the rows that the replies report. Archiving is such an
update, where a property of the column may be updated. -/
theorem rows_are_written_in_blocks (e : Entity) (client : Client σ) (rows : List Record)
    (consumer : Option Consumer) (session : Session (σ × List Statement)) :
    let size := e.options.chunkSize.toNat
    let blocks := (List.range ((rows.length + size - 1) / size)).map fun i =>
      (rows.drop (i * size)).take size
    let added := (e.add client.recorded rows consumer).run session
    let updated := (e.update client.recorded rows consumer).run session
    let archived := (e.archive client.recorded rows consumer).run session
    let updatedAsArchived := (e.update client.recorded
      (rows.map (·.insert "archived" (.bool true))) consumer).run session
    blocks.flatten = rows ∧
    (e.adding consumer).Writes client blocks session.client added.1 added.2.client ∧
    (e.updating consumer).Writes client blocks session.client updated.1 updated.2.client ∧
    (∀ total, updated.1 = .ok total → ∃ replies : List Reply,
      client.answers (blocks.map fun block => e.updateStatement block consumer) session.client.1 =
        replies.map .ok ∧
      let count := (replies.map fun reply =>
        (reply.affected.getD (UInt64.ofNat reply.rows.length)).toNat).sum
      count < 2 ^ 64 → total.toNat = count) ∧
    ((¬ ∃ p ∈ e.properties, p.key = "archived" ∧ p.allows .update) →
      (∃ invalid, archived.1 = .error (.validation invalid)) ∧
      archived.2.client = session.client) ∧
    ((∃ p ∈ e.properties, p.key = "archived" ∧ p.allows .update) →
      archived.1 = updatedAsArchived.1 ∧ archived.2.client = updatedAsArchived.2.client ∧
      ∀ invalid, archived.1 ≠ .error (.validation invalid)) := by
  intro size blocks added updated archived updatedAsArchived
  have hsize : 0 < size := Nat.pos_of_ne_zero fun hzero =>
    e.chunkSize_ne_zero (UInt64.toNat_inj.mp hzero)
  have hblocks : e.chunksOf rows = blocks := chunks_eq_map_range hsize rows
  obtain ⟨addLog, hadded⟩ := e.run_add_recorded client consumer rows session
  obtain ⟨updateLog, hupdated⟩ := e.run_update_recorded client consumer rows session
  rw [hblocks] at hadded hupdated
  refine ⟨hblocks ▸ flatten_chunks size rows, ?_, ?_, fun total htotal => ?_, fun h => ?_,
    fun h => ?_⟩
  · unfold added
    rw [hadded]
    exact Writing.writes_course _ client blocks session.client _
  · unfold updated
    rw [hupdated]
    exact Writing.writes_course _ client blocks session.client _
  · unfold updated at htotal
    rw [hupdated] at htotal
    exact exists_replies_of_counted htotal
  · obtain ⟨log, harchived⟩ := run_archive_of_not_archivable h client.recorded consumer rows session
    unfold archived
    rw [harchived]
    exact ⟨⟨_, rfl⟩, rfl⟩
  · exact archive_eq_update h client consumer rows session

end Entity

end TableSql
