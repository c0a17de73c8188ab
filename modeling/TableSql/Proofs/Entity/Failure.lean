import TableSql.Proofs.Client.Recorded
import TableSql.Proofs.Entity.Blocks
import TableSql.Proofs.Entity.Get

/-! How operations fail: with the error of the client, under one layer more, as soon as it answers
with one; and else for a reason of their own, each of which belongs to one operation. -/

namespace TableSql

variable {σ α β : Type}

namespace Error

/-- The error under all the layers that clients have put around it. -/
def cause : Error → Error
  | backend source => source.cause
  | error => error

theorem isUniqueViolation_iff (error : Error) :
    error.isUniqueViolation ↔ ∃ text, error.cause = .uniqueViolation text := by
  induction error with
  | backend source ih => exact ih
  | uniqueViolation text => exact iff_of_true rfl ⟨text, rfl⟩
  | _ => exact iff_of_false nofun nofun

end Error

/-- How an operation ends with the answers to what it sent. An error is the last answer, and is what
the operation fails with; otherwise it may fail for reasons of its own. -/
structure Ends (answers : List (Except Error Reply)) (own : Error → Prop)
    (outcome : Except Error α) : Prop where
  stopped : ∀ n fault, answers[n]? = some (.error fault) →
    n + 1 = answers.length ∧ outcome = .error (.backend fault)
  reason : ∀ error, outcome = .error error →
    (∃ fault, error = .backend fault ∧ answers.getLast? = some (.error fault)) ∨ own error

namespace Ends

variable {answers : List (Except Error Reply)} {own : Error → Prop} {outcome : Except Error α}
  {reply : Reply} {error fault : Error}

theorem unsent (h : ∀ error, outcome = .error error → own error) : Ends [] own outcome where
  stopped _ _ := nofun
  reason error herror := .inr (h error herror)

theorem failed : Ends [.error fault] own (.error (.backend fault) : Except Error α) where
  stopped n fault' hfault := by
    obtain ⟨hn, hget⟩ := List.getElem?_eq_some_iff.mp hfault
    obtain rfl : n = 0 := Nat.lt_one_iff.mp hn
    obtain rfl := Except.error.inj hget
    exact ⟨rfl, rfl⟩
  reason error herror := .inl ⟨fault, (Except.error.inj herror).symm, rfl⟩

theorem replied (h : ∀ error, outcome = .error error → own error) :
    Ends [.ok reply] own outcome where
  stopped n fault hfault := by
    obtain ⟨hn, hget⟩ := List.getElem?_eq_some_iff.mp hfault
    obtain rfl : n = 0 := Nat.lt_one_iff.mp hn
    cases hget
  reason error herror := .inr (h error herror)

theorem map (h : Ends answers own outcome) (f : α → β) : Ends answers own (outcome.map f) where
  stopped n fault hfault := by
    obtain ⟨hn, rfl⟩ := h.stopped n fault hfault
    exact ⟨hn, rfl⟩
  reason error herror := by
    cases outcome with
    | error error' => exact h.reason error (congrArg Except.error (Except.error.inj herror))
    | ok a => cases herror

theorem mono {own' : Error → Prop} (h : Ends answers own outcome)
    (hown : ∀ error, own error → own' error) : Ends answers own' outcome where
  stopped := h.stopped
  reason error herror := (h.reason error herror).imp_right (hown error)

theorem cons (h : Ends answers own outcome) (reply : Reply) :
    Ends (.ok reply :: answers) own outcome where
  stopped n fault hfault := by
    cases n with
    | zero => cases hfault
    | succ n =>
      obtain ⟨hn, houtcome⟩ := h.stopped n fault hfault
      exact ⟨congrArg Nat.succ hn, houtcome⟩
  reason error herror := by
    refine (h.reason error herror).imp_left ?_
    rintro ⟨fault, hfault, hlast⟩
    exact ⟨fault, hfault, by rw [List.getLast?_cons, hlast, Option.getD_some]⟩

end Ends

namespace Writing

/-- Why a writing fails where its client does not: it refuses the chunk behind those that were
answered, or rejects the reply to the last of them. -/
def OwnFailure (w : Writing) (chunks : List (List Record)) (answers : List (Except Error Reply))
    (error : Error) : Prop :=
  (∃ chunk, chunks[answers.length]? = some chunk ∧ w.refusal chunk = some error) ∨
  ∃ n chunk reply, n + 1 = answers.length ∧ chunks[n]? = some chunk ∧
    answers[n]? = some (.ok reply) ∧ w.rejection chunk reply = some error

theorem OwnFailure.cons {w : Writing} {chunks : List (List Record)}
    {answers : List (Except Error Reply)} {error : Error} (h : w.OwnFailure chunks answers error)
    (chunk : List Record) (answer : Except Error Reply) :
    w.OwnFailure (chunk :: chunks) (answer :: answers) error := by
  rcases h with ⟨refused, hchunk, hrefusal⟩ | ⟨n, rejected, reply, hn, hchunk, hreply, hrejection⟩
  · exact .inl ⟨refused, hchunk, hrefusal⟩
  · exact .inr ⟨n + 1, rejected, reply, congrArg Nat.succ hn, hchunk, hreply, hrejection⟩

theorem ends_course (w : Writing) (client : Client σ) (chunks : List (List Record)) (state : σ) :
    Ends (client.answers (w.course client chunks state).sent state)
      (w.OwnFailure chunks (client.answers (w.course client chunks state).sent state))
      (w.course client chunks state).outcome := by
  induction chunks generalizing state with
  | nil => exact .unsent nofun
  | cons chunk rest ih =>
    cases hrefusal : w.refusal chunk with
    | some error =>
      rw [course_refused hrefusal]
      refine .unsent fun error' herror => .inl ⟨chunk, rfl, ?_⟩
      rw [hrefusal, Except.error.inj herror]
    | none =>
      rcases hquery : client.query (w.statement chunk) state with ⟨fault | reply, after⟩
      · rw [course_failed hrefusal hquery]
        simp only [Client.answers, hquery]
        exact .failed
      · cases hrejection : w.rejection chunk reply with
        | some error =>
          rw [course_rejected hrefusal hquery hrejection]
          simp only [Client.answers, hquery]
          refine .replied fun error' herror => .inr ⟨0, chunk, reply, rfl, rfl, rfl, ?_⟩
          rw [hrejection, Except.error.inj herror]
        | none =>
          rw [course_sent hrefusal hquery hrejection]
          simp only [Client.answers, hquery]
          -- The other chunks end as they would alone, one place further on.
          refine Ends.map (.cons (.mono (ih after) fun error herror => ?_) reply) _
          exact herror.cons chunk _

end Writing

namespace Entity

inductive Call
  | get (request : SelectRequest)
  | add (rows : List Record) (consumer : Option Consumer)
  | update (rows : List Record) (consumer : Option Consumer)
  | archive (rows : List Record) (consumer : Option Consumer)
  | deleteByIds (ids : List Value)
  | deleteArchived (before : Value)

def perform (e : Entity) (client : Client σ) : Call → Action σ Unit
  | .get request => do let _ ← e.get client request; return
  | .add rows consumer => do let _ ← e.add client rows consumer; return
  | .update rows consumer => do let _ ← e.update client rows consumer; return
  | .archive rows consumer => do let _ ← e.archive client rows consumer; return
  | .deleteByIds ids => do let _ ← e.deleteByIds client ids; return
  | .deleteArchived before => do let _ ← e.deleteArchived client before; return

section Recorded

open TableSql.Action

variable (e : Entity) (client : Client σ) (consumer : Option Consumer)

theorem records_execute (statement : Statement) :
    Records (e.execute client.recorded statement) (e.execute client statement) :=
  statement.records_execute client e.options.trace

private theorem records_get (request : SelectRequest) :
    Records (e.get client.recorded request) (e.get client request) := by
  refine (records_forM_log _).bind fun _ => (records_log _).bind fun _ => ?_
  refine (e.records_execute client _).bind fun response => ?_
  exact .ite ((records_throw _).bind fun _ => records_pure _) (records_pure _)

private theorem records_addChunks (chunks : List (List Record)) :
    Records (e.addChunks client.recorded consumer chunks)
      (e.addChunks client consumer chunks) := by
  induction chunks with
  | nil => exact records_pure _
  | cons chunk rest ih =>
    refine .bind ?_ fun added => ih.bind fun others => records_pure _
    exact (e.records_execute client _).bind fun response =>
      .ite (records_pure _) (records_throw _)

theorem records_updateChunks (count : UInt64) (chunks : List (List Record)) :
    Records (e.updateChunks client.recorded consumer count chunks)
      (e.updateChunks client consumer count chunks) := by
  induction chunks generalizing count with
  | nil => exact records_pure _
  | cons chunk rest ih =>
    refine .bind ?_ fun changed => ih (count + changed)
    have hsent : Records
        (do return (← e.execute client.recorded (e.updateStatement chunk consumer)).rowCount)
        (do return (← e.execute client (e.updateStatement chunk consumer)).rowCount) :=
      (e.records_execute client _).bind fun response => records_pure _
    exact .ite ((records_throw _).bind fun _ => hsent) hsent

theorem records_perform (call : Call) :
    Records (e.perform client.recorded call) (e.perform client call) := by
  cases call with
  | get request => exact (e.records_get client request).bind fun _ => records_pure _
  | add rows consumer =>
    refine .bind ((records_log _).bind fun _ => ?_) fun _ => records_pure _
    exact e.records_addChunks client consumer _
  | update rows consumer =>
    refine .bind ((records_log _).bind fun _ => ?_) fun _ => records_pure _
    exact e.records_updateChunks client consumer 0 _
  | archive rows consumer =>
    refine .bind ((records_log _).bind fun _ => ?_) fun _ => records_pure _
    have hupdated := e.records_updateChunks client consumer 0 (e.chunksOf (archivedRows rows))
    exact .ite ((records_throw _).bind fun _ => hupdated) hupdated
  | deleteByIds ids =>
    refine .bind ((records_log _).bind fun _ => ?_) fun _ => records_pure _
    exact (e.records_execute client _).bind fun response => records_pure _
  | deleteArchived before =>
    refine .bind ((records_log _).bind fun _ => ?_) fun _ => records_pure _
    exact (e.records_execute client _).bind fun response => records_pure _

end Recorded

/-- The failures of an operation that are not its client's. -/
inductive OwnFailure (e : Entity) (answers : List (Except Error Reply)) : Call → Error → Prop
  | noRows {request : SelectRequest} {reply : Reply} (hanswers : answers = [.ok reply])
      (hrows : reply.rows = []) :
      OwnFailure e answers (.get request) (.notFound "Resource not found")
  | idCount {rows chunk : List Record} {consumer : Option Consumer} {n : Nat} {reply : Reply}
      (hlast : n + 1 = answers.length) (hchunk : (e.chunksOf rows)[n]? = some chunk)
      (hreply : answers[n]? = some (.ok reply)) (hlength : reply.rows.length ≠ chunk.length) :
      OwnFailure e answers (.add rows consumer)
        (.other (.idCount e.table reply.rows.length chunk.length))
  | nothingToUpdate {rows chunk : List Record} {consumer : Option Consumer}
      (hchunk : (e.chunksOf rows)[answers.length]? = some chunk)
      (hassigned : e.assignedColumns chunk consumer = []) :
      OwnFailure e answers (.update rows consumer) (.validation (.nothingToUpdate e.name))
  | notArchivable {rows : List Record} {consumer : Option Consumer} (hanswers : answers = [])
      (h : ¬ e.Archivable) :
      OwnFailure e answers (.archive rows consumer) (.validation (.notArchivable e.name))

/-- What an operation sends to a recorded client, and how it ends with the answers to that. -/
def EndsAfter (client : Client σ) (own : List (Except Error Reply) → Error → Prop)
    (session : Session (σ × List Statement))
    (performed : Except Error α × Session (σ × List Statement)) : Prop :=
  ∃ sent, performed.2.client.2 = session.client.2 ++ sent ∧
    Ends (client.answers sent session.client.1) (own (client.answers sent session.client.1))
      performed.1

section EndsAfter

variable {client : Client σ} {own : List (Except Error Reply) → Error → Prop}
  {session : Session (σ × List Statement)} {action : Action (σ × List Statement) α}

theorem EndsAfter.discarding (h : EndsAfter client own session (action.run session)) :
    EndsAfter client own session ((do let _ ← action; return : Action _ Unit).run session) := by
  obtain ⟨sent, hsent, hends⟩ := h
  have hrun : (do let _ ← action; return : Action _ Unit).run session =
      ((action.run session).1.map fun _ => (), (action.run session).2) := by
    rw [Action.run_bind]
    rcases action.run session with ⟨outcome, after⟩
    cases outcome <;> rfl
  rw [hrun]
  exact ⟨sent, hsent, hends.map _⟩

theorem endsAfter_statement {statement : Statement} {answer : Except Error Reply} {state : σ}
    {result : Reply → Except Error α} {log : List Log.Line}
    (hrun : action.run session =
      (match answer with
        | .error fault => .error (.backend fault)
        | .ok reply => result reply, ⟨(state, session.client.2 ++ [statement]), log⟩))
    (hquery : client.query statement session.client.1 = (answer, state))
    (hown : ∀ reply error, result reply = .error error → own [.ok reply] error) :
    EndsAfter client own session (action.run session) := by
  refine ⟨[statement], ?_⟩
  rw [Client.answers_singleton hquery, hrun]
  cases answer with
  | error fault => exact ⟨rfl, .failed⟩
  | ok reply => exact ⟨rfl, .replied (hown reply)⟩

theorem endsAfter_course {w : Writing} {chunks : List (List Record)} {result : List Reply → α}
    (hrun : let course := w.course client chunks session.client.1
      ∃ log, action.run session =
        (course.outcome.map result, ⟨(course.after, session.client.2 ++ course.sent), log⟩))
    (hown : ∀ answers error, w.OwnFailure chunks answers error → own answers error) :
    EndsAfter client own session (action.run session) := by
  obtain ⟨log, hrun⟩ := hrun
  rw [hrun]
  exact ⟨_, rfl, ((w.ends_course client chunks session.client.1).mono (hown _)).map result⟩

theorem endsAfter_count (e : Entity) (line : Log.Line) (statement : Statement) :
    EndsAfter client own session
      ((do
        Action.log line
        return (← e.execute client.recorded statement).rowCount : Action _ UInt64).run session) := by
  rcases hquery : client.query statement session.client.1 with ⟨answer, state⟩
  let logged : Session (σ × List Statement) := { session with log := session.log ++ [line] }
  obtain ⟨log, hrun⟩ : ∃ log, (do
      Action.log line
      return (← e.execute client.recorded statement).rowCount : Action _ UInt64).run session =
      (match answer with
        | .error fault => .error (.backend fault)
        | .ok reply => .ok (reported reply), ⟨(state, session.client.2 ++ [statement]), log⟩) := by
    rw [Action.run_bind_ok (Action.run_log _ _), execute]
    cases answer with
    | error fault =>
      obtain ⟨log, hexecute⟩ :=
        Statement.run_execute_error e.options.trace logged (Client.query_recorded hquery)
      exact ⟨log, Action.run_bind_error hexecute⟩
    | ok reply =>
      obtain ⟨log, hexecute⟩ :=
        Statement.run_execute_ok e.options.trace logged (Client.query_recorded hquery)
      exact ⟨log, Action.run_bind_ok hexecute⟩
  exact endsAfter_statement hrun hquery fun _ _ => nofun

end EndsAfter

variable {e : Entity} {answers : List (Except Error Reply)} {rows : List Record}
  {consumer : Option Consumer} {error : Error}

private theorem OwnFailure.of_adding
    (h : (e.adding consumer).OwnFailure (e.chunksOf rows) answers error) :
    e.OwnFailure answers (.add rows consumer) error := by
  rcases h with ⟨chunk, -, hrefusal⟩ | ⟨n, chunk, reply, hn, hchunk, hreply, hrejection⟩
  · cases hrefusal
  · by_cases hlength : reply.rows.length = chunk.length
    · rw [show (e.adding consumer).rejection chunk reply = none from if_pos hlength] at hrejection
      cases hrejection
    · rw [show (e.adding consumer).rejection chunk reply = _ from if_neg hlength] at hrejection
      obtain rfl := Option.some.inj hrejection
      exact .idCount hn hchunk hreply hlength

private theorem exists_chunk_of_updating
    (h : (e.updating consumer).OwnFailure (e.chunksOf rows) answers error) :
    ∃ chunk, (e.chunksOf rows)[answers.length]? = some chunk ∧
      e.assignedColumns chunk consumer = [] ∧ error = .validation (.nothingToUpdate e.name) := by
  rcases h with ⟨chunk, hchunk, hrefusal⟩ | ⟨n, chunk, reply, -, -, -, hrejection⟩
  · refine ⟨chunk, hchunk, ?_⟩
    by_cases hassigned : (e.assignedColumns chunk consumer).isEmpty
    · rw [show (e.updating consumer).refusal chunk = _ from if_pos hassigned] at hrefusal
      exact ⟨List.isEmpty_iff.mp hassigned, (Option.some.inj hrefusal).symm⟩
    · rw [show (e.updating consumer).refusal chunk = none from if_neg hassigned] at hrefusal
      cases hrefusal
  · cases hrejection

private theorem OwnFailure.of_updating
    (h : (e.updating consumer).OwnFailure (e.chunksOf rows) answers error) :
    e.OwnFailure answers (.update rows consumer) error := by
  obtain ⟨chunk, hchunk, hassigned, rfl⟩ := exists_chunk_of_updating h
  exact .nothingToUpdate hchunk hassigned

private theorem not_ownFailure_of_archivable (harchivable : e.Archivable) :
    ¬ (e.updating consumer).OwnFailure (e.chunksOf (archivedRows rows)) answers error := by
  rintro (⟨chunk, hchunk, hrefusal⟩ | ⟨n, chunk, reply, -, -, -, hrejection⟩)
  · rw [refusal_archivedRows harchivable consumer rows (List.mem_of_getElem? hchunk)] at hrefusal
    cases hrefusal
  · cases hrejection

/-- Every operation ends as the answers to what it sent say, or for a reason of its own. -/
theorem endsAfter_perform (e : Entity) (client : Client σ) (call : Call)
    (session : Session (σ × List Statement)) :
    EndsAfter client (fun answers => e.OwnFailure answers call) session
      ((e.perform client.recorded call).run session) := by
  cases call with
  | get request =>
    refine .discarding ?_
    rcases hquery : client.query (e.selectStatement (e.cleaned request)) session.client.1 with
      ⟨answer, state⟩
    obtain ⟨log, hget⟩ := e.run_get (Client.query_recorded hquery)
    refine endsAfter_statement hget hquery fun reply error herror => ?_
    split at herror
    · next hrows =>
      obtain rfl := Except.error.inj herror
      exact .noRows rfl (List.isEmpty_iff.mp hrows)
    · cases herror
  | add rows consumer =>
    refine .discarding (endsAfter_course (e.run_add_recorded client consumer rows session) ?_)
    exact fun _ _ => .of_adding
  | update rows consumer =>
    refine .discarding (endsAfter_course (e.run_update_recorded client consumer rows session) ?_)
    exact fun _ _ => .of_updating
  | archive rows consumer =>
    refine .discarding ?_
    by_cases harchivable : e.Archivable
    · refine endsAfter_course
        (run_archive_of_archivable harchivable client consumer rows session) fun _ _ h => ?_
      exact absurd h (not_ownFailure_of_archivable harchivable)
    · obtain ⟨log, harchive⟩ :=
        run_archive_of_not_archivable harchivable client.recorded consumer rows session
      rw [harchive]
      refine ⟨[], (List.append_nil _).symm, .unsent fun error herror => ?_⟩
      obtain rfl := Except.error.inj herror
      exact .notArchivable rfl harchivable
  | deleteByIds ids => exact .discarding (e.endsAfter_count _ _)
  | deleteArchived before => exact .discarding (e.endsAfter_count _ _)

/-- A client is recorded to see what an operation sends, which changes nothing else. After an answer
that is an error nothing more is sent, and the operation fails with that error as its source: it is
the client's failure, never a missing row, and a violated unique constraint exactly where that is
the cause under all layers of the error. An operation that fails otherwise does so for a reason of
its own: no row was found, the ids are not as many as the rows added, or there is nothing to update
or to archive. -/
theorem failures_are_classified (e : Entity) (client : Client σ) (call : Call)
    (session : Session σ) :
    let performed := (e.perform client call).run session
    let recorded := (e.perform client.recorded call).run ⟨(session.client, []), session.log⟩
    let sent := recorded.2.client.2
    let answers := client.answers sent session.client
    performed = (recorded.1, recorded.2.unrecorded) ∧
    (∀ n fault, answers[n]? = some (.error fault) → n + 1 = sent.length ∧
      ∃ error, performed.1 = .error error ∧ error = .backend fault ∧ error.isBackend ∧
        ¬ error.isNotFound ∧ error.isUniqueViolation = fault.isUniqueViolation ∧
        (error.isUniqueViolation ↔ ∃ text, fault.cause = .uniqueViolation text)) ∧
    ∀ error, performed.1 = .error error →
      (∃ fault, error = .backend fault ∧ answers.getLast? = some (.error fault)) ∨
      e.OwnFailure answers call error := by
  intro performed recorded sent answers
  have hperformed : performed = (recorded.1, recorded.2.unrecorded) :=
    e.records_perform client call ⟨(session.client, []), session.log⟩
  obtain ⟨sent', hsent, hends⟩ :=
    e.endsAfter_perform client call ⟨(session.client, []), session.log⟩
  obtain rfl : sent = sent' := hsent
  have houtcome : performed.1 = recorded.1 := congrArg Prod.fst hperformed
  rw [houtcome]
  refine ⟨hperformed, fun n fault hfault => ?_, hends.reason⟩
  obtain ⟨hn, hfailed⟩ := hends.stopped n fault hfault
  rw [Client.length_answers] at hn
  exact ⟨hn, .backend fault, hfailed, rfl, rfl, Bool.false_ne_true, rfl,
    fault.isUniqueViolation_iff⟩

end Entity

end TableSql
