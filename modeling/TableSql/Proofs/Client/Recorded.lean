import TableSql.Proofs.Client.Session

/-! Recorded clients: an action that is built of the same steps does with a recorded client what it
does with the client alone. -/

namespace TableSql

variable {σ α β : Type}

def Session.unrecorded (session : Session (σ × List Statement)) : Session σ :=
  ⟨session.client.1, session.log⟩

namespace Action

/-- An action with a recorded client has the outcome of another with the client alone, and leaves
the client and the log as that does. -/
def Records (recording : Action (σ × List Statement) α) (action : Action σ α) : Prop :=
  ∀ session, action.run session.unrecorded =
    ((recording.run session).1, (recording.run session).2.unrecorded)

theorem records_pure (a : α) : Records (σ := σ) (pure a) (pure a) := fun _ => rfl

theorem records_throw (error : Error) : Records (σ := σ) (α := α) (throw error) (throw error) :=
  fun _ => rfl

theorem records_log (line : Log.Line) : Records (σ := σ) (log line) (log line) := fun _ => rfl

theorem records_query (client : Client σ) (statement : Statement) :
    Records (query client.recorded statement) (query client statement) := fun _ => rfl

theorem Records.bind {recording : Action (σ × List Statement) α} {action : Action σ α}
    {nextRecording : α → Action (σ × List Statement) β} {next : α → Action σ β}
    (h : Records recording action) (hnext : ∀ a, Records (nextRecording a) (next a)) :
    Records (recording >>= nextRecording) (action >>= next) := by
  intro session
  rw [run_bind, run_bind, h session]
  rcases recording.run session with ⟨outcome, after⟩
  cases outcome with
  | ok a => exact hnext a after
  | error error => rfl

theorem Records.ite {condition : Prop} [Decidable condition]
    {recording recording' : Action (σ × List Statement) α} {action action' : Action σ α}
    (h : Records recording action) (h' : Records recording' action') :
    Records (if condition then recording else recording')
      (if condition then action else action') := by
  split
  · exact h
  · exact h'

theorem records_forM_log (lines : List Log.Line) :
    Records (σ := σ) (lines.forM log) (lines.forM log) := by
  intro session
  rw [run_forM_log, run_forM_log]
  rfl

end Action

open TableSql.Action

theorem Statement.records_execute (statement : Statement) (client : Client σ)
    (trace : TraceOptions) :
    Records (statement.execute client.recorded trace) (statement.execute client trace) := by
  refine (records_log _).bind fun _ => (records_query client statement).bind fun answer => ?_
  cases answer with
  | error fault => exact records_throw _
  | ok reply => exact (records_log _).bind fun _ => records_pure _

end TableSql
