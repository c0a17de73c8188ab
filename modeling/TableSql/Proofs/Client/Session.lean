import TableSql.Client.Session

/-! Actions on a session step by step, and what sending a statement does to the client. -/

namespace TableSql

variable {σ α β : Type}

namespace Action

@[simp] theorem run_pure (a : α) (session : Session σ) :
    (pure a : Action σ α).run session = (.ok a, session) := rfl

@[simp] theorem run_throw (e : Error) (session : Session σ) :
    (throw e : Action σ α).run session = (.error e, session) := rfl

@[simp] theorem run_log (line : Log.Line) (session : Session σ) :
    (log line).run session = (.ok (), { session with log := session.log ++ [line] }) := rfl

@[simp] theorem run_query (client : Client σ) (statement : Statement) (session : Session σ) :
    (query client statement).run session =
      (.ok (client.query statement session.client).1,
        { session with client := (client.query statement session.client).2 }) := rfl

/-- What follows a step runs on the session that the step leaves, and not after a failure. -/
theorem run_bind (action : Action σ α) (next : α → Action σ β) (session : Session σ) :
    (action >>= next).run session =
      match action.run session with
      | (.ok a, after) => (next a).run after
      | (.error e, after) => (.error e, after) := by
  have hbind : (action >>= next).run session =
      ExceptT.bindCont next (action.run session).1 (action.run session).2 := rfl
  rw [hbind]
  rcases action.run session with ⟨outcome, after⟩
  cases outcome with
  | ok a => rfl
  | error e => rfl

theorem run_bind_ok {action : Action σ α} {next : α → Action σ β} {session after : Session σ}
    {a : α} (h : action.run session = (.ok a, after)) :
    (action >>= next).run session = (next a).run after := by
  rw [run_bind, h]

theorem run_bind_error {action : Action σ α} {next : α → Action σ β}
    {session after : Session σ} {e : Error} (h : action.run session = (.error e, after)) :
    (action >>= next).run session = (.error e, after) := by
  rw [run_bind, h]

theorem run_forM_log (lines : List Log.Line) (session : Session σ) :
    (lines.forM log).run session = (.ok (), { session with log := session.log ++ lines }) := by
  induction lines generalizing session with
  | nil => simp
  | cons line rest ih =>
    rw [List.forM, run_bind_ok (run_log line session), ih, List.append_assoc,
      List.singleton_append]

end Action

namespace Statement

/-- A statement is sent once; a reply is the outcome, whatever is logged. -/
theorem run_execute_ok {statement : Statement} {client : Client σ} {reply : Reply} {state : σ}
    (trace : TraceOptions) (session : Session σ)
    (h : client.query statement session.client = (.ok reply, state)) :
    ∃ log, (statement.execute client trace).run session = (.ok (.ofReply reply), ⟨state, log⟩) := by
  have hquery := Action.run_query client statement
    { session with log := session.log ++ [statement.sentLine trace] }
  rw [h] at hquery
  rw [execute, Action.run_bind_ok (Action.run_log _ _), Action.run_bind_ok hquery]
  exact ⟨_, rfl⟩

theorem run_execute_error {statement : Statement} {client : Client σ} {e : Error} {state : σ}
    (trace : TraceOptions) (session : Session σ)
    (h : client.query statement session.client = (.error e, state)) :
    ∃ log, (statement.execute client trace).run session = (.error (.backend e), ⟨state, log⟩) := by
  have hquery := Action.run_query client statement
    { session with log := session.log ++ [statement.sentLine trace] }
  rw [h] at hquery
  rw [execute, Action.run_bind_ok (Action.run_log _ _), Action.run_bind_ok hquery]
  exact ⟨_, rfl⟩

end Statement

end TableSql
