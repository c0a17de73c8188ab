import TableSql.Client.Response
import TableSql.Entity.Options
import TableSql.Log
import TableSql.Text.Blank
import TableSql.Text.Excerpt

/-! Sessions: statements sent to a client one after another, and what is logged of them. -/

namespace TableSql

structure Session (σ : Type) where
  /-- The state of the client. -/
  client : σ
  log : List Log.Line

/-- A step that talks to a client and may fail. What was done before a failure stays done. -/
abbrev Action (σ α : Type) := ExceptT Error (StateM (Session σ)) α

namespace Action

def run (action : Action σ α) (session : Session σ) : Except Error α × Session σ :=
  StateT.run (ExceptT.run action) session

def log (line : Log.Line) : Action σ Unit :=
  modify fun session => { session with log := session.log ++ [line] }

def query (client : Client σ) (statement : Statement) : Action σ (Except Error Reply) :=
  modifyGet fun session =>
    let (answer, state) := client.query statement session.client
    (answer, { session with client := state })

end Action

namespace Statement

/-- The line before a statement is sent: its text on one line and not longer than wanted. -/
def sentLine (statement : Statement) (trace : TraceOptions) : Log.Line where
  level := .debug
  channel := .sql
  message := "execute"
  fields :=
    [ ("sql", Text.excerpt (trace.maxSqlLength.map UInt64.toNat) (Text.collapse statement.text)),
      ("args", statement.argsJson.text),
      ("param_count", Decimal.numeral statement.args.length) ]

end Statement

def Response.line (response : Response) : Log.Line where
  level := .debug
  channel := .sql
  message := "executed"
  fields :=
    [ ("row_count", Decimal.numeral response.rowCount.toNat),
      ("response", response.toJson.text) ]

/-- Sends a statement. Whatever the client answers but a reply is an error of the backend. -/
def Statement.execute (statement : Statement) (client : Client σ) (trace : TraceOptions) :
    Action σ Response := do
  Action.log (statement.sentLine trace)
  match ← Action.query client statement with
  | .error e => throw (.backend e)
  | .ok reply =>
    let response := Response.ofReply reply
    Action.log response.line
    return response

end TableSql
