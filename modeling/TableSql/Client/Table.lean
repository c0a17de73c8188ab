import TableSql.Client.Basic
import TableSql.Statement.Evaluation

/-! Clients that run the statements that write rows. -/

namespace TableSql.Client

/-- Runs an update on a table as its meaning says; any other statement changes nothing. -/
def updating (same : SameId) : Client (List Record) where
  query statement table :=
    match statement.command with
    | .update u =>
      let isId := statement.holdsId same
      let concerned := table.filter fun row => u.concerns (isId row)
      ( .ok ⟨[], some (UInt64.ofNat concerned.length), []⟩,
        table.map fun row => u.apply statement.arg (isId row) row )
    | _ => (.ok .empty, table)

/-- Runs a step for each row in order; the first that fails ends it. -/
def eachRow (step : List Value → σ → Except Error Record × σ) :
    List (List Value) → σ → Except Error (List Record) × σ
  | [], state => (.ok [], state)
  | values :: rest, state =>
    match step values state with
    | (.error e, state) => (.error e, state)
    | (.ok returned, state) =>
      let (others, state) := eachRow step rest state
      (others.map (returned :: ·), state)

/-- Runs an insertion row by row with a step for the rows of given columns; any other statement
changes nothing. -/
def inserting (step : String → List String → List Value → σ → Except Error Record × σ) :
    Client σ where
  query statement state :=
    match statement.command with
    | .insert i =>
      let (answer, state) := eachRow (step i.table i.columns) (i.values statement.arg) state
      (answer.map fun rows => ⟨rows, none, []⟩, state)
    | _ => (.ok .empty, state)

end TableSql.Client
