import TableSql.Client.Error
import TableSql.Statement.Basic

/-! Clients: whatever answers statements, with a state of its own. -/

namespace TableSql

/-- What a client answers to a statement that succeeds. -/
structure Reply where
  rows : List Record
  /-- The number of rows concerned, where the client knows it. -/
  affected : Option UInt64
  columns : List String
  deriving Repr

def Reply.empty : Reply := ⟨[], none, []⟩

structure Client (σ : Type) where
  query : Statement → σ → Except Error Reply × σ

namespace Client

/-- The same client, with the statements it was sent. -/
def recorded (client : Client σ) : Client (σ × List Statement) where
  query statement := fun (state, sent) =>
    let (answer, state) := client.query statement state
    (answer, state, sent ++ [statement])

/-- Answers from a list, one to each statement, and then with no rows. -/
def scripted : Client (List (Except Error Reply)) where
  query _
    | [] => (.ok .empty, [])
    | answer :: rest => (answer, rest)

end Client

/-- The client that a caller brings, which wins, or the one that all share. -/
inductive Connection (ε σ : Type)
  | external (client : Client ε)
  | shared (client : Client σ)

namespace Connection

def pick (external : Option (Client ε)) (shared : Client σ) : Connection ε σ :=
  match external with
  | some client => .external client
  | none => .shared shared

def isExternal : Connection ε σ → Bool
  | .external _ => true
  | .shared _ => false

/-- A connection as a client: the state of the other side is left as it is. -/
def client : Connection ε σ → Client (ε × σ)
  | .external c =>
    { query := fun statement (own, other) =>
        let (answer, own) := c.query statement own
        (answer, own, other) }
  | .shared c =>
    { query := fun statement (other, own) =>
        let (answer, own) := c.query statement own
        (answer, other, own) }

end Connection

end TableSql
