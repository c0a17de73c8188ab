import TableSql.Client.Session
import TableSql.Entity.Basic
import TableSql.Entity.Chunks

/-! Operations: what an entity does with a client. Rows are written in chunks, one statement each;
the first chunk that fails ends the operation, and those before it stay written. -/

namespace TableSql.Entity

def startLine (e : Entity) (message : String) (fields : List (String × String)) : Log.Line :=
  ⟨.debug, .entity, message, ("entity", e.name) :: fields⟩

def requestFields (request : SelectRequest) : List (String × String) :=
  [ ("first", Decimal.numeral request.first.toNat),
    ("rows", inspectOption (fun n => Decimal.numeral n.toNat) request.rows),
    ("sort_field", inspectOption Text.quoted request.sortField),
    ("sort_order", request.sortOrder.text),
    ("pagination", inspectBool request.pagination),
    ("filters", request.filters.toJson.text) ]

def rowFields (rows : List Record) (consumer : Option Consumer) : List (String × String) :=
  [ ("rows", Decimal.numeral rows.length),
    ("consumer_id", inspectOption (fun c => Value.inspect c.id) consumer) ]

def execute (e : Entity) (client : Client σ) (statement : Statement) : Action σ Response :=
  statement.execute client e.options.trace

/-- The rows that a request asks for. No row at all is an error. -/
def get (e : Entity) (client : Client σ) (request : SelectRequest) : Action σ Response := do
  (e.rejectionLines request.filters).forM Action.log
  let request := { request with filters := e.clean request.filters }
  Action.log (e.startLine "get" (requestFields request))
  let response ← e.execute client (e.selectStatement request)
  if response.rows.isEmpty then throw (.notFound "Resource not found")
  return response.takeTotal

/-- A row as it was added: with the consumer and the id that the client returned. -/
def addedRow (consumer : Option Consumer) (row returned : Record) : Record :=
  (match consumer with
    | some c => c.stamp row
    | none => row).insert Sql.idColumn (returned.get Sql.idColumn)

/-- Adds one chunk; the client has to return one id for each row. -/
def addChunk (e : Entity) (client : Client σ) (consumer : Option Consumer)
    (rows : List Record) : Action σ (List Record) := do
  let response ← e.execute client
    (e.insertStatement rows consumer (some (Sql.returningClause Sql.idColumn)))
  if response.rows.length = rows.length then
    return List.zipWith (addedRow consumer) rows response.rows
  else throw (.other (.idCount e.table response.rows.length rows.length))

def addChunks (e : Entity) (client : Client σ) (consumer : Option Consumer) :
    List (List Record) → Action σ (List Record)
  | [] => return []
  | chunk :: rest => do
    let added ← e.addChunk client consumer chunk
    return added ++ (← e.addChunks client consumer rest)

def chunksOf (e : Entity) (rows : List Record) : List (List Record) :=
  chunks e.options.chunkSize.toNat rows

/-- Adds rows, and returns them with their ids. -/
def add (e : Entity) (client : Client σ) (rows : List Record) (consumer : Option Consumer) :
    Action σ (List Record) := do
  Action.log (e.startLine "add" (rowFields rows consumer))
  e.addChunks client consumer (e.chunksOf rows)

def assignedColumns (e : Entity) (rows : List Record) (consumer : Option Consumer) :
    List Sql.Column :=
  Statement.assignedColumns e.registry.update rows.head? consumer

/-- Changes one chunk; the result is the number of rows changed. -/
def updateChunk (e : Entity) (client : Client σ) (consumer : Option Consumer)
    (rows : List Record) : Action σ UInt64 := do
  if (e.assignedColumns rows consumer).isEmpty then
    throw (.validation (.nothingToUpdate e.name))
  let response ← e.execute client (e.updateStatement rows consumer)
  return response.rowCount

def updateChunks (e : Entity) (client : Client σ) (consumer : Option Consumer) :
    UInt64 → List (List Record) → Action σ UInt64
  | count, [] => return count
  | count, chunk :: rest => do
    let changed ← e.updateChunk client consumer chunk
    e.updateChunks client consumer (count + changed) rest

/-- Changes the rows that have the ids of the given ones. -/
def update (e : Entity) (client : Client σ) (rows : List Record) (consumer : Option Consumer) :
    Action σ UInt64 := do
  Action.log (e.startLine "update" (rowFields rows consumer))
  e.updateChunks client consumer 0 (e.chunksOf rows)

def archivedColumn : String := "archived"

/-- Archives rows: an update of that column, which the entity must be able to update. -/
def archive (e : Entity) (client : Client σ) (rows : List Record) (consumer : Option Consumer) :
    Action σ UInt64 := do
  Action.log (e.startLine "archive" (rowFields rows consumer))
  if !e.registry.update.keys.contains archivedColumn then
    throw (.validation (.notArchivable e.name))
  let rows := rows.map (·.insert archivedColumn (.bool true))
  e.updateChunks client consumer 0 (e.chunksOf rows)

/-- Removes rows by id; the result is the number of rows removed. -/
def deleteByIds (e : Entity) (client : Client σ) (ids : List Value) : Action σ UInt64 := do
  Action.log (e.startLine "delete" [("ids", Decimal.numeral ids.length)])
  return (← e.execute client (e.deleteByIdsStatement ids)).rowCount

def deleteArchived (e : Entity) (client : Client σ) (before : Value) : Action σ UInt64 := do
  Action.log (e.startLine "delete archived" [])
  return (← e.execute client (e.deleteArchivedStatement before)).rowCount

end TableSql.Entity
