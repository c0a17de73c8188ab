import TableSql.Client.Error
import TableSql.Entity.Options
import TableSql.Entity.Registry
import TableSql.Entity.Stats
import TableSql.Filter.Check
import TableSql.Log
import TableSql.Statement.Delete
import TableSql.Statement.Insert
import TableSql.Statement.Select
import TableSql.Statement.Update
import TableSql.Text.Blank
import TableSql.Value.Inspect

/-! Entities: a table described by its properties, and the statements on it. -/

namespace TableSql

def isTableName (name : String) : Bool := name.toList.any fun c => !Text.isBlank c

structure Entity where
  name : String
  table : String
  properties : List Property
  options : EntityOptions
  isTableName_table : isTableName table
  chunkSize_ne_zero : options.chunkSize ≠ 0

namespace Entity

/-- The entity of a table of the same name. -/
def create (name : String) (properties : List Property) (options : EntityOptions) :
    Except Error Entity :=
  if hname : isTableName name then
    if hsize : options.chunkSize ≠ 0 then .ok ⟨name, name, properties, options, hname, hsize⟩
    else .error (.validation .zeroChunkSize)
  else .error (.validation .blankTable)

def setTable (e : Entity) (table : String) : Except Error Entity :=
  if h : isTableName table then .ok { e with table, isTableName_table := h }
  else .error (.validation .blankTable)

/-- The first property of a key. -/
def property? (e : Entity) (key : String) : Option Property :=
  e.properties.find? (·.key = key)

def registry (e : Entity) : Registry := .ofProperties e.properties

def columns (e : Entity) (o : Operation) : List String := e.registry.columns o

def stats (e : Entity) : Stats := .ofProperties e.name e.table e.properties

def summary (e : Entity) : String := e.stats.summary e.properties

def creationLines (e : Entity) : List Log.Line :=
  ⟨.info, .entity, "Creating SQLEntity", [("entity", e.name)]⟩
    :: if e.options.logSummary then
      [ ⟨.info, .entity, "Entity created successfully", [("entity", e.name)]⟩,
        ⟨.info, .entity, "Entity Summary:\n" ++ e.summary, []⟩ ]
    else []

/-- The filters that apply to the table. -/
def clean (e : Entity) (filters : Filters) : Filters := filters.clean e.property?

end Entity

/-- The line about a filter that is left out. -/
def Rejection.line (key : String) (r : Rejection) : Log.Line :=
  let line (what : String) (fields : List (String × String)) : Log.Line :=
    ⟨.warning, .entity, "Filters: skipping " ++ what, ("key", key) :: fields⟩
  match r with
  | .unknownProperty => line "unknown property" []
  | .unfilterableProperty => line "unfilterable property" []
  | .mismatchedMode mode kind =>
    line "invalid match mode"
      [ ("match_mode", inspectOption MatchMode.inspect mode), ("mapped_type", kind.name) ]

namespace Entity

def rejectionLines (e : Entity) (filters : Filters) : List Log.Line :=
  (filters.rejected e.property?).map fun (key, r) => r.line key

/-- The rows that a request asks for; its filters are taken as they are. -/
def selectStatement (e : Entity) (request : SelectRequest) : Statement :=
  .select e.registry.select e.table request

def insertStatement (e : Entity) (rows : List Record) (consumer : Option Consumer)
    (returning : Option String) : Statement :=
  .insert e.registry.insert e.table rows consumer returning

def updateStatement (e : Entity) (rows : List Record) (consumer : Option Consumer) : Statement :=
  .update e.registry.update e.table rows consumer

def deleteByIdsStatement (e : Entity) (ids : List Value) : Statement := .deleteByIds e.table ids

def deleteArchivedStatement (e : Entity) (before : Value) : Statement :=
  .deleteArchived e.table before

end Entity

end TableSql
