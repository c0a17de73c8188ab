/-! Identifiers of SQL: a name that case folding or a reserved word would change is written between
double quotes, with each quote inside it doubled. -/

namespace TableSql.Sql.Identifier

/-- The words that cannot stand bare as the name of a column or a table, sorted. -/
def reservedWords : List String :=
  ["all", "analyse", "analyze", "and", "any", "array", "as", "asc", "asymmetric",
   "authorization", "between", "binary", "both", "case", "cast", "check", "collate", "column",
   "constraint", "create", "cross", "current_catalog", "current_date", "current_role",
   "current_schema", "current_time", "current_timestamp", "current_user", "default",
   "deferrable", "desc", "distinct", "do", "else", "end", "except", "false", "fetch", "for",
   "foreign", "from", "full", "grant", "group", "having", "ilike", "in", "initially", "inner",
   "intersect", "into", "is", "isnull", "join", "lateral", "leading", "left", "like", "limit",
   "localtime", "localtimestamp", "natural", "not", "notnull", "null", "offset", "on", "only",
   "or", "order", "outer", "overlaps", "placing", "primary", "references", "returning", "right",
   "select", "session_user", "similar", "some", "symmetric", "table", "tablesample", "then",
   "to", "trailing", "true", "union", "unique", "user", "using", "variadic", "verbose", "when",
   "where", "window", "with"]

/-- The upper-case letters of ASCII become lower-case. -/
def fold (name : String) : String := String.ofList (name.toList.map Char.toLower)

/-- Whether a name is a reserved word, in any case. -/
def isReserved (name : String) : Bool := reservedWords.contains (fold name)

def needsQuotes (name : String) : Bool := name.toList.any Char.isUpper || isReserved name

def doubleQuotes : List Char → List Char
  | [] => []
  | c :: rest => if c = '"' then '"' :: '"' :: doubleQuotes rest else c :: doubleQuotes rest

def quoted (name : String) : String := String.ofList ('"' :: doubleQuotes name.toList ++ ['"'])

def quote (name : String) : String := if needsQuotes name then quoted name else name

/-- Reads the inside of a quoted identifier: the name up to the first quote that stands alone, and
what follows that quote. -/
def readInside? : List Char → Option (List Char × List Char)
  | [] => none
  | '"' :: '"' :: rest => (readInside? rest).map fun (name, after) => ('"' :: name, after)
  | '"' :: rest => some ([], rest)
  | c :: rest => (readInside? rest).map fun (name, after) => (c :: name, after)

end TableSql.Sql.Identifier
