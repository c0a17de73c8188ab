/-! The types of Postgres, as far as values adapt to them: the scalar types with a form of their own,
arrays, enumerations, and all others. -/

namespace TableSql.Wire

/-- The built-in types with a form of their own. -/
inductive Scalar
  | bool
  | int2
  | int4
  | int8
  | oid
  | float4
  | float8
  | numeric
  | text
  | varchar
  | bpchar
  | name
  | unknown
  | timestamptz
  | timestamp
  | date
  | uuid
  | json
  | jsonb
  deriving DecidableEq, Repr

namespace Scalar

/-- Each type with its name and object identifier. -/
def table : List (Scalar × String × Nat) :=
  [(.bool, "bool", 16), (.int2, "int2", 21), (.int4, "int4", 23), (.int8, "int8", 20),
   (.oid, "oid", 26), (.float4, "float4", 700), (.float8, "float8", 701),
   (.numeric, "numeric", 1700), (.text, "text", 25), (.varchar, "varchar", 1043),
   (.bpchar, "bpchar", 1042), (.name, "name", 19), (.unknown, "unknown", 705),
   (.timestamptz, "timestamptz", 1184), (.timestamp, "timestamp", 1114), (.date, "date", 1082),
   (.uuid, "uuid", 2950), (.json, "json", 114), (.jsonb, "jsonb", 3802)]

def toString (s : Scalar) : String := ((table.lookup s).map Prod.fst).getD ""

def identifier (s : Scalar) : Nat := ((table.lookup s).map Prod.snd).getD 0

/-- The types that hold text of any length; numbers and truth values bind to them as text. -/
def isText : Scalar → Bool
  | .text | .varchar | .bpchar => true
  | _ => false

end Scalar

/-- A type's name, its schema and its object identifier. -/
structure TypeName where
  schema : String
  name : String
  oid : Nat
  deriving DecidableEq, Repr

def TypeName.builtIn (name : String) (oid : Nat) : TypeName := ⟨"pg_catalog", name, oid⟩

/-- The schema is shown only where a search would not find it. -/
def TypeName.text (t : TypeName) : String :=
  if t.schema = "public" ∨ t.schema = "pg_catalog" then t.name else t.schema ++ "." ++ t.name

inductive PgType
  | scalar (s : Scalar)
  /-- The index of an array's first element is 1, but for the vectors of the catalog. -/
  | array (name : TypeName) (firstIndex : Nat) (element : PgType)
  | enum (name : TypeName)
  | other (name : TypeName)
  deriving DecidableEq, Repr

namespace PgType

def typeName : PgType → TypeName
  | .scalar s => .builtIn s.toString s.identifier
  | .array name .. => name
  | .enum name => name
  | .other name => name

def text (t : PgType) : String := t.typeName.text

def oid (t : PgType) : Nat := t.typeName.oid

/-- Extension types with a text form that begins with a version byte. -/
def isVersioned (t : PgType) : Bool :=
  ["ltree", "lquery", "ltxtquery"].contains t.typeName.name

/-- The types that are read as text. -/
def isTextual : PgType → Bool
  | .scalar .text | .scalar .varchar | .scalar .bpchar | .scalar .name | .scalar .unknown => true
  | .scalar _ | .array .. => false
  | .enum _ => true
  | .other name => ["citext", "ltree", "lquery", "ltxtquery"].contains name.name

/-- Built-in types without a form of their own. -/
def otherTable : List (String × Nat) :=
  [("bytea", 17), ("char", 18), ("regproc", 24), ("tid", 27), ("xid", 28), ("cid", 29),
   ("pg_ddl_command", 32), ("xml", 142), ("pg_node_tree", 194), ("table_am_handler", 269),
   ("index_am_handler", 325), ("point", 600), ("lseg", 601), ("path", 602), ("box", 603),
   ("polygon", 604), ("line", 628), ("cidr", 650), ("circle", 718), ("macaddr8", 774),
   ("money", 790), ("macaddr", 829), ("inet", 869), ("aclitem", 1033), ("time", 1083),
   ("interval", 1186), ("timetz", 1266), ("bit", 1560), ("varbit", 1562), ("refcursor", 1790),
   ("regprocedure", 2202), ("regoper", 2203), ("regoperator", 2204), ("regclass", 2205),
   ("regtype", 2206), ("record", 2249), ("cstring", 2275), ("any", 2276), ("anyarray", 2277),
   ("void", 2278), ("trigger", 2279), ("language_handler", 2280), ("internal", 2281),
   ("anyelement", 2283), ("_record", 2287), ("anynonarray", 2776), ("txid_snapshot", 2970),
   ("fdw_handler", 3115), ("pg_lsn", 3220), ("tsm_handler", 3310), ("pg_ndistinct", 3361),
   ("pg_dependencies", 3402), ("anyenum", 3500), ("tsvector", 3614), ("tsquery", 3615),
   ("gtsvector", 3642), ("regconfig", 3734), ("regdictionary", 3769), ("anyrange", 3831),
   ("event_trigger", 3838), ("int4range", 3904), ("numrange", 3906), ("tsrange", 3908),
   ("tstzrange", 3910), ("daterange", 3912), ("int8range", 3926), ("jsonpath", 4072),
   ("regnamespace", 4089), ("regrole", 4096), ("regcollation", 4191), ("int4multirange", 4451),
   ("nummultirange", 4532), ("tsmultirange", 4533), ("tstzmultirange", 4534),
   ("datemultirange", 4535), ("int8multirange", 4536), ("anymultirange", 4537),
   ("anycompatiblemultirange", 4538), ("pg_brin_bloom_summary", 4600),
   ("pg_brin_minmax_multi_summary", 4601), ("pg_mcv_list", 5017), ("pg_snapshot", 5038),
   ("xid8", 5069), ("anycompatible", 5077), ("anycompatiblearray", 5078),
   ("anycompatiblenonarray", 5079), ("anycompatiblerange", 5080)]

/-- Built-in array types with the names of their elements. -/
def arrayTable : List (String × Nat × String) :=
  [("_xml", 143, "xml"), ("_json", 199, "json"), ("_xid8", 271, "xid8"), ("_line", 629, "line"),
   ("_cidr", 651, "cidr"), ("_circle", 719, "circle"), ("_macaddr8", 775, "macaddr8"),
   ("_money", 791, "money"), ("_bool", 1000, "bool"), ("_bytea", 1001, "bytea"),
   ("_char", 1002, "char"), ("_name", 1003, "name"), ("_int2", 1005, "int2"),
   ("_int2vector", 1006, "int2vector"), ("_int4", 1007, "int4"), ("_regproc", 1008, "regproc"),
   ("_text", 1009, "text"), ("_tid", 1010, "tid"), ("_xid", 1011, "xid"), ("_cid", 1012, "cid"),
   ("_oidvector", 1013, "oidvector"), ("_bpchar", 1014, "bpchar"), ("_varchar", 1015, "varchar"),
   ("_int8", 1016, "int8"), ("_point", 1017, "point"), ("_lseg", 1018, "lseg"),
   ("_path", 1019, "path"), ("_box", 1020, "box"), ("_float4", 1021, "float4"),
   ("_float8", 1022, "float8"), ("_polygon", 1027, "polygon"), ("_oid", 1028, "oid"),
   ("_aclitem", 1034, "aclitem"), ("_macaddr", 1040, "macaddr"), ("_inet", 1041, "inet"),
   ("_timestamp", 1115, "timestamp"), ("_date", 1182, "date"), ("_time", 1183, "time"),
   ("_timestamptz", 1185, "timestamptz"), ("_interval", 1187, "interval"),
   ("_numeric", 1231, "numeric"), ("_cstring", 1263, "cstring"), ("_timetz", 1270, "timetz"),
   ("_bit", 1561, "bit"), ("_varbit", 1563, "varbit"), ("_refcursor", 2201, "refcursor"),
   ("_regprocedure", 2207, "regprocedure"), ("_regoper", 2208, "regoper"),
   ("_regoperator", 2209, "regoperator"), ("_regclass", 2210, "regclass"),
   ("_regtype", 2211, "regtype"), ("_txid_snapshot", 2949, "txid_snapshot"),
   ("_uuid", 2951, "uuid"), ("_pg_lsn", 3221, "pg_lsn"), ("_tsvector", 3643, "tsvector"),
   ("_gtsvector", 3644, "gtsvector"), ("_tsquery", 3645, "tsquery"),
   ("_regconfig", 3735, "regconfig"), ("_regdictionary", 3770, "regdictionary"),
   ("_jsonb", 3807, "jsonb"), ("_int4range", 3905, "int4range"), ("_numrange", 3907, "numrange"),
   ("_tsrange", 3909, "tsrange"), ("_tstzrange", 3911, "tstzrange"),
   ("_daterange", 3913, "daterange"), ("_int8range", 3927, "int8range"),
   ("_jsonpath", 4073, "jsonpath"), ("_regnamespace", 4090, "regnamespace"),
   ("_regrole", 4097, "regrole"), ("_regcollation", 4192, "regcollation"),
   ("_pg_snapshot", 5039, "pg_snapshot"), ("_int4multirange", 6150, "int4multirange"),
   ("_nummultirange", 6151, "nummultirange"), ("_tsmultirange", 6152, "tsmultirange"),
   ("_tstzmultirange", 6153, "tstzmultirange"), ("_datemultirange", 6155, "datemultirange"),
   ("_int8multirange", 6157, "int8multirange")]

def scalarNamed? (name : String) : Option PgType :=
  (Scalar.table.find? fun entry => entry.2.1 = name).map fun entry => .scalar entry.1

/-- A built-in type that is no array of the usual kind. -/
def elementNamed? (name : String) : Option PgType :=
  if name = "int2vector" then some (.array (.builtIn name 22) 0 (.scalar .int2))
  else if name = "oidvector" then some (.array (.builtIn name 30) 0 (.scalar .oid))
  else scalarNamed? name
    <|> (otherTable.lookup name).map fun oid => .other (.builtIn name oid)

def named? (name : String) : Option PgType :=
  elementNamed? name
    <|> do
      let (oid, element) ← arrayTable.lookup name
      return .array (.builtIn name oid) 1 (← elementNamed? element)

end PgType

end TableSql.Wire
