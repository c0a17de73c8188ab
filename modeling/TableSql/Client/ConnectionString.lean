import TableSql.Client.InternetAddress
import TableSql.Decimal.Integer
import TableSql.Text.Blank
import TableSql.Text.Utf8

/-! Connection strings: `key=value` pairs between blanks, or a URL. -/

namespace TableSql.ConnectionString
open Decimal Text

inductive Fault
  | unknownKey (key : String)
  | badValue (key : String)
  | ending
  | unexpected
  | encoding
  deriving DecidableEq, Repr

abbrev Setting := String × String

def split (mark : Char) : List Char → List (List Char)
  | [] => [[]]
  | c :: rest =>
    if c = mark then [] :: split mark rest
    else match split mark rest with
      | [] => [[c]]
      | part :: parts => (c :: part) :: parts

def isNumber (b : Bounds) (text : String) : Bool := (readInteger b text).toBool

/-- Whether a value suits a key; `none` for a key that there is not. -/
def suits? (key value : String) : Option Bool :=
  let parts := split ',' value.toList
  match key with
  | "user" | "password" | "dbname" | "options" | "application_name" | "host" => some true
  | "sslmode" => some (["disable", "prefer", "require"].contains value)
  | "sslnegotiation" => some (["postgres", "direct"].contains value)
  | "hostaddr" => some (parts.all InternetAddress.isValid)
  | "port" =>
    some (parts.all fun part => part.isEmpty || isNumber (.unsigned 16) (String.ofList part))
  | "connect_timeout" | "tcp_user_timeout" | "keepalives_idle" | "keepalives_interval" =>
    some (isNumber (.signed 64) value)
  | "keepalives" => some (isNumber (.unsigned 64) value)
  | "keepalives_retries" => some (isNumber (.unsigned 32) value)
  | "target_session_attrs" => some (["any", "read-write", "read-only"].contains value)
  | "channel_binding" => some (["disable", "prefer", "require"].contains value)
  | "load_balance_hosts" => some (["disable", "random"].contains value)
  | _ => none

def check (key value : String) : Except Fault Setting :=
  match suits? key value with
  | some true => .ok (key, value)
  | some false => .error (.badValue key)
  | none => .error (.unknownKey key)

/-- A value without quotes ends at a blank; a backslash makes the next character part of it. -/
def bareValue : List Char → List Char × List Char
  | [] => ([], [])
  | ['\\'] => ([], [])
  | '\\' :: c :: rest => let (value, after) := bareValue rest; (c :: value, after)
  | c :: rest =>
    if isBlank c then ([], c :: rest)
    else let (value, after) := bareValue rest; (c :: value, after)

/-- A value up to its closing quote, and what follows that; a backslash makes the next character
part of it. -/
def quotedValue? : List Char → Option (List Char × List Char)
  | [] => none
  | ['\\'] => none
  | '\'' :: rest => some ([], rest)
  | '\\' :: c :: rest => (quotedValue? rest).map fun (value, after) => (c :: value, after)
  | c :: rest => (quotedValue? rest).map fun (value, after) => (c :: value, after)

def readValue : List Char → Except Fault (List Char × List Char)
  | '\'' :: rest =>
    match quotedValue? rest with
    | some result => .ok result
    | none => .error .ending
  | cs =>
    match bareValue cs with
    | ([], _) => .error .ending
    | result => .ok result

/-- The pairs of a text. An equals sign where a key should be ends them. `fuel` bounds their
number. -/
def readPairs : Nat → List Char → Except Fault (List Setting)
  | 0, _ => .ok []
  | fuel + 1, cs =>
    let cs := dropBlanks cs
    let key := cs.takeWhile fun c => !isBlank c && c != '='
    if key.isEmpty then .ok []
    else
      match dropBlanks (cs.drop key.length) with
      | '=' :: rest => do
        let (value, rest) ← readValue (dropBlanks rest)
        let setting ← check (String.ofList key) (String.ofList value)
        return setting :: (← readPairs fuel rest)
      | [] => .error .ending
      | _ => .error .unexpected

/-- The bytes of a text in which `%` and two hexadecimal digits stand for a byte. -/
def percentDecode : List Char → List UInt8
  | [] => []
  | '%' :: a :: b :: rest =>
    match hexValue? a, hexValue? b with
    | some high, some low => UInt8.ofNat (high * 16 + low) :: percentDecode rest
    | _, _ => String.utf8EncodeChar '%' ++ percentDecode (a :: b :: rest)
  | c :: rest => String.utf8EncodeChar c ++ percentDecode rest

def decodeText (cs : List Char) : Except Fault String :=
  match ofUtf8? (percentDecode cs) with
  | some text => .ok text
  | none => .error .encoding

/-- What stands before the first character of some kind, and that character with the rest. -/
def splitAtFirst (mark : Char → Bool) (cs : List Char) : List Char × List Char :=
  (cs.takeWhile fun c => !mark c, cs.dropWhile fun c => !mark c)

/-- A host in a URL may be a path, which need not be text; it is kept as it is written. -/
def readHost (cs : List Char) : Except Fault Setting :=
  if (percentDecode cs).head? = some 0x2f then .ok ("host", String.ofList cs)
  else (decodeText cs).map ("host", ·)

/-- User and password before the first `@`. -/
def readCredentials (cs : List Char) : Except Fault (List Setting × List Char) :=
  match splitAtFirst (· == '@') cs with
  | (_, []) => .ok ([], cs)
  | (credentials, _ :: rest) => do
    let (user, password) := splitAtFirst (· == ':') credentials
    let user := ("user", ← decodeText user)
    match password with
    | [] => return ([user], rest)
    | _ :: password => return ([user, ("password", String.ofList password)], rest)

/-- A host and its port; a host in brackets may hold colons. -/
def splitPort (chunk : List Char) : Except Fault (List Char × Option (List Char)) :=
  match chunk with
  | '[' :: inside =>
    match splitAtFirst (· == ']') inside with
    | (host, [']']) => .ok (host, none)
    | (host, ']' :: ':' :: port) => .ok (host, some port)
    | _ => .error (.badValue "host")
  | _ =>
    match splitAtFirst (· == ':') chunk with
    | (host, []) => .ok (host, none)
    | (host, _ :: port) => .ok (host, some port)

def readHosts : List (List Char) → Except Fault (List Setting)
  | [] => .ok []
  | chunk :: rest => do
    let (host, port) ← splitPort chunk
    let host ← readHost host
    let port ← check "port" (← decodeText (port.getD "5432".toList))
    return host :: port :: (← readHosts rest)

/-- The settings after the question mark. `fuel` bounds their number. -/
def readQuery : Nat → List Char → Except Fault (List Setting)
  | 0, _ => .ok []
  | _, [] => .ok []
  | fuel + 1, cs =>
    match splitAtFirst (· == '=') cs with
    | (_, []) => .error .ending
    | (key, _ :: rest) => do
      let key ← decodeText key
      let (value, rest) := splitAtFirst (· == '&') rest
      let setting ← if key = "host" then readHost value else check key (← decodeText value)
      return setting :: (← readQuery fuel (rest.drop 1))

def readUrl (cs : List Char) : Except Fault (List Setting) := do
  let (credentials, cs) ← readCredentials cs
  let (hosts, cs) := splitAtFirst (fun c => c == '/' || c == '?') cs
  let hosts ← if hosts.isEmpty then pure [] else readHosts (split ',' hosts)
  let (path, cs) := match cs with
    | '/' :: rest => splitAtFirst (· == '?') rest
    | cs => ([], cs)
  let database ← if path.isEmpty then pure [] else do pure [("dbname", ← decodeText path)]
  let query ← readQuery cs.length (cs.drop 1)
  return credentials ++ hosts ++ database ++ query

def read (text : String) : Except Fault (List Setting) :=
  let cs := text.toList
  let after (scheme : String) : Option (List Char) :=
    if scheme.toList.isPrefixOf cs then some (cs.drop scheme.length) else none
  match after "postgres://" <|> after "postgresql://" with
  | some rest => readUrl rest
  | none => readPairs cs.length cs

end TableSql.ConnectionString
