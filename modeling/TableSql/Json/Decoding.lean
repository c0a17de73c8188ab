import TableSql.Json.Mismatch

/-! Decoders: from a JSON tree to values of a known kind. The first error in the order of the text
is the result. -/

namespace TableSql.Json

/-- Where a tree comes from, which decides how strict its reading is. -/
inductive Origin
  /-- A text. `room` is one more than the levels of nesting that may still be opened. -/
  | text (room : Nat)
  /-- A value that has been read before. -/
  | value
  deriving DecidableEq, Repr

/-- A text may be nested 127 levels deep. -/
def Origin.whole : Origin := .text 128

/-- Opens a level of nesting. -/
def Origin.enter : Origin → Except ReadError Origin
  | .value => .ok .value
  | .text room => if room ≤ 1 then .error (.fault .malformed) else .ok (.text (room - 1))

abbrev Decoder (α : Type) := Origin → Raw → Except ReadError α

def taken : Except Fault α → Except ReadError α := Except.mapError .fault

namespace Raw

/-- What a value is, for a message that it is not what was expected. The inside of an array or an
object does not matter. -/
def found : Raw → Except ReadError Found
  | .null => .ok .null
  | .bool b => .ok (.bool b)
  | .number (some n) => .ok (.number n)
  | .number none => .error (.fault .malformed)
  | .string content => taken (content.map .string)
  | .array .. => .ok .sequence
  | .object .. => .ok .map
  | .broken _ b => .error (.fault b.taken)

def mismatch (raw : Raw) (expected : String) : Except ReadError α := do
  throw (.mismatch (.kind (← raw.found) expected))

mutual

/-- A value of no interest need only be JSON. -/
def skip : Raw → Except Fault Unit
  | .null | .bool _ | .number _ | .string _ => .ok ()
  | .array items stop => (skipItems items).bind fun _ => skipStop stop
  | .object members stop => (skipMembers members).bind fun _ => skipStop stop
  | .broken _ b => .error b.skipped

def skipStop : Stop → Except Fault Unit
  | .closed => .ok ()
  | .cut _ b => .error b.skipped

def skipItems : List Raw → Except Fault Unit
  | [] => .ok ()
  | item :: rest => item.skip.bind fun _ => skipItems rest

def skipMembers : List (Except Fault String × Raw) → Except Fault Unit
  | [] => .ok ()
  | (_, held) :: rest => held.skip.bind fun _ => skipMembers rest

end

end Raw

/-- The end of an array or an object whose inside was read. -/
def Stop.finish : Stop → Except ReadError Unit
  | .closed => .ok ()
  | .cut _ b => .error (.fault b.taken)

namespace Decoder

mutual

/-- Any value. The members of an object are sorted by key, and of several with one key the last
counts. -/
def any : Decoder Json
  | _, .null => .ok .null
  | _, .bool b => .ok (.bool b)
  | _, .number (some n) => .ok (.number n)
  | _, .number none => .error (.fault .malformed)
  | _, .string content => taken (content.map .string)
  | origin, .array items stop => do
    let items ← anyItems (← origin.enter) items
    stop.finish
    return .array items
  | origin, .object members stop => do
    let members ← anyMembers (← origin.enter) members
    stop.finish
    return .object (Entries.sorted members)
  | _, .broken _ b => .error (.fault b.taken)

def anyItems : Origin → List Raw → Except ReadError (List Json)
  | _, [] => .ok []
  | origin, item :: rest => do
    let item ← any origin item
    return item :: (← anyItems origin rest)

def anyMembers : Origin → List (Except Fault String × Raw) →
    Except ReadError (List (String × Json))
  | _, [] => .ok []
  | origin, (key, held) :: rest => do
    let key ← taken key
    let held ← any origin held
    return (key, held) :: (← anyMembers origin rest)

end

def string : Decoder String
  | _, .string content => taken content
  | _, raw => raw.mismatch "a string"

def bool : Decoder Bool
  | _, .bool b => .ok b
  | _, raw => raw.mismatch "a boolean"

/-- An integer from zero to `high`. -/
def upTo (high : Nat) (expected : String) : Decoder Nat
  | _, .number (some (.integer i)) =>
    if 0 ≤ i ∧ i ≤ high then .ok i.toNat
    else .error (.mismatch (.value (.number (.integer i)) expected))
  | _, raw => raw.mismatch expected

def uint64 (expected : String) : Decoder UInt64 := fun origin raw =>
  (upTo (UInt64.size - 1) expected origin raw).map UInt64.ofNat

def uint16 (expected : String) : Decoder UInt16 := fun origin raw =>
  (upTo (UInt16.size - 1) expected origin raw).map UInt16.ofNat

/-- `null`, or a value. -/
def optional (d : Decoder α) : Decoder (Option α)
  | _, .null => .ok none
  | origin, raw => (d origin raw).map some

def sequence (d : Decoder α) : Decoder (List α)
  | origin, .array items stop => do
    let origin ← origin.enter
    let items ← items.mapM (d origin)
    stop.finish
    return items
  | _, raw => raw.mismatch "a sequence"

/-- The members of an object in the order of the text. -/
def entries (d : Decoder α) (expected : String) : Decoder (List (String × α))
  | origin, .object members stop => do
    let origin ← origin.enter
    let members ← members.mapM fun (key, held) => do
      let key ← taken key
      return (key, ← d origin held)
    stop.finish
    return members
  | _, raw => raw.mismatch expected

/-- One of several names; the names are listed in messages in the given order. -/
def named (names : List (String × α)) (name : String) : Except ReadError α :=
  match Entries.get? name names with
  | some a => .ok a
  | none => .error (.mismatch (.variant name (Entries.keys names)))

/-- The value of a name given as the only key of an object. -/
def unit : Raw → Except ReadError Unit
  | .null => .ok ()
  | raw => raw.mismatch "unit"

/-- A name as the only key of an object, in a text: no comma may follow. -/
def soleKey (names : List (String × α)) :
    List (Except Fault String × Raw) → Stop → Except ReadError α
  | [], .closed => .error (.fault .malformed)
  | [], .cut _ b => .error (.fault b.taken)
  | (key, held) :: rest, stop => do
    let a ← named names (← taken key)
    unit held
    match rest, stop with
    | [], .closed => return a
    | [], .cut false b => throw (.fault b.taken)
    | _, _ => throw (.fault .malformed)

/-- A name, as a string or as the only key of an object that holds `null`. -/
def choice (names : List (String × α)) : Decoder α
  | _, .string content => do named names (← taken content)
  | .text room, .object members stop => do
    let _ ← (Origin.text room).enter
    soleKey names members stop
  | .text _, .broken none b => .error (.fault b.taken)
  | .text _, .broken (some '"') b => .error (.fault b.taken)
  | .text _, _ => .error (.fault .malformed)
  | .value, .object members _ =>
    match members with
    | [(key, held)] => do
      let a ← named names (← taken key)
      unit held
      return a
    | _ => .error (.mismatch (.value .map "map with a single key"))
  | .value, raw => raw.mismatch "string or map"

end Decoder

/-- A field of a structure that is read step by step into a draft `σ`. -/
structure Field (σ : Type) where
  name : String
  isSet : σ → Bool
  read : Origin → Raw → σ → Except ReadError σ

def Field.of (name : String) (d : Decoder α) (get : σ → Option α) (set : σ → α → σ) : Field σ where
  name := name
  isSet draft := (get draft).isSome
  read origin raw draft := (d origin raw).map (set draft)

/-- A structure: read from an object by the names of its fields, or from an array by their
places. -/
structure Shape (σ α : Type) where
  name : String
  draft : σ
  fields : List (Field σ)
  /-- The finished structure, or the first required field that is not set. -/
  build : σ → Except String α

namespace Shape
variable {σ α : Type}

/-- Reads members in the order of the text. A field may be given once; other keys are skipped. -/
def readMembers (fields : List (Field σ)) (origin : Origin) :
    List (Except Fault String × Raw) → σ → Except ReadError σ
  | [], draft => .ok draft
  | (key, held) :: rest, draft => do
    let key ← taken key
    match fields.find? (·.name = key) with
    | none =>
      taken held.skip
      readMembers fields origin rest draft
    | some field =>
      if field.isSet draft then throw (.mismatch (.duplicate key))
      else readMembers fields origin rest (← field.read origin held draft)

/-- Reads items into the fields from left to right; the result says how many items were left. -/
def readItems (origin : Origin) :
    List (Field σ) → List Raw → σ → Except ReadError (σ × List Raw)
  | field :: fields, item :: items, draft => do
    readItems origin fields items (← field.read origin item draft)
  | _, items, draft => .ok (draft, items)

/-- The end of an array: in a text nothing may follow the last field. -/
def finishItems (origin : Origin) (count : Nat) (left : List Raw) (stop : Stop) :
    Except ReadError Unit :=
  match origin, left with
  | _, [] => stop.finish
  | .text _, _ => .error (.fault .malformed)
  | .value, _ => .error (.mismatch (.length count "fewer elements in array"))

def decode (s : Shape σ α) : Decoder α
  | origin, .object members stop => do
    let draft ← readMembers s.fields (← origin.enter) members s.draft
    stop.finish
    match s.build draft with
    | .ok a => return a
    | .error field => throw (.mismatch (.missing field))
  | origin, .array items stop => do
    let (draft, left) ← readItems (← origin.enter) s.fields items s.draft
    if items.length < s.fields.length then stop.finish
    match s.build draft with
    | .ok a =>
      finishItems origin items.length left stop
      return a
    | .error _ =>
      throw (.mismatch (.length items.length
        (s.name ++ " with " ++ Decimal.numeral s.fields.length ++ " elements")))
  | _, raw => raw.mismatch s.name

end Shape

mutual

/-- A value as the tree its text would give. -/
def toRaw : Json → Raw
  | .null => .null
  | .bool b => .bool b
  | .number n => .number (some n)
  | .string s => .string (.ok s)
  | .array items => .array (itemsToRaw items) .closed
  | .object members => .object (membersToRaw members) .closed

def itemsToRaw : List Json → List Raw
  | [] => []
  | item :: rest => item.toRaw :: itemsToRaw rest

def membersToRaw : List (String × Json) → List (Except Fault String × Raw)
  | [] => []
  | (key, value) :: rest => (.ok key, value.toRaw) :: membersToRaw rest

end

/-- Decodes a value that has been read before. -/
def decodeAs (d : Decoder α) (json : Json) : Except ReadError α := d .value json.toRaw

/-- Decodes a text that holds one value. -/
def Decoder.run (d : Decoder α) (source : Source) : Except ReadError α := do
  let (raw, rest) := Raw.ofSource source
  let a ← d .whole raw
  taken rest
  return a

def Decoder.ofText (d : Decoder α) (text : String) : Except ReadError α :=
  d.run (text.toList.map some)

end TableSql.Json
