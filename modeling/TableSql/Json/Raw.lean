import TableSql.Json.Literal

/-! JSON text taken apart as far as it can be read. What is wrong with a text stands in the tree at
the place where it is met, so that a reader of the tree meets the first fault first. -/

namespace TableSql.Json

/-- A text goes wrong, or ends where more is required. -/
inductive Fault
  | malformed
  | truncated
  deriving DecidableEq, Repr

/-- The fault met when a value is taken, and when it is only skipped: skipping does not tell a
number that ends too early from a wrong one, and does not look at surrogates. -/
structure Break where
  taken : Fault
  skipped : Fault
  deriving DecidableEq, Repr

def Break.both (fault : Fault) : Break := ⟨fault, fault⟩

/-- How the inside of an array or an object ends. -/
inductive Stop
  | closed
  | cut (afterComma : Bool) (b : Break)
  deriving DecidableEq, Repr

/-- A JSON text as a tree. -/
inductive Raw
  | null
  | bool (b : Bool)
  /-- A number too large to be held is `none`. -/
  | number (n : Option Number)
  /-- A string of which not every escape stands for a character is a fault. -/
  | string (content : Except Fault String)
  | array (items : List Raw) (stop : Stop)
  | object (members : List (Except Fault String × Raw)) (stop : Stop)
  /-- No value: `lead` is its first character, if the text has one. -/
  | broken (lead : Option Char) (b : Break)

/-- The characters of a text; `none` stands for bytes that are no character. -/
abbrev Source := List (Option Char)

def skipBlanks : Source → Source :=
  List.dropWhile fun c => c = some ' ' ∨ c = some '\n' ∨ c = some '\t' ∨ c = some '\r'

namespace Raw

/-- Whether a text goes on after this value. -/
def isWhole : Raw → Bool
  | .array _ stop => stop = .closed
  | .object _ stop => stop = .closed
  | .broken .. => false
  | _ => true

/-- The rest of the word `letters`, which stands for `value`. -/
def word (lead : Char) (value : Raw) : List Char → Source → Raw × Source
  | [], source => (value, source)
  | _, [] => (.broken lead (.both .truncated), [])
  | c :: letters, d :: source =>
    if d = some c then word lead value letters source
    else (.broken lead (.both .malformed), source)

def digits : Source → List Nat × Source
  | some c :: rest =>
    if c.isDigit then
      let (ds, after) := digits rest
      ((c.toNat - '0'.toNat) :: ds, after)
    else ([], some c :: rest)
  | source => ([], source)

/-- A digit is required here. -/
def noDigit (lead : Char) (source : Source) : Raw :=
  .broken lead ⟨if source.isEmpty then .truncated else .malformed, .malformed⟩

def exponent (lead : Char) (l : Literal) (source : Source) : Raw × Source :=
  match source with
  | some 'e' :: rest | some 'E' :: rest =>
    let (negative, rest) := match rest with
      | some '-' :: r => (true, r)
      | some '+' :: r => (false, r)
      | r => (false, r)
    match digits rest with
    | ([], after) => (noDigit lead after, after)
    | (ds, after) => (.number { l with exponent := some (negative, ds) }.number?, after)
  | source => (.number l.number?, source)

/-- A number after its sign; a leading zero stands alone. -/
def numberBody (lead : Char) (negative : Bool) (source : Source) : Raw × Source :=
  match digits source with
  | ([], after) => (noDigit lead after, after)
  | (0 :: _ :: _, after) => (.broken lead (.both .malformed), after)
  | (whole, some '.' :: rest) =>
    match digits rest with
    | ([], after) => (noDigit lead after, after)
    | (fraction, after) => exponent lead ⟨negative, whole, fraction, none⟩ after
  | (whole, after) => exponent lead ⟨negative, whole, [], none⟩ after

end Raw

/-- A part of a string: a character, a code unit given by its number, or bytes that are no
character. -/
inductive Piece
  | char (c : Char)
  | unit (n : Nat)
  | undecodable
  deriving DecidableEq, Repr

namespace Piece

def hexValue? : Option Char → Option Nat
  | none => none
  | some c =>
    if c.isDigit then some (c.toNat - '0'.toNat)
    else if 'a' ≤ c ∧ c ≤ 'f' then some (c.toNat - 'a'.toNat + 10)
    else if 'A' ≤ c ∧ c ≤ 'F' then some (c.toNat - 'A'.toNat + 10)
    else none

/-- Four hexadecimal digits. -/
def unit? (a b c d : Option Char) : Option Nat := do
  return ((← hexValue? a) * 16 + (← hexValue? b)) * 256 + (← hexValue? c) * 16 + (← hexValue? d)

def escaped? : Char → Option Char
  | '"' => some '"'
  | '\\' => some '\\'
  | '/' => some '/'
  | 'b' => some '\x08'
  | 'f' => some '\x0c'
  | 'n' => some '\n'
  | 'r' => some '\r'
  | 't' => some '\t'
  | _ => none

/-- The number of bytes a character of a source takes. -/
def byteSize : Option Char → Nat
  | some c => c.utf8Size
  | none => 1

/-- Four bytes are taken for the digits of a code unit before they are looked at. -/
def unitFault (source : Source) : Fault :=
  if (source.take 4).foldl (fun size c => size + byteSize c) 0 < 4 then .truncated else .malformed

/-- The pieces up to the closing quote and what follows it, or why there is none. -/
def scan : Source → List Piece × Except Fault Source
  | [] => ([], .error .truncated)
  | some '"' :: rest => ([], .ok rest)
  | [some '\\'] => ([], .error .truncated)
  | some '\\' :: some 'u' :: a :: b :: c :: d :: rest =>
    match unit? a b c d with
    | some n =>
      let (pieces, stop) := scan rest
      (.unit n :: pieces, stop)
    | none => ([], .error .malformed)
  | some '\\' :: some 'u' :: short => ([], .error (unitFault short))
  | some '\\' :: some e :: rest =>
    match escaped? e with
    | some c =>
      let (pieces, stop) := scan rest
      (.char c :: pieces, stop)
    | none => ([], .error .malformed)
  | some '\\' :: none :: _ => ([], .error .malformed)
  | some c :: rest =>
    if c.toNat < 0x20 then ([], .error .malformed)
    else
      let (pieces, stop) := scan rest
      (.char c :: pieces, stop)
  | none :: rest =>
    let (pieces, stop) := scan rest
    (.undecodable :: pieces, stop)

def isLeading (n : Nat) : Bool := 0xd800 ≤ n && n ≤ 0xdbff
def isTrailing (n : Nat) : Bool := 0xdc00 ≤ n && n ≤ 0xdfff

/-- The characters of pieces that end with `stop`: two surrogates in order make one character, and
a lone one makes none. Undecodable bytes are noticed only when the string is complete. -/
def content (stop : Except Fault Unit) : List Piece → Except Fault (List Char)
  | [] => stop.map fun _ => []
  | .char c :: rest => (content stop rest).map (c :: ·)
  | .undecodable :: rest => (content stop rest).bind fun _ => .error .malformed
  | .unit n :: rest =>
    if isTrailing n then .error .malformed
    else if isLeading n then
      match rest with
      | .unit m :: rest =>
        if isTrailing m then
          (content stop rest).map
            (Char.ofNat ((n - 0xd800) * 0x400 + (m - 0xdc00) + 0x10000) :: ·)
        else .error .malformed
      | [] => stop.bind fun _ => .error .malformed
      | _ => .error .malformed
    else (content stop rest).map (Char.ofNat n :: ·)

end Piece

namespace Raw

def stringBody (source : Source) : Raw × Source :=
  match Piece.scan source with
  | (pieces, .ok rest) => (.string ((Piece.content (.ok ()) pieces).map String.ofList), rest)
  | (pieces, .error fault) =>
    match Piece.content (.error fault) pieces with
    | .error taken => (.broken '"' ⟨taken, fault⟩, [])
    | .ok _ => (.broken '"' (.both fault), [])

mutual

/-- The first value of a text and what follows it. `fuel` bounds the number of steps. -/
def value : Nat → Source → Raw × Source
  | 0, source => (.broken none (.both .malformed), source)
  | fuel + 1, source =>
    match skipBlanks source with
    | [] => (.broken none (.both .truncated), [])
    | none :: rest => (.broken '?' (.both .malformed), rest)
    | some '"' :: rest => stringBody rest
    | some '[' :: rest =>
      let (items, stop, rest) := items fuel true rest
      (.array items stop, rest)
    | some '\x7b' :: rest =>
      let (members, stop, rest) := members fuel true rest
      (.object members stop, rest)
    | some 'n' :: rest => word 'n' .null ['u', 'l', 'l'] rest
    | some 't' :: rest => word 't' (.bool true) ['r', 'u', 'e'] rest
    | some 'f' :: rest => word 'f' (.bool false) ['a', 'l', 's', 'e'] rest
    | some '-' :: rest => numberBody '-' true rest
    | some c :: rest =>
      if c.isDigit then numberBody c false (some c :: rest)
      else (.broken c (.both .malformed), rest)

/-- The items of an array, how they end, and what follows. -/
def items : Nat → Bool → Source → List Raw × Stop × Source
  | 0, _, source => ([], .cut false (.both .malformed), source)
  | fuel + 1, first, source =>
    match skipBlanks source with
    | [] => ([], .cut false (.both .truncated), [])
    | some ']' :: rest => ([], .closed, rest)
    | c :: rest =>
      if first || c = some ',' then
        let (item, after) := value fuel (if first then c :: rest else rest)
        if item.isWhole then
          let (others, stop, after) := items fuel false after
          (item :: others, stop, after)
        else ([item], .cut false (.both .malformed), after)
      else ([], .cut false (.both .malformed), rest)

/-- The members of an object, how they end, and what follows. A key is a string. -/
def members : Nat → Bool → Source → List (Except Fault String × Raw) × Stop × Source
  | 0, _, source => ([], .cut false (.both .malformed), source)
  | fuel + 1, first, source =>
    match skipBlanks source with
    | [] => ([], .cut false (.both .truncated), [])
    | some '\x7d' :: rest => ([], .closed, rest)
    | c :: rest =>
      if first || c = some ',' then
        match skipBlanks (if first then c :: rest else rest) with
        | [] => ([], .cut (!first) (.both .truncated), [])
        | some '"' :: rest =>
          match stringBody rest with
          | (.string key, after) =>
            match skipBlanks after with
            | some ':' :: rest =>
              let (held, after) := value fuel rest
              if held.isWhole then
                let (others, stop, after) := members fuel false after
                ((key, held) :: others, stop, after)
              else ([(key, held)], .cut false (.both .malformed), after)
            | [] => ([(key, .broken none (.both .truncated))], .cut false (.both .truncated), [])
            | _ :: rest =>
              ([(key, .broken none (.both .malformed))], .cut false (.both .malformed), rest)
          | (.broken _ b, after) => ([], .cut (!first) b, after)
          | (_, after) => ([], .cut (!first) (.both .malformed), after)
        | _ :: rest => ([], .cut (!first) (.both .malformed), rest)
      else ([], .cut false (.both .malformed), rest)

end

/-- The value a text consists of, and the fault met behind it. -/
def ofSource (source : Source) : Raw × Except Fault Unit :=
  let (raw, rest) := value (2 * source.length + 2) source
  (raw, if (skipBlanks rest).isEmpty then .ok () else .error .malformed)

def ofText (text : String) : Raw × Except Fault Unit := ofSource (text.toList.map some)

end Raw

end TableSql.Json
