import TableSql.Filter.MatchMode
import TableSql.Value.Json

/-! Filters by property, in the order of the request. The order decides the order of the conditions
and the numbers of their placeholders. -/

namespace TableSql

/-- A value to compare a property with. A filter without a mode compares nothing. -/
structure Filter where
  value : Value
  mode : Option MatchMode
  deriving Repr

namespace Filter

/-- Every item of an array is a value of its own; an array in it is not taken apart. -/
def values (f : Filter) : List Value :=
  match f.value with
  | .array items => items
  | v => [v]

def toJson (f : Filter) : Json :=
  .object
    [ ("value", f.value.toJson),
      ("matchMode", match f.mode with
        | some m => .string m.name
        | none => .null) ]

/-- Whatever is no name of a mode gives none. -/
def modeOfJson : Json → Option MatchMode
  | .string name => MatchMode.ofName? name
  | _ => none

structure Draft where
  value : Option Value := none
  mode : Option (Option MatchMode) := none

def shape : Json.Shape Draft Filter where
  name := "struct Filter"
  draft := {}
  fields :=
    [ .of "value" Value.decoder Draft.value fun d a => { d with value := some a },
      .of "matchMode" (fun origin raw => (Json.Decoder.any origin raw).map modeOfJson) Draft.mode
        fun d a => { d with mode := some a } ]
  build d := .ok ⟨d.value.getD .null, d.mode.getD none⟩

def decoder : Json.Decoder Filter := shape.decode

end Filter

/-- Filters with distinct keys in the order in which the keys came. -/
structure Filters where
  entries : List (String × Filter)
  distinct : (Entries.keys entries).Nodup
  deriving Repr

namespace Filters

theorem nodup_keys_nil : (Entries.keys ([] : List (String × Filter))).Nodup := List.Pairwise.nil

def empty : Filters := ⟨[], nodup_keys_nil⟩

def keys (fs : Filters) : List String := Entries.keys fs.entries

def get? (fs : Filters) (key : String) : Option Filter := Entries.get? key fs.entries

/-- Replaces the filter of a key in its place, or appends a new one. -/
def put (key : String) (f : Filter) : List (String × Filter) → List (String × Filter)
  | [] => [(key, f)]
  | (k, g) :: rest => if k = key then (key, f) :: rest else (k, g) :: put key f rest

theorem keys_put (key : String) (f : Filter) (entries : List (String × Filter)) :
    Entries.keys (put key f entries) =
      if key ∈ Entries.keys entries then Entries.keys entries
      else Entries.keys entries ++ [key] := by
  induction entries with
  | nil => simp [put, Entries.keys]
  | cons entry rest ih =>
    obtain ⟨k, g⟩ := entry
    by_cases h : k = key
    · subst h
      simp [put, Entries.keys]
    · simp only [put, h, if_false]
      simp only [Entries.keys, List.map_cons, List.mem_cons] at ih ⊢
      rw [ih]
      by_cases hm : key ∈ rest.map Prod.fst
      · simp [hm]
      · simp [hm, Ne.symm h]

theorem nodup_keys_put (key : String) (f : Filter) {entries : List (String × Filter)}
    (h : (Entries.keys entries).Nodup) : (Entries.keys (put key f entries)).Nodup := by
  rw [keys_put]
  by_cases hm : key ∈ Entries.keys entries
  · simpa [hm] using h
  · rw [if_neg hm]
    refine List.pairwise_append.2 ⟨h, List.pairwise_singleton _ _, ?_⟩
    rintro a ha b hb rfl
    exact hm ((List.mem_singleton.1 hb) ▸ ha)

def insert (fs : Filters) (key : String) (f : Filter) : Filters :=
  ⟨put key f fs.entries, nodup_keys_put key f fs.distinct⟩

/-- The filters that pass a test, in their order. -/
def retain (fs : Filters) (keep : String → Filter → Bool) : Filters where
  entries := fs.entries.filter fun entry => keep entry.1 entry.2
  distinct := fs.distinct.sublist (List.filter_sublist.map Prod.fst)

def ofPairs (pairs : List (String × Filter)) : Filters :=
  pairs.foldl (fun fs (key, f) => fs.insert key f) empty

def toJson (fs : Filters) : Json :=
  .object (fs.entries.map fun (key, f) => (key, f.toJson))

/-- An object of filters by property; `null` is no filters. -/
def decoder : Json.Decoder Filters
  | _, .null => .ok empty
  | origin, raw =>
    (Json.Decoder.entries Filter.decoder "a map of property name to filter" origin raw).map ofPairs

end Filters

end TableSql
