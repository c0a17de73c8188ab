import Mathlib.Algebra.GroupWithZero.Nat
import TableSql.Entity.Stats
import TableSql.Proofs.Entity.Registry

/-! What the stats of an entity report of each kind of statement: the properties that allow it, as
long as none of them names it more than once. -/

namespace TableSql

namespace Operation

theorem mem_all (o : Operation) : o ∈ all := by
  cases o <;> decide

theorem nodup_all : all.Nodup := by
  decide

end Operation

namespace Property

/-- The same property with each of its kinds of statement once. -/
def normalized (p : Property) : Property := p.withOperations p.operations

theorem count_operations_normalized (p : Property) (o : Operation) :
    p.normalized.operations.count o = if p.allows o then 1 else 0 := by
  unfold normalized withOperations allows
  dsimp only
  split
  · next h =>
    rw [List.count_filter h]
    exact List.count_eq_one_of_mem Operation.nodup_all o.mem_all
  · next h => exact List.count_eq_zero.mpr fun hmem => h (List.mem_filter.mp hmem).2

private theorem allows_normalized (p : Property) (o : Operation) :
    p.normalized.allows o = p.allows o := by
  rw [Bool.eq_iff_iff, allows, List.contains_iff_mem, ← List.count_pos_iff,
    count_operations_normalized]
  split <;> simp_all

theorem count_operations_pos_iff {p : Property} {o : Operation} :
    0 < p.operations.count o ↔ p.allows o := by
  rw [List.count_pos_iff, allows, List.contains_iff_mem]

end Property

/-- A table of results by kind of statement holds the result of each kind that it is made for. -/
theorem lookup_filterMap {β : Type} (f : Operation → Option β) (operations : List Operation)
    (o : Operation) :
    (operations.filterMap fun other => (f other).map (other, ·)).lookup o =
      if o ∈ operations then f o else none := by
  induction operations with
  | nil => rfl
  | cons other rest ih =>
    by_cases ho : o = other
    · subst ho
      cases hf : f o <;> simp [hf, ih]
    · have hbeq : (o == other) = false := beq_eq_false_iff_ne.mpr ho
      cases hf : f other <;> simp [hf, ih, ho, List.lookup_cons, hbeq]

namespace Stats

/-- How many keys are listed for a kind of statement, if any is. -/
def count? (o : Operation) (properties : List Property) : Option Nat :=
  if (keysOf o properties).length = 0 then none else some (keysOf o properties).length

theorem lookup_distribution (name table : String) (properties : List Property) (o : Operation) :
    (ofProperties name table properties).distribution.lookup o = count? o properties := by
  have hrow : (ofProperties name table properties).distribution =
      Operation.all.filterMap fun other => (count? other properties).map (other, ·) := by
    refine List.filterMap_congr fun other _ => ?_
    unfold count?
    cases keysOf other properties <;> rfl
  rw [hrow, lookup_filterMap, if_pos o.mem_all]

theorem lookup_mappings (name table : String) (properties : List Property) (o : Operation) :
    (ofProperties name table properties).mappings.lookup o = some (keysOf o properties) := by
  have hrow : (ofProperties name table properties).mappings =
      Operation.all.filterMap fun other => (some (keysOf other properties)).map (other, ·) := by
    rw [ofProperties, ← List.filterMap_eq_map]
    rfl
  rw [hrow, lookup_filterMap, if_pos o.mem_all]

private theorem length_keysOf (o : Operation) (properties : List Property) :
    (keysOf o properties).length = (properties.map (·.operations.count o)).sum := by
  rw [keysOf, List.length_flatMap]
  simp only [List.length_replicate]

theorem keysOf_cons (o : Operation) (p : Property) (rest : List Property) :
    keysOf o (p :: rest) = List.replicate (p.operations.count o) p.key ++ keysOf o rest :=
  List.flatMap_cons

/-- The stats tell of a kind of statement how many properties allow it, if any does, and list the
keys of exactly those properties. -/
structure Reports (s : Stats) (o : Operation) (properties : List Property) : Prop where
  count : s.distribution.lookup o =
    let allowing := properties.filter (·.allows o)
    if allowing.length = 0 then none else some allowing.length
  keys : s.mappings.lookup o = some ((properties.filter (·.allows o)).map (·.key))

theorem reports_ofProperties_iff {name table : String} {listed properties : List Property}
    {o : Operation} :
    (ofProperties name table listed).Reports o properties ↔
      keysOf o listed = Registry.offered properties o := by
  constructor
  · intro h
    rw [← Option.some_inj, ← lookup_mappings name table, h.keys]
    rfl
  · intro h
    refine ⟨?_, ?_⟩
    · rw [lookup_distribution, count?, h, Registry.offered, List.length_map]
    · rw [lookup_mappings, h]
      rfl

theorem length_offered_le (o : Operation) (properties : List Property) :
    (Registry.offered properties o).length ≤ (keysOf o properties).length := by
  induction properties with
  | nil => exact Nat.le_refl _
  | cons p rest ih =>
    rw [keysOf_cons, Registry.offered_cons, List.length_append, List.length_replicate]
    split
    · next hallows =>
      have hpos := Property.count_operations_pos_iff.mpr hallows
      rw [List.length_cons]
      omega
    · omega

/-- A property that names a kind of statement twice is listed twice for it, and no other makes up
for that. -/
theorem keysOf_eq_offered_iff {o : Operation} {properties : List Property} :
    keysOf o properties = Registry.offered properties o ↔
      ∀ p ∈ properties, p.operations.count o ≤ 1 := by
  induction properties with
  | nil => simp [keysOf, Registry.offered]
  | cons p rest ih =>
    rw [keysOf_cons, Registry.offered_cons, List.forall_mem_cons, ← ih]
    have hpos := Property.count_operations_pos_iff (p := p) (o := o)
    have hle := length_offered_le o rest
    rcases hcount : p.operations.count o with _ | _ | more
    · rw [hcount] at hpos
      rw [if_neg fun hallows => Nat.lt_irrefl 0 (hpos.mpr hallows)]
      simp
    · rw [hcount] at hpos
      rw [if_pos (hpos.mp Nat.one_pos)]
      simp
    · rw [hcount] at hpos
      rw [if_pos (hpos.mp (Nat.succ_pos _))]
      constructor
      · intro h
        have hlength := congrArg List.length h
        rw [List.length_append, List.length_replicate, List.length_cons] at hlength
        omega
      · rintro ⟨honce, -⟩
        omega

private theorem offered_map_normalized (properties : List Property) (o : Operation) :
    Registry.offered (properties.map Property.normalized) o = Registry.offered properties o := by
  induction properties with
  | nil => rfl
  | cons p rest ih =>
    rw [List.map_cons, Registry.offered_cons, Registry.offered_cons, p.allows_normalized, ih]
    rfl

/-- For each kind of statement the stats count how often it is named, and list the key of a property
once for each time that it does. So they count and list the properties that allow the kind exactly
where no property names it twice; properties of which each kind is kept once are counted and listed
as they should be, whatever they were given. -/
theorem reports_iff_named_once (name table : String) (properties : List Property)
    (o : Operation) :
    let stats := ofProperties name table properties
    let named := (properties.map fun p => p.operations.count o).sum
    stats.distribution.lookup o = (if named = 0 then none else some named) ∧
    stats.mappings.lookup o =
      some (properties.flatMap fun p => List.replicate (p.operations.count o) p.key) ∧
    (stats.Reports o properties ↔ ∀ p ∈ properties, p.operations.count o ≤ 1) ∧
    (ofProperties name table (properties.map fun p => p.withOperations p.operations)).Reports o
      properties := by
  intro stats named
  refine ⟨?_, lookup_mappings name table properties o,
    reports_ofProperties_iff.trans keysOf_eq_offered_iff, ?_⟩
  · rw [lookup_distribution, count?, length_keysOf]
  · refine reports_ofProperties_iff.mpr ?_
    change keysOf o (properties.map Property.normalized) = _
    rw [← offered_map_normalized]
    refine keysOf_eq_offered_iff.mpr fun p hp => ?_
    obtain ⟨original, -, rfl⟩ := List.mem_map.mp hp
    rw [original.count_operations_normalized]
    split <;> decide

def titleTwice : Property := ⟨"title", .string, true, [.select, .select]⟩

/-- A property may be read that names a kind of statement twice. It is counted twice then. -/
theorem title_counted_twice :
    Property.decoder.ofText
        "\x7b\"key\":\"title\",\"type\":\"string\",\"operations\":[\"SELECT\",\"SELECT\"]\x7d" =
      .ok titleTwice ∧
    (ofProperties "posts" "posts" [titleTwice]).distribution = [(.select, 2)] ∧
    (ofProperties "posts" "posts" [titleTwice]).mappings.lookup .select =
      some ["title", "title"] ∧
    ([titleTwice].filter (·.allows .select)).length = 1 ∧
    ¬ (ofProperties "posts" "posts" [titleTwice]).Reports .select [titleTwice] := by
  refine ⟨by decide +kernel, by decide, by decide, by decide, ?_⟩
  rw [reports_ofProperties_iff, keysOf_eq_offered_iff]
  decide

end Stats

end TableSql
