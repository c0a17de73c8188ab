import Mathlib.Data.List.Nodup
import TableSql.Entity.Registry

/-! The columns that properties register for each kind of statement: the keys of the properties that
allow it, in the order in which each key first stands among them. -/

namespace TableSql

/-- Keys with one more at the end, unless it is among them. -/
def extended (keys : List String) (key : String) : List String :=
  if key ∈ keys then keys else keys ++ [key]

theorem mem_extended {keys : List String} {key other : String} :
    other ∈ extended keys key ↔ other ∈ keys ∨ other = key := by
  unfold extended
  split
  · next h =>
    constructor
    · exact .inl
    · rintro (hother | rfl)
      · exact hother
      · exact h
  · rw [List.mem_append, List.mem_singleton]

private theorem extended_extended (keys : List String) (key : String) :
    extended (extended keys key) key = extended keys key := by
  have hmem : key ∈ extended keys key := mem_extended.mpr (.inr rfl)
  exact if_pos hmem

theorem Sql.Columns.keys_add (columns : Columns) (key : String) :
    (columns.add key).keys = extended columns.keys key := by
  unfold extended
  split
  · next h => exact keys_add_of_mem h
  · next h => exact keys_add_of_not_mem h

/-- The keys of a list by first occurrence: each stands once, before those that the list has only
after it. -/
structure FirstOccurrences (offered keys : List String) : Prop where
  mem_iff : ∀ key, key ∈ keys ↔ key ∈ offered
  ordered : keys.Pairwise fun a b => offered.idxOf a < offered.idxOf b

namespace FirstOccurrences

theorem nil : FirstOccurrences [] [] := ⟨fun _ => Iff.rfl, .nil⟩

theorem nodup {offered keys : List String} (h : FirstOccurrences offered keys) : keys.Nodup :=
  h.ordered.imp fun hlt heq => absurd (congrArg offered.idxOf heq) (Nat.ne_of_lt hlt)

theorem append_singleton {offered keys : List String} (h : FirstOccurrences offered keys)
    (key : String) : FirstOccurrences (offered ++ [key]) (extended keys key) where
  mem_iff other := by
    rw [mem_extended, h.mem_iff, List.mem_append, List.mem_singleton]
  ordered := by
    -- A key keeps its index when more is offered behind it, and a new key comes after all of them.
    have hindex : ∀ a ∈ keys, (offered ++ [key]).idxOf a = offered.idxOf a := fun a ha =>
      List.idxOf_append_of_mem ((h.mem_iff a).mp ha)
    have hkeys : keys.Pairwise fun a b => (offered ++ [key]).idxOf a < (offered ++ [key]).idxOf b :=
      h.ordered.imp_of_mem fun {a b} ha hb hlt => by rwa [hindex a ha, hindex b hb]
    unfold extended
    split
    · exact hkeys
    · next hnew =>
      refine List.pairwise_append.mpr ⟨hkeys, List.pairwise_singleton _ _, fun a ha b hb => ?_⟩
      obtain rfl := List.mem_singleton.mp hb
      have hlt : offered.idxOf a < offered.length :=
        List.idxOf_lt_length_of_mem ((h.mem_iff a).mp ha)
      have hlast : offered.length ≤ (offered ++ [b]).idxOf b := by
        rw [List.idxOf_append_of_notMem fun hb => hnew ((h.mem_iff b).mpr hb)]
        exact Nat.le_add_right _ _
      rw [hindex a ha]
      exact Nat.lt_of_lt_of_le hlt hlast

theorem foldl_extended {offered keys : List String} (h : FirstOccurrences offered keys)
    (more : List String) : FirstOccurrences (offered ++ more) (more.foldl extended keys) := by
  induction more generalizing offered keys with
  | nil => rwa [List.append_nil]
  | cons key rest ih =>
    have hnext := ih (h.append_singleton key)
    rwa [List.append_assoc] at hnext

end FirstOccurrences

namespace Registry

def keys (r : Registry) : Operation → List String
  | .select => r.select.keys
  | .insert => r.insert.keys
  | .update => r.update.keys
  | .delete => []

def listed (r : Registry) : Operation → List Sql.Column
  | .select => r.select.toList
  | .insert => r.insert.toList
  | .update => r.update.toList
  | .delete => []

theorem listed_eq (r : Registry) (o : Operation) :
    r.listed o = (r.keys o).map fun key => ⟨key, Sql.Identifier.quote key⟩ := by
  cases o <;> rfl

private theorem keys_register (r : Registry) (key : String) (registered : Operation) {o : Operation}
    (ho : o ≠ .delete) :
    (r.register key registered).keys o =
      if registered = o then extended (r.keys o) key else r.keys o := by
  cases o with
  | delete => exact absurd rfl ho
  | _ => cases registered <;> simp [register, keys, Sql.Columns.keys_add]

/-- However often a property names a kind of statement, its key is registered for it once; the other
kinds that it names do not count. -/
theorem keys_registerProperty (r : Registry) (p : Property) {o : Operation} (ho : o ≠ .delete) :
    (r.registerProperty p).keys o =
      if p.allows o then extended (r.keys o) p.key else r.keys o := by
  unfold registerProperty Property.allows
  induction p.operations generalizing r with
  | nil => rfl
  | cons registered rest ih =>
    rw [List.foldl_cons, ih, keys_register r p.key registered ho, List.contains_cons]
    by_cases hregistered : registered = o
    · subst hregistered
      -- Where the rest names the kind once more, the key is there already.
      simp [extended_extended]
    · simp [hregistered, Ne.symm hregistered]

/-- The keys of the properties that allow a kind of statement, repeats included. -/
def offered (properties : List Property) (o : Operation) : List String :=
  (properties.filter (·.allows o)).map (·.key)

theorem offered_cons (p : Property) (rest : List Property) (o : Operation) :
    offered (p :: rest) o = if p.allows o then p.key :: offered rest o else offered rest o := by
  cases hallows : p.allows o <;> simp [offered, hallows]

theorem keys_ofProperties (properties : List Property) {o : Operation} (ho : o ≠ .delete) :
    (ofProperties properties).keys o = (offered properties o).foldl extended [] := by
  suffices ∀ r : Registry, (properties.foldl registerProperty r).keys o =
      (offered properties o).foldl extended (r.keys o) by
    have hempty : empty.keys o = [] := by cases o <;> rfl
    rw [ofProperties, this, hempty]
  induction properties with
  | nil => exact fun _ => rfl
  | cons p rest ih =>
    intro r
    rw [List.foldl_cons, ih, keys_registerProperty r p ho, offered_cons]
    split <;> rfl

theorem firstOccurrences_ofProperties (properties : List Property) {o : Operation}
    (ho : o ≠ .delete) :
    FirstOccurrences (offered properties o) ((ofProperties properties).keys o) := by
  rw [keys_ofProperties properties ho]
  exact FirstOccurrences.nil.foldl_extended _

private theorem mem_offered {properties : List Property} {key : String} {o : Operation} :
    key ∈ offered properties o ↔ ∃ p ∈ properties, p.key = key ∧ p.allows o := by
  unfold offered
  rw [List.mem_map]
  refine exists_congr fun p => ?_
  rw [List.mem_filter, and_assoc, and_comm (a := p.key = key)]

theorem mem_keys_ofProperties {properties : List Property} {key : String} {o : Operation}
    (ho : o ≠ .delete) :
    key ∈ (ofProperties properties).keys o ↔ ∃ p ∈ properties, p.key = key ∧ p.allows o :=
  ((firstOccurrences_ofProperties properties ho).mem_iff key).trans mem_offered

/-- For a kind of statement that concerns columns, the keys of the properties that allow it are
registered, each once and in the order in which each first stands among those properties, and each
column is written as the identifier of its key. What else the properties allow, and what properties
there are that do not allow it, makes no difference. -/
theorem registered_by_first_occurrence (properties : List Property) (o : Operation)
    (ho : o ≠ .delete) :
    let registered := ofProperties properties
    (∀ key, key ∈ registered.keys o ↔ ∃ p ∈ properties, p.key = key ∧ o ∈ p.operations) ∧
    (registered.keys o).Nodup ∧
    (registered.keys o).Pairwise (fun a b =>
      (offered properties o).idxOf a < (offered properties o).idxOf b) ∧
    registered.listed o = (registered.keys o).map (fun key => ⟨key, Sql.Identifier.quote key⟩) ∧
    ∀ others : List Property, offered others o = offered properties o →
      (ofProperties others).listed o = registered.listed o := by
  intro registered
  have hfirst := firstOccurrences_ofProperties properties ho
  refine ⟨fun key => ?_, hfirst.nodup, hfirst.ordered, registered.listed_eq o,
    fun others hoffered => ?_⟩
  · rw [mem_keys_ofProperties ho]
    simp only [Property.allows, List.contains_iff_mem]
  · rw [listed_eq, listed_eq, keys_ofProperties others ho, hoffered,
      ← keys_ofProperties properties ho]

theorem registered_bodyAndTitle :
    let title : Property := ⟨"title", .string, true, [.update, .select, .update]⟩
    let body : Property := ⟨"body", .string, true, [.insert, .delete, .insert]⟩
    let insertable : Property := ⟨"title", .string, false, [.insert]⟩
    let registered := ofProperties [title, body, insertable, body]
    Operation.insert ≠ .delete ∧
    registered.keys .insert = ["body", "title"] ∧
    ["body", "title"].Pairwise (fun a b =>
      ["body", "title", "body"].idxOf a < ["body", "title", "body"].idxOf b) ∧
    registered.listed .insert = [⟨"body", "body"⟩, ⟨"title", "title"⟩] ∧
    (ofProperties [body, insertable, body]).listed .insert = registered.listed .insert := by
  intro title body insertable registered
  have ho : Operation.insert ≠ .delete := by decide
  obtain ⟨-, -, hordered, hlisted, hothers⟩ :=
    registered_by_first_occurrence [title, body, insertable, body] .insert ho
  have hwritten : registered.listed .insert = [⟨"body", "body"⟩, ⟨"title", "title"⟩] :=
    hlisted.trans (by decide +kernel)
  exact ⟨ho, rfl, hordered, hwritten, hothers [body, insertable, body] rfl⟩

end Registry

end TableSql
