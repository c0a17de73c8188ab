import TableSql.Json.Decoding
import TableSql.Proofs.Entries
import TableSql.Proofs.Json.Tree

/-! What JSON values are decoded as from their own trees and texts: the same value, with the members
of its objects sorted. -/

namespace TableSql.Json

/-- What holds of a value if it holds of its items or of what its members hold. -/
@[elab_as_elim]
theorem induction {P : Json → Prop} (null : P .null) (bool : ∀ b, P (.bool b))
    (number : ∀ n, P (.number n)) (string : ∀ s, P (.string s))
    (array : ∀ items, (∀ item ∈ items, P item) → P (.array items))
    (object : ∀ members, (∀ member ∈ members, P member.2) → P (.object members)) :
    ∀ j, P j
  | .null => null
  | .bool b => bool b
  | .number n => number n
  | .string s => string s
  | .array items =>
    array items fun item _ => induction null bool number string array object item
  | .object members =>
    object members fun member _ => induction null bool number string array object member.2
termination_by j => sizeOf j
decreasing_by
  · have hlt := List.sizeOf_lt_of_mem ‹item ∈ items›
    rw [Json.array.sizeOf_spec]
    omega
  · have hlt := List.sizeOf_lt_of_mem ‹member ∈ members›
    have hheld : sizeOf member.2 < sizeOf member := by
      rw [Prod.mk.sizeOf_spec]
      omega
    rw [Json.object.sizeOf_spec]
    omega

mutual

/-- The levels of arrays and objects in a value. -/
def depth : Json → Nat
  | .array items => itemsDepth items + 1
  | .object members => membersDepth members + 1
  | _ => 0

def itemsDepth : List Json → Nat
  | [] => 0
  | item :: rest => max item.depth (itemsDepth rest)

def membersDepth : List (String × Json) → Nat
  | [] => 0
  | (_, held) :: rest => max held.depth (membersDepth rest)

end

mutual

/-- The members of every object stand in the order of their keys, each key once. -/
def KeysSorted : Json → Prop
  | .array items => ItemsSorted items
  | .object members => Entries.Sorted members ∧ MembersSorted members
  | _ => True

def ItemsSorted : List Json → Prop
  | [] => True
  | item :: rest => item.KeysSorted ∧ ItemsSorted rest

def MembersSorted : List (String × Json) → Prop
  | [] => True
  | (_, held) :: rest => held.KeysSorted ∧ MembersSorted rest

end

mutual

/-- The value with the members of every object in the order of their keys; of several with one key
the last counts. -/
def sortKeys : Json → Json
  | .array items => .array (sortItems items)
  | .object members => .object (Entries.sorted (sortMembers members))
  | j => j

def sortItems : List Json → List Json
  | [] => []
  | item :: rest => item.sortKeys :: sortItems rest

def sortMembers : List (String × Json) → List (String × Json)
  | [] => []
  | (key, held) :: rest => (key, held.sortKeys) :: sortMembers rest

end

section Parts

theorem itemsDepth_le_iff {items : List Json} {n : Nat} :
    itemsDepth items ≤ n ↔ ∀ item ∈ items, item.depth ≤ n := by
  induction items with
  | nil => simp [itemsDepth]
  | cons item rest ih => rw [itemsDepth, max_le_iff, ih, List.forall_mem_cons]

theorem membersDepth_le_iff {members : List (String × Json)} {n : Nat} :
    membersDepth members ≤ n ↔ ∀ member ∈ members, member.2.depth ≤ n := by
  induction members with
  | nil => simp [membersDepth]
  | cons member rest ih => rw [membersDepth, max_le_iff, ih, List.forall_mem_cons]

theorem depth_le_itemsDepth {item : Json} {items : List Json} (h : item ∈ items) :
    item.depth ≤ itemsDepth items :=
  itemsDepth_le_iff.mp le_rfl item h

theorem depth_le_membersDepth {key : String} {held : Json} {members : List (String × Json)}
    (h : (key, held) ∈ members) : held.depth ≤ membersDepth members :=
  membersDepth_le_iff.mp le_rfl (key, held) h

theorem itemsSorted_iff {items : List Json} :
    ItemsSorted items ↔ ∀ item ∈ items, item.KeysSorted := by
  induction items with
  | nil => simp [ItemsSorted]
  | cons item rest ih => rw [ItemsSorted, ih, List.forall_mem_cons]

theorem membersSorted_iff {members : List (String × Json)} :
    MembersSorted members ↔ ∀ member ∈ members, member.2.KeysSorted := by
  induction members with
  | nil => simp [MembersSorted]
  | cons member rest ih => rw [MembersSorted, ih, List.forall_mem_cons]

theorem sortItems_eq_map (items : List Json) : sortItems items = items.map sortKeys := by
  induction items with
  | nil => rfl
  | cons item rest ih => rw [sortItems, ih, List.map_cons]

theorem sortMembers_eq_map (members : List (String × Json)) :
    sortMembers members = members.map fun member => (member.1, member.2.sortKeys) := by
  induction members with
  | nil => rfl
  | cons member rest ih => rw [sortMembers, ih, List.map_cons]

theorem itemNumbers_eq_flatMap (items : List Json) : itemNumbers items = items.flatMap numbers := by
  induction items with
  | nil => rfl
  | cons item rest ih => rw [itemNumbers, ih, List.flatMap_cons]

theorem memberNumbers_eq_flatMap (members : List (String × Json)) :
    memberNumbers members = members.flatMap fun member => member.2.numbers := by
  induction members with
  | nil => rfl
  | cons member rest ih => rw [memberNumbers, ih, List.flatMap_cons]

/-- A member that is left after sorting was a member before, with its keys unsorted. -/
theorem exists_of_mem_sorted {member : String × Json} {members : List (String × Json)}
    (h : member ∈ Entries.sorted (sortMembers members)) :
    ∃ other ∈ members, member = (other.1, other.2.sortKeys) := by
  have hmem := Entries.mem_of_mem_sorted h
  rw [sortMembers_eq_map] at hmem
  obtain ⟨other, hother, rfl⟩ := List.mem_map.mp hmem
  exact ⟨other, hother, rfl⟩

end Parts

theorem keysSorted_sortKeys (j : Json) : j.sortKeys.KeysSorted := by
  induction j using Json.induction with
  | array items ih =>
    rw [sortKeys, KeysSorted, itemsSorted_iff, sortItems_eq_map]
    exact List.forall_mem_map.mpr ih
  | object members ih =>
    rw [sortKeys, KeysSorted, membersSorted_iff]
    refine ⟨Entries.sorted_sorted _, fun member hmember => ?_⟩
    obtain ⟨other, hother, rfl⟩ := exists_of_mem_sorted hmember
    exact ih other hother
  | _ => trivial

theorem sortKeys_eq_self {j : Json} (h : j.KeysSorted) : j.sortKeys = j := by
  induction j using Json.induction with
  | array items ih =>
    have hitems := itemsSorted_iff.mp h
    rw [sortKeys, sortItems_eq_map]
    refine congrArg _ ((List.map_congr_left fun item hitem => ?_).trans (List.map_id _))
    exact ih item hitem (hitems item hitem)
  | object members ih =>
    have hmembers := membersSorted_iff.mp h.2
    have hsame : sortMembers members = members := by
      rw [sortMembers_eq_map]
      refine (List.map_congr_left fun member hmember => ?_).trans (List.map_id _)
      rw [ih member hmember (hmembers member hmember)]
      rfl
    rw [sortKeys, hsame, Entries.sorted_eq_self h.1]
  | _ => rfl

theorem depth_sortKeys_le (j : Json) : j.sortKeys.depth ≤ j.depth := by
  induction j using Json.induction with
  | array items ih =>
    rw [sortKeys, depth, depth, Nat.add_le_add_iff_right, itemsDepth_le_iff, sortItems_eq_map]
    refine List.forall_mem_map.mpr fun item hitem => (ih item hitem).trans ?_
    exact depth_le_itemsDepth hitem
  | object members ih =>
    rw [sortKeys, depth, depth, Nat.add_le_add_iff_right, membersDepth_le_iff]
    intro member hmember
    obtain ⟨other, hother, rfl⟩ := exists_of_mem_sorted hmember
    exact (ih other hother).trans (depth_le_membersDepth hother)
  | _ => exact le_rfl

theorem mem_numbers_of_sortKeys {j : Json} {n : Number} (h : n ∈ j.sortKeys.numbers) :
    n ∈ j.numbers := by
  induction j using Json.induction with
  | array items ih =>
    rw [sortKeys, numbers, itemNumbers_eq_flatMap, sortItems_eq_map, List.mem_flatMap] at h
    obtain ⟨_, hsorted, hn⟩ := h
    obtain ⟨item, hitem, rfl⟩ := List.mem_map.mp hsorted
    rw [numbers, itemNumbers_eq_flatMap]
    exact List.mem_flatMap.mpr ⟨item, hitem, ih item hitem hn⟩
  | object members ih =>
    rw [sortKeys, numbers, memberNumbers_eq_flatMap, List.mem_flatMap] at h
    obtain ⟨member, hmember, hn⟩ := h
    obtain ⟨other, hother, rfl⟩ := exists_of_mem_sorted hmember
    rw [numbers, memberNumbers_eq_flatMap]
    exact List.mem_flatMap.mpr ⟨other, hother, ih other hother hn⟩
  | _ => exact h

theorem readsBack_of_mem {j : Json}
    (hintegers : ∀ i, .integer i ∈ j.numbers → -2 ^ 63 ≤ i ∧ i < 2 ^ 64)
    (hreals : ∀ d, .real d ∈ j.numbers → (Number.real d).ReadsBack) :
    ∀ n ∈ j.numbers, n.ReadsBack := by
  intro n hn
  cases n with
  | integer i => exact Number.readsBack_integer (hintegers i hn).1 (hintegers i hn).2
  | real d => exact hreals d hn

namespace Origin

/-- Whether values of so many levels are read. -/
def Admits : Origin → Nat → Prop
  | .text room, levels => levels < room
  | .value, _ => True

theorem Admits.mono {origin : Origin} {levels fewer : Nat} (h : origin.Admits levels)
    (hle : fewer ≤ levels) : origin.Admits fewer := by
  cases origin with
  | text room => exact hle.trans_lt h
  | value => trivial

theorem Admits.exists_enter {origin : Origin} {levels : Nat} (h : origin.Admits (levels + 1)) :
    ∃ inner, origin.enter = .ok inner ∧ inner.Admits levels := by
  cases origin with
  | text room =>
    have hroom : levels + 1 < room := h
    exact ⟨.text (room - 1), if_neg (by omega), Nat.lt_sub_of_add_lt hroom⟩
  | value => exact ⟨.value, rfl, trivial⟩

theorem admits_whole {levels : Nat} : Origin.whole.Admits levels ↔ levels ≤ 127 :=
  Nat.lt_succ_iff

end Origin

namespace Decoder

theorem anyItems_toRaw {origin : Origin} {items : List Json}
    (h : ∀ item ∈ items, any origin item.toRaw = .ok item.sortKeys) :
    anyItems origin (itemsToRaw items) = .ok (sortItems items) := by
  induction items with
  | nil => rfl
  | cons item rest ih =>
    obtain ⟨hitem, hrest⟩ := List.forall_mem_cons.mp h
    rw [itemsToRaw, anyItems, hitem, ih hrest]
    rfl

theorem anyMembers_toRaw {origin : Origin} {members : List (String × Json)}
    (h : ∀ member ∈ members, any origin member.2.toRaw = .ok member.2.sortKeys) :
    anyMembers origin (membersToRaw members) = .ok (sortMembers members) := by
  induction members with
  | nil => rfl
  | cons member rest ih =>
    obtain ⟨hmember, hrest⟩ := List.forall_mem_cons.mp h
    rw [membersToRaw, anyMembers, hmember, ih hrest]
    rfl

/-- Any value is read from its tree, if it is nested no deeper than may be read. -/
theorem any_toRaw (j : Json) {origin : Origin} (h : origin.Admits j.depth) :
    any origin j.toRaw = .ok j.sortKeys := by
  induction j using Json.induction generalizing origin with
  | array items ih =>
    obtain ⟨inner, henter, hinner⟩ := Origin.Admits.exists_enter h
    have hitems := anyItems_toRaw fun item hitem =>
      ih item hitem (hinner.mono (depth_le_itemsDepth hitem))
    rw [toRaw, any, henter]
    simp only [bind, Except.bind, hitems]
    rfl
  | object members ih =>
    obtain ⟨inner, henter, hinner⟩ := Origin.Admits.exists_enter h
    have hmembers := anyMembers_toRaw fun member hmember =>
      ih member hmember (hinner.mono (depth_le_membersDepth hmember))
    rw [toRaw, any, henter]
    simp only [bind, Except.bind, hmembers]
    rfl
  | _ => rfl

variable {α : Type}

/-- A value is read from its text as from its tree. -/
theorem run_source (d : Decoder α) {j : Json} (h : ∀ n ∈ j.numbers, n.ReadsBack) :
    d.run j.source = d .whole j.toRaw := by
  rw [run, ofSource_source h]
  dsimp only
  cases d .whole j.toRaw <;> rfl

theorem ofText_text (d : Decoder α) {j : Json} (h : ∀ n ∈ j.numbers, n.ReadsBack) :
    d.ofText j.text = d .whole j.toRaw :=
  run_source d h

theorem run_any_source {j : Json} (hnumbers : ∀ n ∈ j.numbers, n.ReadsBack)
    (hsorted : j.KeysSorted) (hdepth : j.depth ≤ 127) : any.run j.source = .ok j := by
  rw [run_source any hnumbers, any_toRaw j (Origin.admits_whole.mpr hdepth),
    sortKeys_eq_self hsorted]

end Decoder

end TableSql.Json
