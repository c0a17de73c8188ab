import TableSql.Proofs.Json.Shape

/-! Whole values as trees: what is skipped, and what is taken because its numbers and strings can be
held. -/

namespace TableSql.Json

namespace Raw

def named (members : List (Except Fault String × Raw)) : List (String × Raw) :=
  members.filterMap fun member => member.1.toOption.map (·, member.2)

/-- Members all of whose keys are texts. -/
def keyed (entries : List (String × Raw)) : List (Except Fault String × Raw) :=
  entries.map fun entry => (.ok entry.1, entry.2)

/-- What an object holds under a key. A member that is absent is like null. -/
def member (key : String) : Raw → Raw
  | .object members _ => (Entries.get? key (named members)).getD .null
  | _ => .null

mutual

/-- Whether a tree is that of a whole value, of at most so many levels and with no key twice in an
object. A number in it need not be held, nor a string be a text. -/
def IsDocument : Nat → Raw → Prop
  | levels + 1, .array items stop => stop = .closed ∧ ItemsAre levels items
  | levels + 1, .object members stop =>
    stop = .closed ∧ (Entries.keys (named members)).Nodup ∧ MembersAre levels members
  | 0, .array .. | 0, .object .. | _, .broken .. => False
  | _, .null | _, .bool _ | _, .number _ | _, .string _ => True

def ItemsAre : Nat → List Raw → Prop
  | _, [] => True
  | levels, item :: rest => item.IsDocument levels ∧ ItemsAre levels rest

def MembersAre : Nat → List (Except Fault String × Raw) → Prop
  | _, [] => True
  | levels, (_, held) :: rest => held.IsDocument levels ∧ MembersAre levels rest

end

def HasTextKeys : Raw → Prop
  | .object members _ => ∀ member ∈ members, ∃ key, member.1 = .ok key
  | _ => True

/-- Whether a tree is that of a value, so that each number in it is held and each string a text. -/
def IsHeld (raw : Raw) : Prop := ∃ j : Json, j.toRaw = raw

theorem keyed_named {members : List (Except Fault String × Raw)}
    (h : ∀ member ∈ members, ∃ key, member.1 = .ok key) : keyed (named members) = members := by
  induction members with
  | nil => rfl
  | cons member rest ih =>
    obtain ⟨⟨key, hkey⟩, hrest⟩ := List.forall_mem_cons.mp h
    obtain ⟨_, held⟩ := member
    obtain rfl := hkey
    exact congrArg ((.ok key, held) :: ·) (ih hrest)

theorem itemsAre_iff {levels : Nat} {items : List Raw} :
    ItemsAre levels items ↔ ∀ item ∈ items, item.IsDocument levels := by
  induction items with
  | nil => simp [ItemsAre]
  | cons item rest ih => rw [ItemsAre, ih, List.forall_mem_cons]

theorem membersAre_iff {levels : Nat} {members : List (Except Fault String × Raw)} :
    MembersAre levels members ↔ ∀ member ∈ members, member.2.IsDocument levels := by
  induction members with
  | nil => simp [MembersAre]
  | cons member rest ih => rw [MembersAre, ih, List.forall_mem_cons]

theorem isDocument_null (levels : Nat) : Raw.null.IsDocument levels := by
  cases levels <;> trivial

theorem mem_of_mem_named {key : String} {held : Raw} {members : List (Except Fault String × Raw)}
    (h : (key, held) ∈ named members) : (.ok key, held) ∈ members := by
  obtain ⟨⟨found, held'⟩, hmem, hpair⟩ := List.mem_filterMap.mp h
  cases found with
  | error fault => cases hpair
  | ok key' =>
    cases hpair
    exact hmem

theorem isDocument_member {levels : Nat} {raw : Raw} (h : raw.IsDocument (levels + 1))
    (key : String) : (raw.member key).IsDocument levels := by
  cases raw with
  | object members stop =>
    rw [member]
    cases hget : Entries.get? key (named members) with
    | none => exact isDocument_null levels
    | some held =>
      exact membersAre_iff.mp h.2.2 _ (mem_of_mem_named (Entries.mem_of_get? hget))
  | _ => exact isDocument_null levels

theorem mismatch_ne_ok {α : Type} (raw : Raw) (expected : String) (a : α) :
    raw.mismatch expected ≠ .ok a := by
  intro h
  obtain ⟨_, -, h⟩ := bind_eq_ok_iff.mp h
  cases h

mutual

theorem skip_of_isDocument : ∀ {levels : Nat} (raw : Raw), raw.IsDocument levels →
    raw.skip = .ok ()
  | _, .null, _ | _, .bool _, _ | _, .number _, _ | _, .string _, _ => rfl
  | levels, .broken lead b, h => by cases levels <;> cases h
  | _ + 1, .array items stop, h => by
    obtain ⟨rfl, hitems⟩ := h
    rw [skip, skipItems_of_itemsAre items hitems]
    rfl
  | _ + 1, .object members stop, h => by
    obtain ⟨rfl, -, hmembers⟩ := h
    rw [skip, skipMembers_of_membersAre members hmembers]
    rfl

theorem skipItems_of_itemsAre : ∀ {levels : Nat} (items : List Raw), ItemsAre levels items →
    skipItems items = .ok ()
  | _, [], _ => rfl
  | _, item :: rest, h => by
    rw [skipItems, skip_of_isDocument item h.1]
    exact skipItems_of_itemsAre rest h.2

theorem skipMembers_of_membersAre : ∀ {levels : Nat} (members : List (Except Fault String × Raw)),
    MembersAre levels members → skipMembers members = .ok ()
  | _, [], _ => rfl
  | _, (_, held) :: rest, h => by
    rw [skipMembers, skip_of_isDocument held h.1]
    exact skipMembers_of_membersAre rest h.2

end

theorem skip_of_mem_named {levels : Nat} {members : List (Except Fault String × Raw)}
    (h : MembersAre levels members) : ∀ entry ∈ named members, entry.2.skip = .ok () :=
  fun entry hentry =>
    skip_of_isDocument entry.2 (membersAre_iff.mp h _ (mem_of_mem_named hentry))

end Raw

private theorem itemsToRaw_eq_map (items : List Json) : itemsToRaw items = items.map toRaw := by
  induction items with
  | nil => rfl
  | cons item rest ih => rw [itemsToRaw, ih, List.map_cons]

theorem membersToRaw_eq_map (members : List (String × Json)) :
    membersToRaw members = members.map fun member => (.ok member.1, member.2.toRaw) := by
  induction members with
  | nil => rfl
  | cons member rest ih => rw [membersToRaw, ih, List.map_cons]

theorem hasTextKeys_toRaw (j : Json) : j.toRaw.HasTextKeys := by
  cases j with
  | object members =>
    intro member hmember
    rw [membersToRaw_eq_map] at hmember
    obtain ⟨entry, -, rfl⟩ := List.mem_map.mp hmember
    exact ⟨entry.1, rfl⟩
  | _ => trivial

private theorem depth_le_of_isDocument {j : Json} {levels : Nat} (h : j.toRaw.IsDocument levels) :
    j.depth ≤ levels := by
  induction j using Json.induction generalizing levels with
  | array items ih =>
    cases levels with
    | zero => cases h
    | succ levels =>
      have hitems := Raw.itemsAre_iff.mp h.2
      rw [itemsToRaw_eq_map, List.forall_mem_map] at hitems
      rw [depth, Nat.add_le_add_iff_right, itemsDepth_le_iff]
      exact fun item hitem => ih item hitem (hitems item hitem)
  | object members ih =>
    cases levels with
    | zero => cases h
    | succ levels =>
      have hmembers := Raw.membersAre_iff.mp h.2.2
      rw [membersToRaw_eq_map, List.forall_mem_map] at hmembers
      rw [depth, Nat.add_le_add_iff_right, membersDepth_le_iff]
      exact fun member hmember => ih member hmember (hmembers member hmember)
  | _ => exact Nat.zero_le _

/-- There is one inside for an origin. -/
theorem Origin.exists_enter_iff {origin inner : Origin} (h : origin.enter = .ok inner)
    {P : Origin → Prop} : (∃ other, origin.enter = .ok other ∧ P other) ↔ P inner := by
  simp [h]

namespace Decoder

mutual

/-- Whatever is read as any value is the tree of one. -/
theorem exists_of_any : ∀ {origin : Origin} (raw : Raw) {j : Json}, any origin raw = .ok j →
    ∃ document : Json, document.toRaw = raw ∧ document.sortKeys = j
  | _, .null, _, h => ⟨.null, rfl, Except.ok.inj h⟩
  | _, .bool b, _, h => ⟨.bool b, rfl, Except.ok.inj h⟩
  | _, .number (some n), _, h => ⟨.number n, rfl, Except.ok.inj h⟩
  | _, .string content, _, h => by
    obtain ⟨s, rfl, rfl⟩ := map_eq_ok_iff.mp (taken_eq_ok_iff.mp h)
    exact ⟨.string s, rfl, rfl⟩
  | origin, .array items stop, _, h => by
    rw [any] at h
    obtain ⟨inner, -, h⟩ := bind_eq_ok_iff.mp h
    obtain ⟨read, hitems, h⟩ := bind_eq_ok_iff.mp h
    obtain ⟨_, hstop, h⟩ := bind_eq_ok_iff.mp h
    obtain rfl := Except.ok.inj h
    obtain rfl := Stop.finish_eq_ok_iff.mp hstop
    obtain ⟨documents, rfl, rfl⟩ := exists_of_anyItems items hitems
    exact ⟨.array documents, rfl, rfl⟩
  | origin, .object members stop, _, h => by
    rw [any] at h
    obtain ⟨inner, -, h⟩ := bind_eq_ok_iff.mp h
    obtain ⟨read, hmembers, h⟩ := bind_eq_ok_iff.mp h
    obtain ⟨_, hstop, h⟩ := bind_eq_ok_iff.mp h
    obtain rfl := Except.ok.inj h
    obtain rfl := Stop.finish_eq_ok_iff.mp hstop
    obtain ⟨documents, rfl, rfl⟩ := exists_of_anyMembers members hmembers
    exact ⟨.object documents, rfl, rfl⟩

theorem exists_of_anyItems : ∀ {origin : Origin} (items : List Raw) {read : List Json},
    anyItems origin items = .ok read →
      ∃ documents, itemsToRaw documents = items ∧ sortItems documents = read
  | _, [], _, h => ⟨[], rfl, Except.ok.inj h⟩
  | origin, item :: rest, _, h => by
    rw [anyItems] at h
    obtain ⟨j, hitem, h⟩ := bind_eq_ok_iff.mp h
    obtain ⟨others, hrest, h⟩ := bind_eq_ok_iff.mp h
    obtain rfl := Except.ok.inj h
    obtain ⟨document, rfl, rfl⟩ := exists_of_any item hitem
    obtain ⟨documents, rfl, rfl⟩ := exists_of_anyItems rest hrest
    exact ⟨document :: documents, rfl, rfl⟩

theorem exists_of_anyMembers : ∀ {origin : Origin} (members : List (Except Fault String × Raw))
    {read : List (String × Json)}, anyMembers origin members = .ok read →
      ∃ documents, membersToRaw documents = members ∧ sortMembers documents = read
  | _, [], _, h => ⟨[], rfl, Except.ok.inj h⟩
  | origin, (key, held) :: rest, _, h => by
    rw [anyMembers] at h
    obtain ⟨name, hkey, h⟩ := bind_eq_ok_iff.mp h
    obtain ⟨j, hheld, h⟩ := bind_eq_ok_iff.mp h
    obtain ⟨others, hrest, h⟩ := bind_eq_ok_iff.mp h
    obtain rfl := Except.ok.inj h
    obtain rfl := taken_eq_ok_iff.mp hkey
    obtain ⟨document, rfl, rfl⟩ := exists_of_any held hheld
    obtain ⟨documents, rfl, rfl⟩ := exists_of_anyMembers rest hrest
    exact ⟨(name, document) :: documents, rfl, rfl⟩

end

/-- A whole value that is not nested too deep is read if it is the tree of one that is held. -/
theorem any_eq_ok_iff {origin : Origin} {levels : Nat} {raw : Raw} {j : Json}
    (hroom : origin.Admits levels) (hraw : raw.IsDocument levels) :
    any origin raw = .ok j ↔ ∃ document : Json, document.toRaw = raw ∧ document.sortKeys = j := by
  constructor
  · exact exists_of_any raw
  · rintro ⟨document, rfl, rfl⟩
    exact any_toRaw document (hroom.mono (depth_le_of_isDocument hraw))

variable {α : Type} {origin : Origin} {raw : Raw}

/-- An option is null, or what is in it where that is not given as null too. -/
theorem optional_eq_ok_iff {d : Decoder α} {written : α → Raw}
    (hread : ∀ raw a, d origin raw = .ok a ↔ raw = written a) (hnull : ∀ a, written a ≠ .null)
    {o : Option α} :
    optional d origin raw = .ok o ↔
      raw = .null ∧ o = none ∨ ∃ a, raw = written a ∧ o = some a := by
  cases raw with
  | null => simp [optional, @eq_comm _ none o, fun a => (hnull a).symm]
  | _ => simp [optional, map_eq_ok_iff, hread, @eq_comm _ o]

theorem uint64_eq_ok_iff {expected : String} {n : UInt64} :
    uint64 expected origin raw = .ok n ↔ raw = .number (some (.integer n.toNat)) := by
  constructor
  · intro h
    obtain ⟨m, hm, rfl⟩ := map_eq_ok_iff.mp h
    unfold upTo at hm
    split at hm
    · next i =>
      split at hm
      · next hbounds =>
        obtain rfl := Except.ok.inj hm
        have hlt : i.toNat < UInt64.size := by
          have : UInt64.size - 1 = 18446744073709551615 := rfl
          have : UInt64.size = 18446744073709551616 := rfl
          omega
        rw [UInt64.toNat_ofNat_of_lt' hlt, Int.toNat_of_nonneg hbounds.1]
      · cases hm
    · exact absurd hm (Raw.mismatch_ne_ok _ _ _)
  · rintro rfl
    exact uint64_nat n expected

theorem string_eq_ok_iff {s : String} : string origin raw = .ok s ↔ raw = .string (.ok s) := by
  cases raw with
  | string content => simp [string, taken_eq_ok_iff]
  | _ => simp [string, Raw.mismatch_ne_ok]

theorem bool_eq_ok_iff {b : Bool} : bool origin raw = .ok b ↔ raw = .bool b := by
  cases raw with
  | bool b => simp [bool]
  | _ => simp [bool, Raw.mismatch_ne_ok]

/-- A text that holds one value is decoded as the tree of this value. -/
theorem run_of_ofSource {d : Decoder α} {source : Source}
    (h : Raw.ofSource source = (raw, .ok ())) : d.run source = d .whole raw := by
  rw [run, h]
  dsimp only
  cases d .whole raw <;> rfl

end Decoder

end TableSql.Json
