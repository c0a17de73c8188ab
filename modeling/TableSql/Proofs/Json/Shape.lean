import TableSql.Proofs.Json.Decoding
import TableSql.Proofs.Outcome

/-! Options, maps and structures are decoded from the values that they are written as. -/

namespace TableSql.Json

variable {α σ : Type} {origin : Origin}

theorem taken_eq_ok_iff {step : Except Fault α} {a : α} : taken step = .ok a ↔ step = .ok a := by
  cases step <;> simp [taken, Except.mapError]

theorem Stop.finish_eq_ok_iff {stop : Stop} : stop.finish = .ok () ↔ stop = .closed := by
  cases stop <;> simp [Stop.finish]

namespace Decoder

theorem optional_of_ne_null {d : Decoder α} {j : Json} {a : α} (hnull : j ≠ .null)
    (h : d origin j.toRaw = .ok a) : optional d origin j.toRaw = .ok (some a) := by
  have hraw : j.toRaw = .null → False := by
    cases j with
    | null => exact absurd rfl hnull
    | _ => exact Raw.noConfusion
  rw [optional, h]
  · rfl
  · exact hraw

theorem optional_toRaw {d : Decoder α} {encode : α → Json} {o : Option α}
    (hnull : ∀ a, encode a ≠ .null) (h : ∀ a ∈ o, d origin (encode a).toRaw = .ok a) :
    optional d origin ((o.map encode).getD .null).toRaw = .ok o := by
  cases o with
  | none => rfl
  | some a => exact optional_of_ne_null (hnull a) (h a rfl)

theorem uint64_nat (n : UInt64) (expected : String) :
    uint64 expected origin (Json.nat n.toNat).toRaw = .ok n := by
  have hbounds : 0 ≤ (n.toNat : Int) ∧ (n.toNat : Int) ≤ (UInt64.size - 1 : Nat) := by
    have hlt := n.toNat_lt
    have hsize : UInt64.size - 1 = 18446744073709551615 := rfl
    omega
  have hread : upTo (UInt64.size - 1) expected origin (Json.nat n.toNat).toRaw = .ok n.toNat :=
    if_pos hbounds
  rw [uint64, hread]
  exact congrArg Except.ok UInt64.ofNat_toNat

private theorem mapM_members {d : Decoder α} {encode : α → Json} {members : List (String × α)}
    (h : ∀ member ∈ members, d origin (encode member.2).toRaw = .ok member.2) :
    (membersToRaw (members.map fun member => (member.1, encode member.2))).mapM
      (fun member => do
        let key ← taken member.1
        return (key, ← d origin member.2)) = .ok members := by
  induction members with
  | nil => rfl
  | cons member rest ih =>
    obtain ⟨hmember, hrest⟩ := List.forall_mem_cons.mp h
    rw [List.map_cons, membersToRaw, List.mapM_cons, ih hrest]
    change ((d origin (encode member.2).toRaw).bind fun a => .ok (member.1, a)).bind _ = _
    rw [hmember]
    rfl

/-- An object that is closed is read as entries in the order of the text, where each key is a text
and each member is read. -/
theorem entries_eq_ok_iff {d : Decoder α} {expected : String}
    {members : List (Except Fault String × Raw)} {stop : Stop} {read : List (String × α)} :
    entries d expected origin (.object members stop) = .ok read ↔
      ∃ inner, origin.enter = .ok inner ∧ stop = .closed ∧
        List.Forall₂ (fun member entry =>
          member.1 = .ok entry.1 ∧ d inner member.2 = .ok entry.2) members read := by
  rw [entries, bind_eq_ok_iff]
  refine exists_congr fun inner => and_congr_right fun _ => ?_
  rw [bind_eq_ok_iff]
  constructor
  · rintro ⟨_, hmembers, h⟩
    obtain ⟨_, hstop, hread⟩ := bind_eq_ok_iff.mp h
    obtain rfl := Except.ok.inj hread
    refine ⟨Stop.finish_eq_ok_iff.mp hstop, (mapM_eq_ok_iff.mp hmembers).imp ?_⟩
    intro member entry hentry
    obtain ⟨key, hkey, hheld⟩ := bind_eq_ok_iff.mp hentry
    obtain ⟨a, ha, hpair⟩ := bind_eq_ok_iff.mp hheld
    obtain rfl := Except.ok.inj hpair
    exact ⟨taken_eq_ok_iff.mp hkey, ha⟩
  · rintro ⟨rfl, hmembers⟩
    refine ⟨read, mapM_eq_ok_iff.mpr (hmembers.imp ?_), rfl⟩
    rintro ⟨key, held⟩ entry ⟨rfl, hheld⟩
    exact bind_eq_ok_iff.mpr ⟨entry.1, rfl, bind_eq_ok_iff.mpr ⟨entry.2, hheld, rfl⟩⟩

theorem entries_object {d : Decoder α} {encode : α → Json} {members : List (String × α)}
    {expected : String}
    (hroom : origin.Admits (object (members.map fun member => (member.1, encode member.2))).depth)
    (h : ∀ inner : Origin, ∀ member ∈ members, inner.Admits (encode member.2).depth →
      d inner (encode member.2).toRaw = .ok member.2) :
    entries d expected origin
      (object (members.map fun member => (member.1, encode member.2))).toRaw = .ok members := by
  obtain ⟨inner, henter, hinner⟩ := Origin.Admits.exists_enter hroom
  have hread := mapM_members fun member hmember =>
    h inner member hmember (hinner.mono (depth_le_membersDepth (List.mem_map_of_mem hmember)))
  rw [toRaw, entries, henter]
  simp only [bind, Except.bind] at hread ⊢
  rw [hread]
  rfl

end Decoder

namespace Shape

/-- A member under the name of a field that is not yet set sets it. -/
theorem readMembers_field {fields : List (Field σ)} {key : String} {d : Decoder α}
    {get : σ → Option α} {set : σ → α → σ} {j : Json} {a : α} {draft : σ}
    (hfield : fields.find? (·.name = key) = some (.of key d get set)) (hget : get draft = none)
    (hread : d origin j.toRaw = .ok a) (rest : List (String × Json)) :
    readMembers fields origin (membersToRaw ((key, j) :: rest)) draft =
      readMembers fields origin (membersToRaw rest) (set draft a) := by
  have hset : (Field.of key d get set).isSet draft = false := by
    change (get draft).isSome = false
    rw [hget, Option.isSome_none]
  have hstep : (Field.of key d get set).read origin j.toRaw draft = .ok (set draft a) := by
    change (d origin j.toRaw).map (set draft) = _
    rw [hread]
    rfl
  rw [membersToRaw, readMembers]
  simp only [taken, Except.mapError, bind, Except.bind, hfield, hset, hstep]
  rfl

/-- A structure is read from an object whose members set all that it is built from. -/
theorem decode_object {s : Shape σ α} {members : List (String × Json)} {draft : σ} {a : α}
    (hroom : origin.Admits (object members).depth)
    (hread : ∀ inner : Origin, inner.Admits (membersDepth members) →
      readMembers s.fields inner (membersToRaw members) s.draft = .ok draft)
    (hbuild : s.build draft = .ok a) : s.decode origin (object members).toRaw = .ok a := by
  obtain ⟨inner, henter, hinner⟩ := Origin.Admits.exists_enter hroom
  rw [toRaw, decode, henter]
  simp only [bind, Except.bind, hread inner hinner, Stop.finish, hbuild]
  rfl

end Shape

end TableSql.Json
