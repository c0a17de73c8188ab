import Mathlib.Data.List.GetD
import TableSql.Proofs.Filter.History
import TableSql.Proofs.Json.Fields
import TableSql.Proofs.Value.Json

/-! Filters in the body of a request: which trees are read as filters, and as what. -/

namespace TableSql

private theorem MatchMode.ofName?_eq_some_iff {name : String} {m : MatchMode} :
    ofName? name = some m ↔ name = m.name := by
  constructor
  · intro h
    have hname := List.find?_some h
    exact (of_decide_eq_true hname).symm
  · rintro rfl
    exact ofName?_name m

namespace Filter
open Json (Raw Origin)

/-- A part of a filter: the member of a name, or the item at a place of an array. -/
def part (name : String) (place : Nat) : Raw → Raw
  | .array items _ => items.getD place .null
  | raw => raw.member name

def HasForm : Raw → Prop
  | .object .. => True
  | .array items _ => items.length ≤ 2
  | _ => False

structure IsHeld (raw : Raw) : Prop where
  keys : raw.HasTextKeys
  value : (part "value" 0 raw).IsHeld
  mode : (part "matchMode" 1 raw).IsHeld

private theorem modeOfJson_sortKeys_eq_some_iff {j : Json} {m : MatchMode} :
    modeOfJson j.sortKeys = some m ↔ j.toRaw = .string (.ok m.name) := by
  cases j <;> simp [Json.sortKeys, modeOfJson, Json.toRaw, MatchMode.ofName?_eq_some_iff]

/-- What a tree is as a filter. -/
structure ReadAs (raw : Raw) (f : Filter) : Prop where
  value : ∃ j : Json, j.toRaw = part "value" 0 raw ∧ f.value = .ofJson j.sortKeys
  mode : ∀ m, f.mode = some m ↔ part "matchMode" 1 raw = .string (.ok m.name)

section Reading

variable {origin : Origin} {f : Filter}

theorem slot_value : Json.Shape.Slot shape.fields "value" Value.decoder Draft.value := by
  constructor <;> simp [shape, Json.Field.of, map_eq_ok_iff, map_map]

theorem slot_mode : Json.Shape.Slot shape.fields "matchMode"
    (fun origin raw => (Json.Decoder.any origin raw).map modeOfJson) Draft.mode := by
  constructor <;> simp [shape, Json.Field.of, map_eq_ok_iff, map_map]

def ofParts (value mode : Json) : Filter := ⟨.ofJson value, modeOfJson mode⟩

theorem decoder_object_eq_ok_iff {members : List (Except Json.Fault String × Raw)}
    (hdistinct : (Entries.keys (Raw.named members)).Nodup)
    (hskip : ∀ entry ∈ Raw.named members, entry.2.skip = .ok ()) :
    decoder origin (.object members .closed) = .ok f ↔
      ∃ inner, origin.enter = .ok inner ∧ (Raw.object members .closed).HasTextKeys ∧
        ∃ value mode,
          Json.Decoder.any inner ((Raw.object members .closed).member "value") = .ok value ∧
          Json.Decoder.any inner ((Raw.object members .closed).member "matchMode") = .ok mode ∧
          ofParts value mode = f := by
  have hparts {inner : Origin} {draft : Draft} {f : Filter}
      (hread : Json.Shape.readMembers shape.fields inner members {} = .ok draft)
      (hbuild : shape.build draft = .ok f) : ∃ value mode,
        Json.Decoder.any inner ((Raw.object members .closed).member "value") = .ok value ∧
        Json.Decoder.any inner ((Raw.object members .closed).member "matchMode") = .ok mode ∧
        ofParts value mode = f := by
    have hvalue := slot_value.decode_member hdistinct rfl rfl hread .closed
    have hmode := slot_mode.decode_member hdistinct rfl rfl hread .closed
    rw [Value.decoder_eq] at hvalue
    obtain ⟨value, hvalue, hvalue'⟩ := map_eq_ok_iff.mp hvalue
    obtain ⟨mode, hmode, hmode'⟩ := map_eq_ok_iff.mp hmode
    refine ⟨value, mode, hvalue, hmode, ?_⟩
    rw [ofParts, hvalue', hmode']
    exact Except.ok.inj hbuild
  constructor
  · intro h
    obtain ⟨inner, draft, henter, hread, -, hbuild⟩ := Json.Shape.decode_object_eq_ok_iff.mp h
    exact ⟨inner, henter, Json.Shape.hasTextKeys_of_readMembers hread _, hparts hread hbuild⟩
  · rintro ⟨inner, henter, hkeys, value, mode, hvalue, hmode, rfl⟩
    have hfields : ∀ field ∈ shape.fields,
        Json.Shape.CanRead shape.fields inner (Raw.named members) field.name :=
      List.forall_mem_cons.mpr
        ⟨slot_value.canRead (congrArg (Except.map Value.firstFit) hvalue),
          List.forall_mem_singleton.mpr
            (slot_mode.canRead (congrArg (Except.map modeOfJson) hmode))⟩
    have hunset : ∀ field ∈ shape.fields, field.isSet {} = false := by
      simp [shape, Json.Field.of]
    obtain ⟨draft, hread⟩ := Json.Shape.exists_readMembers hkeys hdistinct hunset hskip hfields
    obtain ⟨value', mode', hvalue', hmode', hf⟩ := hparts hread rfl
    obtain rfl := Except.ok.inj (hvalue.symm.trans hvalue')
    obtain rfl := Except.ok.inj (hmode.symm.trans hmode')
    exact Json.Shape.decode_object_eq_ok_iff.mpr
      ⟨inner, draft, henter, hread, rfl, congrArg Except.ok hf.symm⟩

/-- An array is read as a filter where it has no more items than a filter has parts. -/
theorem decoder_array_eq_ok_iff {items : List Raw} :
    decoder origin (.array items .closed) = .ok f ↔
      ∃ inner, origin.enter = .ok inner ∧ items.length ≤ 2 ∧ ∃ value mode,
        Json.Decoder.any inner (items.getD 0 .null) = .ok value ∧
        Json.Decoder.any inner (items.getD 1 .null) = .ok mode ∧ ofParts value mode = f := by
  rw [decoder, Json.Shape.decode_array_eq_ok_iff]
  refine exists_congr fun inner => ?_
  rw [exists_and_left]
  refine and_congr_right fun _ => ?_
  match items with
  | [] => simp [shape, Json.Shape.readItems, ofParts, Json.Decoder.any, Value.ofJson, modeOfJson]
  | [_] =>
    simp [shape, Json.Shape.readItems, Json.Field.of, bind_eq_ok_iff, map_eq_ok_iff,
      Value.decoder_eq, ofParts, Json.Decoder.any, modeOfJson]
  | [_, _] =>
    simp [shape, Json.Shape.readItems, Json.Field.of, bind_eq_ok_iff, map_eq_ok_iff,
      Value.decoder_eq, ofParts]
  | _ :: _ :: _ :: _ =>
    simp [shape, Json.Shape.readItems, Json.Field.of, bind_eq_ok_iff]

private theorem isDocument_part {levels : Nat} {raw : Raw} (h : raw.IsDocument (levels + 1))
    (name : String) (place : Nat) : (part name place raw).IsDocument levels := by
  cases raw with
  | array items stop =>
    rw [part]
    rcases lt_or_ge place items.length with hplace | hplace
    · rw [List.getD_eq_getElem _ _ hplace]
      exact Raw.itemsAre_iff.mp h.2 _ (List.getElem_mem hplace)
    · rw [List.getD_eq_default _ _ hplace]
      exact Raw.isDocument_null levels
  | _ => exact Raw.isDocument_member h name

theorem exists_parts_iff {inner : Origin} {levels : Nat} {raw : Raw} (hroom : inner.Admits levels)
    (hraw : raw.IsDocument (levels + 1)) :
    (∃ value mode, Json.Decoder.any inner (part "value" 0 raw) = .ok value ∧
        Json.Decoder.any inner (part "matchMode" 1 raw) = .ok mode ∧ ofParts value mode = f) ↔
      ∃ value mode : Json, value.toRaw = part "value" 0 raw ∧ mode.toRaw = part "matchMode" 1 raw ∧
        ofParts value.sortKeys mode.sortKeys = f := by
  simp only [Json.Decoder.any_eq_ok_iff hroom (isDocument_part hraw _ _)]
  constructor
  · rintro ⟨_, _, ⟨value, hvalue, rfl⟩, ⟨mode, hmode, rfl⟩, hf⟩
    exact ⟨value, mode, hvalue, hmode, hf⟩
  · rintro ⟨value, mode, hvalue, hmode, hf⟩
    exact ⟨_, _, ⟨value, hvalue, rfl⟩, ⟨mode, hmode, rfl⟩, hf⟩

/-- A filter is read from two parts, whichever form it has. -/
theorem decoder_eq_ok_iff {levels : Nat} {raw : Raw} (hroom : origin.Admits levels)
    (hraw : raw.IsDocument levels) :
    decoder origin raw = .ok f ↔ HasForm raw ∧ raw.HasTextKeys ∧ ∃ value mode : Json,
      value.toRaw = part "value" 0 raw ∧ mode.toRaw = part "matchMode" 1 raw ∧
      ofParts value.sortKeys mode.sortKeys = f := by
  cases raw with
  | object members stop =>
    cases levels with
    | zero => exact hraw.elim
    | succ levels =>
      obtain ⟨inner, henter, hinner⟩ := hroom.exists_enter
      rw [← exists_parts_iff hinner hraw]
      obtain ⟨rfl, hdistinct, hmembers⟩ := hraw
      rw [decoder_object_eq_ok_iff hdistinct (Raw.skip_of_mem_named hmembers),
        Origin.exists_enter_iff henter]
      exact (and_iff_right trivial).symm
  | array items stop =>
    cases levels with
    | zero => exact hraw.elim
    | succ levels =>
      obtain ⟨inner, henter, hinner⟩ := hroom.exists_enter
      rw [← exists_parts_iff hinner hraw]
      obtain ⟨rfl, -⟩ := hraw
      rw [decoder_array_eq_ok_iff, Origin.exists_enter_iff henter]
      exact and_congr_right fun _ => (and_iff_right trivial).symm
  | broken => cases levels <;> exact hraw.elim
  | _ => exact iff_of_false (Raw.mismatch_ne_ok _ _ _) fun h => h.1

/-- A whole value is read as a filter if it has the form of one and its parts can be held, and then
each part is what it is read as. -/
theorem decoder_spec {levels : Nat} {raw : Raw} (hroom : origin.Admits levels)
    (hraw : raw.IsDocument levels) :
    ((∃ f, decoder origin raw = .ok f) ↔ HasForm raw ∧ IsHeld raw) ∧
    ∀ f, decoder origin raw = .ok f → ReadAs raw f := by
  simp only [decoder_eq_ok_iff hroom hraw]
  refine ⟨⟨?_, ?_⟩, ?_⟩
  · rintro ⟨f, hform, hkeys, value, mode, hvalue, hmode, -⟩
    exact ⟨hform, hkeys, ⟨value, hvalue⟩, ⟨mode, hmode⟩⟩
  · rintro ⟨hform, hkeys, ⟨value, hvalue⟩, ⟨mode, hmode⟩⟩
    exact ⟨_, hform, hkeys, value, mode, hvalue, hmode, rfl⟩
  · rintro f ⟨-, -, value, mode, hvalue, hmode, rfl⟩
    refine ⟨⟨value, hvalue, rfl⟩, fun m => ?_⟩
    rw [← hmode]
    exact modeOfJson_sortKeys_eq_some_iff

end Reading

end Filter

namespace Filters
open Json (Raw Origin)

def HasForm : Raw → Prop
  | .null => True
  | .object members _ => ∀ member ∈ members, Filter.HasForm member.2
  | _ => False

def IsHeld : Raw → Prop
  | .object members _ =>
    ∀ member ∈ members, (∃ key, member.1 = .ok key) ∧ Filter.IsHeld member.2
  | _ => True

/-- What a tree is as filters: one for each member, in their order. -/
def ReadAs (raw : Raw) (fs : Filters) : Prop :=
  raw = .null ∧ fs = empty ∨ ∃ members, raw = .object members .closed ∧
    List.Forall₂ (fun member entry => member.1 = .ok entry.1 ∧ Filter.ReadAs member.2 entry.2)
      members fs.entries

theorem exists_forall₂_iff {α β : Type} {R : α → β → Prop} {as : List α} :
    (∃ bs, List.Forall₂ R as bs) ↔ ∀ a ∈ as, ∃ b, R a b := by
  induction as with
  | nil => simp
  | cons a rest ih =>
    rw [List.forall_mem_cons, ← ih]
    constructor
    · rintro ⟨_, _ | ⟨ha, hrest⟩⟩
      exact ⟨⟨_, ha⟩, _, hrest⟩
    · rintro ⟨⟨b, ha⟩, bs, hrest⟩
      exact ⟨b :: bs, .cons ha hrest⟩

private theorem keys_named_of_forall₂ {α : Type} {members : List (Except Json.Fault String × Raw)}
    {pairs : List (String × α)}
    (h : List.Forall₂ (fun member pair => member.1 = .ok pair.1) members pairs) :
    Entries.keys (Raw.named members) = Entries.keys pairs := by
  induction h with
  | nil => rfl
  | @cons member pair _ _ hmember _ ih =>
    obtain ⟨_, held⟩ := member
    obtain rfl := hmember
    exact congrArg (pair.1 :: ·) ih

section Reading

variable {origin inner : Origin} {members : List (Except Json.Fault String × Raw)} {fs : Filters}

private theorem decoder_of_ne_null {raw : Raw} (h : raw ≠ .null) :
    decoder origin raw =
      (Json.Decoder.entries Filter.decoder "a map of property name to filter" origin raw).map
        ofPairs := by
  cases raw with
  | null => exact absurd rfl h
  | _ => rfl

theorem null_or_object_of_decoder {raw : Raw} (h : decoder origin raw = .ok fs) :
    raw = .null ∨ ∃ members stop, raw = .object members stop := by
  cases raw with
  | null => exact .inl rfl
  | object members stop => exact .inr ⟨members, stop, rfl⟩
  | _ =>
    rw [decoder_of_ne_null Raw.noConfusion, map_eq_ok_iff] at h
    obtain ⟨_, hread, -⟩ := h
    exact absurd hread (Raw.mismatch_ne_ok _ _ _)

theorem exists_decoder_object_iff (henter : origin.enter = .ok inner) :
    (∃ fs, decoder origin (.object members .closed) = .ok fs) ↔
      ∀ member ∈ members,
        (∃ key, member.1 = .ok key) ∧ ∃ f, Filter.decoder inner member.2 = .ok f := by
  constructor
  · rintro ⟨fs, h⟩ member hmember
    obtain ⟨_, pairs, henter', -, hpairs, -⟩ := decoder_object_eq_ok_iff.mp h
    obtain rfl := Except.ok.inj (henter.symm.trans henter')
    obtain ⟨pair, hkey, hread⟩ := exists_forall₂_iff.mp ⟨pairs, hpairs⟩ member hmember
    exact ⟨⟨pair.1, hkey⟩, pair.2, hread⟩
  · intro h
    have hread : ∀ member ∈ members, ∃ pair : String × Filter,
        member.1 = .ok pair.1 ∧ Filter.decoder inner member.2 = .ok pair.2 := by
      intro member hmember
      obtain ⟨⟨key, hkey⟩, f, hf⟩ := h member hmember
      exact ⟨(key, f), hkey, hf⟩
    obtain ⟨pairs, hpairs⟩ := exists_forall₂_iff.mpr hread
    exact ⟨ofPairs pairs, decoder_object_eq_ok_iff.mpr ⟨inner, pairs, henter, rfl, hpairs, rfl⟩⟩

/-- With distinct keys the filters are those of the members, in their order. -/
theorem forall₂_of_decoder_object (henter : origin.enter = .ok inner)
    (hdistinct : (Entries.keys (Raw.named members)).Nodup)
    (h : decoder origin (.object members .closed) = .ok fs) :
    List.Forall₂ (fun member entry =>
      member.1 = .ok entry.1 ∧ Filter.decoder inner member.2 = .ok entry.2) members fs.entries := by
  obtain ⟨_, pairs, henter', -, hpairs, rfl⟩ := decoder_object_eq_ok_iff.mp h
  obtain rfl := Except.ok.inj (henter.symm.trans henter')
  rw [keys_named_of_forall₂ (hpairs.imp fun _ _ h => h.1)] at hdistinct
  have hentries : (ofPairs pairs).entries = pairs := entries_foldl_insert hdistinct
  rwa [hentries]

theorem decoder_spec {levels : Nat} {raw : Raw} (hroom : origin.Admits levels)
    (hraw : raw.IsDocument levels) :
    ((∃ fs, decoder origin raw = .ok fs) ↔ HasForm raw ∧ IsHeld raw) ∧
    ∀ fs, decoder origin raw = .ok fs → ReadAs raw fs := by
  cases raw with
  | null =>
    refine ⟨iff_of_true ⟨empty, rfl⟩ ⟨trivial, trivial⟩, fun fs h => .inl ⟨rfl, ?_⟩⟩
    exact (Except.ok.inj h).symm
  | object members stop =>
    cases levels with
    | zero => exact hraw.elim
    | succ levels =>
      obtain ⟨inner, henter, hinner⟩ := hroom.exists_enter
      obtain ⟨rfl, hdistinct, hmembers⟩ := hraw
      have hspec := fun member hmember =>
        Filter.decoder_spec hinner (Raw.membersAre_iff.mp hmembers member hmember)
      constructor
      · rw [exists_decoder_object_iff henter]
        constructor
        · intro h
          have hheld := fun member hmember => (hspec member hmember).1.mp (h member hmember).2
          exact ⟨fun member hmember => (hheld member hmember).1,
            fun member hmember => ⟨(h member hmember).1, (hheld member hmember).2⟩⟩
        · rintro ⟨hform, hheld⟩ member hmember
          obtain ⟨hkey, hheld⟩ := hheld member hmember
          exact ⟨hkey, (hspec member hmember).1.mpr ⟨hform member hmember, hheld⟩⟩
      · intro fs h
        have hread := (List.forall₂_and_left _ _).mpr
          ⟨fun member hmember => (hspec member hmember).2,
            forall₂_of_decoder_object henter hdistinct h⟩
        exact .inr ⟨members, rfl, hread.imp fun _ _ h => ⟨h.2.1, h.1 _ h.2.2⟩⟩
  | broken => cases levels <;> exact hraw.elim
  | _ =>
    refine ⟨iff_of_false ?_ fun h => h.1, fun fs h => ?_⟩
    · rintro ⟨fs, h⟩
      obtain h | ⟨_, _, h⟩ := null_or_object_of_decoder h <;> cases h
    · obtain h | ⟨_, _, h⟩ := null_or_object_of_decoder h <;> cases h

end Reading

end Filters

end TableSql
