import TableSql.Filter.Basic
import TableSql.Proofs.Json.Shape
import TableSql.Proofs.Value.Json

/-! Filters are read from the objects that they are written as, in their order. -/

namespace TableSql

namespace Filter
open Json (Origin)

def modeToJson : Option MatchMode → Json
  | some m => .string m.name
  | none => .null

def members (f : Filter) : List (String × Json) :=
  [("value", f.value.toJson), ("matchMode", modeToJson f.mode)]

theorem toJson_eq (f : Filter) : f.toJson = .object f.members := rfl

/-- A filter without a mode stays one, since null names none. -/
theorem mode_toRaw (mode : Option MatchMode) (origin : Origin) :
    (Json.Decoder.any origin (modeToJson mode).toRaw).map modeOfJson = .ok mode := by
  cases mode with
  | none => rfl
  | some m => exact congrArg Except.ok (MatchMode.ofName?_name m)

theorem readMembers_members {f : Filter} (h : f.value.IsRead) {origin : Origin}
    (hroom : origin.Admits (Json.membersDepth f.members)) :
    Json.Shape.readMembers shape.fields origin (Json.membersToRaw f.members) {} =
      .ok ⟨some f.value, some f.mode⟩ := by
  have hvalue : Value.decoder origin f.value.toJson.toRaw = .ok f.value :=
    h.decoder_toRaw (hroom.mono (Json.depth_le_membersDepth List.mem_cons_self))
  rw [members, Json.Shape.readMembers_field rfl rfl hvalue,
    Json.Shape.readMembers_field rfl rfl (mode_toRaw f.mode origin)]
  rfl

theorem decoder_toJson {f : Filter} (h : f.value.IsRead) {origin : Origin}
    (hroom : origin.Admits f.toJson.depth) : decoder origin f.toJson.toRaw = .ok f :=
  Json.Shape.decode_object hroom (fun _ hinner => readMembers_members h hinner) rfl

theorem isHeld_of_mem_numbers {f : Filter} (h : f.value.IsRead) {n : Json.Number}
    (hn : n ∈ f.toJson.numbers) : n.IsHeld := by
  rw [toJson_eq, Json.numbers, Json.memberNumbers_eq_flatMap, List.mem_flatMap] at hn
  obtain ⟨member, hmember, hn⟩ := hn
  rcases List.mem_cons.mp hmember with rfl | hmember
  · exact h.isHeld n hn
  · obtain rfl := List.mem_singleton.mp hmember
    cases hmode : f.mode <;> rw [hmode] at hn <;> cases hn

end Filter

namespace Filters
open Json (Origin)

private theorem put_of_not_mem {key : String} {f : Filter} {entries : List (String × Filter)}
    (h : key ∉ Entries.keys entries) : put key f entries = entries ++ [(key, f)] := by
  induction entries with
  | nil => rfl
  | cons entry rest ih =>
    have hne : entry.1 ≠ key := fun hkey => h (hkey ▸ List.mem_cons_self)
    rw [put, if_neg hne, ih fun hrest => h (List.mem_cons_of_mem _ hrest), List.cons_append]

theorem entries_foldl_insert {pairs : List (String × Filter)} {start : Filters}
    (h : (Entries.keys (start.entries ++ pairs)).Nodup) :
    (pairs.foldl (fun fs pair => fs.insert pair.1 pair.2) start).entries =
      start.entries ++ pairs := by
  induction pairs generalizing start with
  | nil => exact (List.append_nil _).symm
  | cons pair rest ih =>
    have hnew : pair.1 ∉ Entries.keys start.entries := by
      intro hmem
      rw [Entries.keys, List.map_append] at h
      exact (List.nodup_append.mp h).2.2 _ hmem _ List.mem_cons_self rfl
    have hinsert : (start.insert pair.1 pair.2).entries = start.entries ++ [pair] :=
      put_of_not_mem hnew
    rw [List.foldl_cons, ih, hinsert, List.append_assoc, List.singleton_append]
    rwa [hinsert, List.append_assoc, List.singleton_append]

theorem ofPairs_entries (fs : Filters) : ofPairs fs.entries = fs := by
  have hentries : (ofPairs fs.entries).entries = fs.entries := entries_foldl_insert fs.distinct
  cases fs
  rw [Filters.mk.injEq]
  exact hentries

theorem decoder_toJson {fs : Filters} (h : ∀ entry ∈ fs.entries, entry.2.value.IsRead)
    {origin : Origin} (hroom : origin.Admits fs.toJson.depth) :
    decoder origin fs.toJson.toRaw = .ok fs := by
  have hread : Json.Decoder.entries Filter.decoder "a map of property name to filter" origin
      fs.toJson.toRaw = .ok fs.entries :=
    Json.Decoder.entries_object hroom fun _ entry hentry => Filter.decoder_toJson (h entry hentry)
  change (Json.Decoder.entries _ _ _ _).map ofPairs = _
  rw [hread]
  exact congrArg Except.ok fs.ofPairs_entries

theorem isHeld_of_mem_numbers {fs : Filters} (h : ∀ entry ∈ fs.entries, entry.2.value.IsRead)
    {n : Json.Number} (hn : n ∈ fs.toJson.numbers) : n.IsHeld := by
  rw [toJson, Json.numbers, Json.memberNumbers_eq_flatMap, List.flatMap_map, List.mem_flatMap] at hn
  obtain ⟨entry, hentry, hn⟩ := hn
  exact Filter.isHeld_of_mem_numbers (h entry hentry) hn

end Filters

end TableSql
