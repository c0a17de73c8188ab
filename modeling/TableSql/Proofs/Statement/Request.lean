import TableSql.Proofs.Filter.Json
import TableSql.Statement.Request

/-! Requests are read from the objects that they are written as. -/

namespace TableSql

theorem Sql.SortOrder.decoder_text (order : Sql.SortOrder) (origin : Json.Origin) :
    decoder origin (Json.string order.text).toRaw = .ok order := by
  cases order <;> rfl

namespace SelectRequest

def members (r : SelectRequest) : List (String × Json) :=
  [ ("first", .nat r.first.toNat),
    ("rows", (r.rows.map fun n => Json.nat n.toNat).getD .null),
    ("sortField", (r.sortField.map Json.string).getD .null),
    ("sortOrder", .string r.sortOrder.text),
    ("filters", r.filters.toJson),
    ("pagination", .bool r.pagination) ]

theorem toJson_eq (r : SelectRequest) : r.toJson = .object r.members := rfl

/-- Each member sets the field of its name, and none is left as it was. -/
theorem readMembers_members {r : SelectRequest} {origin : Json.Origin}
    (hfilters : Filters.decoder origin r.filters.toJson.toRaw = .ok r.filters) :
    Json.Shape.readMembers shape.fields origin (Json.membersToRaw r.members) {} =
      .ok ⟨some r.first, some r.rows, some r.sortField, some r.sortOrder, some r.filters,
        some r.pagination⟩ := by
  have hfirst : Json.Decoder.optional (.uint64 "u64") origin (Json.nat r.first.toNat).toRaw =
      .ok (some r.first) :=
    Json.Decoder.optional_of_ne_null Json.noConfusion (Json.Decoder.uint64_nat r.first "u64")
  have hrows : Json.Decoder.optional (.uint64 "u64") origin
      ((r.rows.map fun n => Json.nat n.toNat).getD .null).toRaw = .ok r.rows :=
    Json.Decoder.optional_toRaw (fun _ => Json.noConfusion)
      fun n _ => Json.Decoder.uint64_nat n "u64"
  have hfield : Json.Decoder.optional .string origin
      ((r.sortField.map Json.string).getD .null).toRaw = .ok r.sortField :=
    Json.Decoder.optional_toRaw (fun _ => Json.noConfusion) fun _ _ => rfl
  have hpagination : Json.Decoder.optional .bool origin (Json.bool r.pagination).toRaw =
      .ok (some r.pagination) := rfl
  rw [members, Json.Shape.readMembers_field rfl rfl hfirst,
    Json.Shape.readMembers_field rfl rfl hrows, Json.Shape.readMembers_field rfl rfl hfield,
    Json.Shape.readMembers_field rfl rfl (r.sortOrder.decoder_text origin),
    Json.Shape.readMembers_field rfl rfl hfilters,
    Json.Shape.readMembers_field rfl rfl hpagination]
  rfl

theorem decoder_toJson {r : SelectRequest}
    (h : ∀ entry ∈ r.filters.entries, entry.2.value.IsRead) {origin : Json.Origin}
    (hroom : origin.Admits r.toJson.depth) : decoder origin r.toJson.toRaw = .ok r := by
  have hmem : ("filters", r.filters.toJson) ∈ r.members := by simp [members]
  have hread (inner : Json.Origin) (hinner : inner.Admits (Json.membersDepth r.members)) :=
    readMembers_members
      (Filters.decoder_toJson h (hinner.mono (Json.depth_le_membersDepth hmem)))
  exact Json.Shape.decode_object hroom hread rfl

theorem isHeld_of_mem_numbers {r : SelectRequest}
    (h : ∀ entry ∈ r.filters.entries, entry.2.value.IsRead) {n : Json.Number}
    (hn : n ∈ r.toJson.numbers) : n.IsHeld := by
  have hnat (m : UInt64) : (Json.Number.integer m.toNat).IsHeld := by
    have hlt := m.toNat_lt
    rw [Json.Number.IsHeld]
    omega
  rw [toJson_eq, Json.numbers, Json.memberNumbers_eq_flatMap, List.mem_flatMap] at hn
  obtain ⟨member, hmember, hn⟩ := hn
  simp only [members, List.mem_cons, List.not_mem_nil, or_false] at hmember
  obtain rfl | rfl | rfl | rfl | rfl | rfl := hmember
  · exact List.mem_singleton.mp hn ▸ hnat r.first
  · cases hrows : r.rows with
    | none =>
      rw [hrows] at hn
      cases hn
    | some rows =>
      rw [hrows] at hn
      exact List.mem_singleton.mp hn ▸ hnat rows
  · cases hfield : r.sortField <;> rw [hfield] at hn <;> cases hn
  · cases hn
  · exact Filters.isHeld_of_mem_numbers h hn
  · cases hn

/-- A request whose filters hold values that are read from JSON is read from what it is written as,
with its filters in their order: from the tree, unless it comes from a text and is nested too deep,
and from the text if the reals in it are ones that are read from their texts. -/
theorem read_as_written (r : SelectRequest)
    (h : ∀ entry ∈ r.filters.entries, entry.2.value.IsRead) :
    (∀ origin : Json.Origin, origin.Admits r.toJson.depth →
      decoder origin r.toJson.toRaw = .ok r) ∧
    (r.toJson.depth ≤ 127 →
      (∀ d, .real d ∈ r.toJson.numbers → (Json.Number.real d).ReadsBack) →
      decoder.ofText r.toJson.text = .ok r) := by
  refine ⟨fun _ => decoder_toJson h, fun hdepth hreals => ?_⟩
  rw [Json.Decoder.ofText_text decoder
    (Json.readsBack_of_mem (fun _ hi => isHeld_of_mem_numbers h hi) hreals)]
  exact decoder_toJson h (Json.Origin.admits_whole.mpr hdepth)

def halves : Value := .array [.json (.object [("rate", .number (.real ⟨0x3FE0000000000000⟩))])]

/-- A page of no rows, in descending order, with a filter without a mode before one with a mode. -/
def lastPersons : SelectRequest where
  first := 20
  rows := some 0
  sortField := some "age"
  sortOrder := .descending
  filters :=
    { entries := [("tags", ⟨halves, none⟩), ("name", ⟨.text "J", some .startsWith⟩)]
      distinct := by decide }
  pagination := true

theorem lastPersons_read_as_written :
    decoder .value lastPersons.toJson.toRaw = .ok lastPersons ∧
      decoder.ofText lastPersons.toJson.text = .ok lastPersons := by
  have htags : halves.IsRead :=
    ⟨.array [.object [("rate", .number (.real ⟨0x3FE0000000000000⟩))]],
      ⟨⟨List.pairwise_singleton _ _, trivial, trivial⟩, trivial⟩,
      List.forall_mem_singleton.mpr rfl, rfl⟩
  have hname : (Value.text "J").IsRead := ⟨.string "J", trivial, List.forall_mem_nil _, rfl⟩
  obtain ⟨htree, htext⟩ := read_as_written lastPersons
    (List.forall_mem_cons.mpr ⟨htags, List.forall_mem_singleton.mpr hname⟩)
  refine ⟨htree .value trivial, htext (by decide) fun d hd => ?_⟩
  have hnumbers : lastPersons.toJson.numbers =
      [.integer 20, .integer 0, .real ⟨0x3FE0000000000000⟩] := rfl
  obtain rfl : d = ⟨0x3FE0000000000000⟩ := by simpa [hnumbers] using hd
  have hhalf : (Json.Number.real ⟨0x3FE0000000000000⟩).text = "0.5" := by decide +kernel
  rw [Json.Number.ReadsBack, hhalf]
  rfl

end SelectRequest

end TableSql
