import TableSql.Proofs.Filter.Body
import TableSql.Proofs.Statement.Request

/-! Bodies of requests: which objects are read as a request, and as what. -/

namespace TableSql

open Json (Raw Origin)

namespace Json.Raw

/-- Null or an integer of 64 bits without a sign. -/
def IsCount : Raw → Prop
  | .null => True
  | .number (some (.integer i)) => 0 ≤ i ∧ i < 2 ^ 64
  | _ => False

/-- Null or a string. -/
def IsName : Raw → Prop
  | .null | .string _ => True
  | _ => False

/-- Null or a boolean. -/
def IsFlag : Raw → Prop
  | .null | .bool _ => True
  | _ => False

end Json.Raw

namespace Json.Decoder

variable {origin : Origin} {raw : Raw}

theorem count_eq_ok_iff {expected : String} {o : Option UInt64} :
    optional (.uint64 expected) origin raw = .ok o ↔
      raw = .null ∧ o = none ∨ ∃ n : UInt64, raw = .number (some (.integer n.toNat)) ∧ o = some n :=
  optional_eq_ok_iff (fun _ _ => uint64_eq_ok_iff) fun _ => Raw.noConfusion

theorem exists_count_iff {expected : String} :
    (∃ o, optional (.uint64 expected) origin raw = .ok o) ↔ raw.IsCount := by
  simp only [count_eq_ok_iff]
  constructor
  · rintro ⟨_, ⟨rfl, -⟩ | ⟨n, rfl, -⟩⟩
    · trivial
    · have hlt := n.toNat_lt
      exact ⟨Int.natCast_nonneg _, by omega⟩
  · intro h
    unfold Raw.IsCount at h
    split at h
    · exact ⟨none, .inl ⟨rfl, rfl⟩⟩
    · next i =>
      refine ⟨some (UInt64.ofNat i.toNat), .inr ⟨UInt64.ofNat i.toNat, ?_, rfl⟩⟩
      rw [UInt64.toNat_ofNat_of_lt' (by have : UInt64.size = 2 ^ 64 := rfl; omega),
        Int.toNat_of_nonneg h.1]
    · exact h.elim

theorem name_eq_ok_iff {o : Option String} :
    optional string origin raw = .ok o ↔
      raw = .null ∧ o = none ∨ ∃ name, raw = .string (.ok name) ∧ o = some name :=
  optional_eq_ok_iff (fun _ _ => string_eq_ok_iff) fun _ => Raw.noConfusion

theorem exists_name_iff :
    (∃ o, optional string origin raw = .ok o) ↔ raw.IsName ∧ raw.IsHeld := by
  simp only [name_eq_ok_iff]
  constructor
  · rintro ⟨_, ⟨rfl, -⟩ | ⟨name, rfl, -⟩⟩
    · exact ⟨trivial, .null, rfl⟩
    · exact ⟨trivial, .string name, rfl⟩
  · rintro ⟨hname, j, rfl⟩
    cases j with
    | null => exact ⟨none, .inl ⟨rfl, rfl⟩⟩
    | string name => exact ⟨some name, .inr ⟨name, rfl, rfl⟩⟩
    | _ => exact hname.elim

theorem flag_eq_ok_iff {o : Option Bool} :
    optional bool origin raw = .ok o ↔
      raw = .null ∧ o = none ∨ ∃ b, raw = .bool b ∧ o = some b :=
  optional_eq_ok_iff (fun _ _ => bool_eq_ok_iff) fun _ => Raw.noConfusion

theorem exists_flag_iff : (∃ o, optional bool origin raw = .ok o) ↔ raw.IsFlag := by
  simp only [flag_eq_ok_iff]
  cases raw <;> simp [Raw.IsFlag]

end Json.Decoder

namespace Sql.SortOrder

private theorem eq_of_ofJson_eq_descending {j : Json} (h : ofJson j = .descending) :
    j = .string "DESC" ∨ j = .number (.integer (-1)) := by
  unfold ofJson at h
  split at h
  · exact .inl rfl
  · exact .inr rfl
  · cases h

/-- Sorting keys makes no order of what was none. -/
theorem ofJson_sortKeys_eq_descending_iff {j : Json} :
    ofJson j.sortKeys = .descending ↔
      j.toRaw = .string (.ok "DESC") ∨ j.toRaw = .number (some (.integer (-1))) := by
  constructor
  · intro h
    have hsorted := eq_of_ofJson_eq_descending h
    cases j with
    | string s => simpa [Json.toRaw, Json.sortKeys] using hsorted
    | number n => simpa [Json.toRaw, Json.sortKeys] using hsorted
    | _ => rcases hsorted with h | h <;> cases h
  · intro h
    cases j with
    | string s =>
      obtain rfl : s = "DESC" := by simpa [Json.toRaw] using h
      rfl
    | number n =>
      obtain rfl : n = .integer (-1) := by simpa [Json.toRaw] using h
      rfl
    | _ => rcases h with h | h <;> cases h

/-- Whatever can be held is read as an order, and only two values as descending. -/
theorem decoder_spec {origin : Origin} {levels : Nat} {raw : Raw} (hroom : origin.Admits levels)
    (hraw : raw.IsDocument levels) :
    ((∃ order, decoder origin raw = .ok order) ↔ raw.IsHeld) ∧
    ∀ order, decoder origin raw = .ok order → (order = .descending ↔
      raw = .string (.ok "DESC") ∨ raw = .number (some (.integer (-1)))) := by
  simp only [decoder, map_eq_ok_iff, Json.Decoder.any_eq_ok_iff hroom hraw]
  refine ⟨⟨?_, ?_⟩, ?_⟩
  · rintro ⟨_, _, ⟨document, hdocument, -⟩, -⟩
    exact ⟨document, hdocument⟩
  · rintro ⟨document, hdocument⟩
    exact ⟨_, _, ⟨document, hdocument, rfl⟩, rfl⟩
  · rintro _ ⟨_, ⟨document, rfl, rfl⟩, rfl⟩
    exact ofJson_sortKeys_eq_descending_iff

end Sql.SortOrder

namespace SelectRequest

structure HasForm (body : Raw) : Prop where
  first : (body.member "first").IsCount
  rows : (body.member "rows").IsCount
  sortField : (body.member "sortField").IsName
  filters : Filters.HasForm (body.member "filters")
  pagination : (body.member "pagination").IsFlag

structure IsHeld (body : Raw) : Prop where
  keys : body.HasTextKeys
  sortField : (body.member "sortField").IsHeld
  sortOrder : (body.member "sortOrder").IsHeld
  filters : Filters.IsHeld (body.member "filters")

structure ReadAs (body : Raw) (r : SelectRequest) : Prop where
  first : body.member "first" = .null ∧ r.first = 0 ∨
    body.member "first" = .number (some (.integer r.first.toNat))
  rows : body.member "rows" = .null ∧ r.rows = none ∨
    ∃ n, body.member "rows" = .number (some (.integer n.toNat)) ∧ r.rows = some n
  sortField : body.member "sortField" = .null ∧ r.sortField = none ∨
    ∃ name, body.member "sortField" = .string (.ok name) ∧ r.sortField = some name
  sortOrder : r.sortOrder = .descending ↔
    body.member "sortOrder" = .string (.ok "DESC") ∨
      body.member "sortOrder" = .number (some (.integer (-1)))
  filters : Filters.ReadAs (body.member "filters") r.filters
  pagination : body.member "pagination" = .null ∧ r.pagination = false ∨
    body.member "pagination" = .bool r.pagination

/-- What the members of an object are decoded as, each by the decoder of its field. -/
structure Decoded (inner : Origin) (body : Raw) (r : SelectRequest) : Prop where
  first : (Json.Decoder.optional (.uint64 "u64") inner (body.member "first")).map
    (fun n => n.getD all.first) = .ok r.first
  rows : Json.Decoder.optional (.uint64 "u64") inner (body.member "rows") = .ok r.rows
  sortField : Json.Decoder.optional .string inner (body.member "sortField") = .ok r.sortField
  sortOrder : Sql.SortOrder.decoder inner (body.member "sortOrder") = .ok r.sortOrder
  filters : Filters.decoder inner (body.member "filters") = .ok r.filters
  pagination : (Json.Decoder.optional .bool inner (body.member "pagination")).map
    (fun b => b.getD all.pagination) = .ok r.pagination

theorem Decoded.eq {inner : Origin} {body : Raw} {r r' : SelectRequest} (h : Decoded inner body r)
    (h' : Decoded inner body r') : r = r' := by
  obtain ⟨first, rows, sortField, sortOrder, filters, pagination⟩ := r
  obtain ⟨first', rows', sortField', sortOrder', filters', pagination'⟩ := r'
  obtain rfl : first = first' := Except.ok.inj (h.first.symm.trans h'.first)
  obtain rfl : rows = rows' := Except.ok.inj (h.rows.symm.trans h'.rows)
  obtain rfl : sortField = sortField' := Except.ok.inj (h.sortField.symm.trans h'.sortField)
  obtain rfl : sortOrder = sortOrder' := Except.ok.inj (h.sortOrder.symm.trans h'.sortOrder)
  obtain rfl : filters = filters' := Except.ok.inj (h.filters.symm.trans h'.filters)
  obtain rfl : pagination = pagination' := Except.ok.inj (h.pagination.symm.trans h'.pagination)
  rfl

section Slots
open Json.Shape (Slot)

theorem slot_first : Slot shape.fields "first"
    (fun origin raw => (Json.Decoder.optional (.uint64 "u64") origin raw).map
      fun n => n.getD all.first) Draft.first := by
  constructor <;> simp [shape, Json.Field.of, map_eq_ok_iff, map_map]

theorem slot_rows : Slot shape.fields "rows" (.optional (.uint64 "u64")) Draft.rows := by
  constructor <;> simp [shape, Json.Field.of, map_eq_ok_iff, map_map]

theorem slot_sortField : Slot shape.fields "sortField" (.optional .string) Draft.sortField := by
  constructor <;> simp [shape, Json.Field.of, map_eq_ok_iff, map_map]

theorem slot_sortOrder : Slot shape.fields "sortOrder" Sql.SortOrder.decoder Draft.sortOrder := by
  constructor <;> simp [shape, Json.Field.of, map_eq_ok_iff, map_map]

theorem slot_filters : Slot shape.fields "filters" Filters.decoder Draft.filters := by
  constructor <;> simp [shape, Json.Field.of, map_eq_ok_iff, map_map]

theorem slot_pagination : Slot shape.fields "pagination"
    (fun origin raw => (Json.Decoder.optional .bool origin raw).map
      fun b => b.getD all.pagination) Draft.pagination := by
  constructor <;> simp [shape, Json.Field.of, map_eq_ok_iff, map_map]

end Slots

section Reading

variable {origin : Origin} {r : SelectRequest}

/-- An object is read as a request where its keys are texts and its members are decoded. -/
theorem decoder_object_eq_ok_iff {members : List (Except Json.Fault String × Raw)}
    (hdistinct : (Entries.keys (Raw.named members)).Nodup)
    (hskip : ∀ entry ∈ Raw.named members, entry.2.skip = .ok ()) :
    decoder origin (.object members .closed) = .ok r ↔
      ∃ inner, origin.enter = .ok inner ∧ (Raw.object members .closed).HasTextKeys ∧
        Decoded inner (.object members .closed) r := by
  have hdecoded {inner : Origin} {draft : Draft} {r : SelectRequest}
      (hread : Json.Shape.readMembers shape.fields inner members {} = .ok draft)
      (hbuild : shape.build draft = .ok r) : Decoded inner (.object members .closed) r := by
    obtain rfl := Except.ok.inj hbuild
    exact
      { first := slot_first.decode_member hdistinct rfl rfl hread _
        rows := slot_rows.decode_member hdistinct rfl rfl hread _
        sortField := slot_sortField.decode_member hdistinct rfl rfl hread _
        sortOrder := slot_sortOrder.decode_member hdistinct rfl rfl hread _
        filters := slot_filters.decode_member hdistinct rfl rfl hread _
        pagination := slot_pagination.decode_member hdistinct rfl rfl hread _ }
  constructor
  · intro h
    obtain ⟨inner, draft, henter, hread, -, hbuild⟩ := Json.Shape.decode_object_eq_ok_iff.mp h
    exact ⟨inner, henter, Json.Shape.hasTextKeys_of_readMembers hread _, hdecoded hread hbuild⟩
  · rintro ⟨inner, henter, hkeys, h⟩
    have hfields : ∀ field ∈ shape.fields,
        Json.Shape.CanRead shape.fields inner (Raw.named members) field.name := by
      simp only [shape, List.mem_cons, List.not_mem_nil, or_false, forall_eq_or_imp, forall_eq]
      exact ⟨slot_first.canRead h.first, slot_rows.canRead h.rows,
        slot_sortField.canRead h.sortField, slot_sortOrder.canRead h.sortOrder,
        slot_filters.canRead h.filters, slot_pagination.canRead h.pagination⟩
    have hunset : ∀ field ∈ shape.fields, field.isSet {} = false := by
      simp [shape, Json.Field.of]
    obtain ⟨draft, hread⟩ := Json.Shape.exists_readMembers hkeys hdistinct hunset hskip hfields
    have hbuild : shape.build draft = .ok r := congrArg Except.ok ((hdecoded hread rfl).eq h)
    exact Json.Shape.decode_object_eq_ok_iff.mpr ⟨inner, draft, henter, hread, rfl, hbuild⟩

private theorem exists_decoded_iff {inner : Origin} {levels : Nat} {body : Raw}
    (hroom : inner.Admits levels) (hbody : body.IsDocument (levels + 1)) :
    (∃ r, Decoded inner body r) ↔
      HasForm body ∧ (body.member "sortField").IsHeld ∧ (body.member "sortOrder").IsHeld ∧
        Filters.IsHeld (body.member "filters") := by
  have hfilters := (Filters.decoder_spec hroom (Raw.isDocument_member hbody "filters")).1
  have horder := (Sql.SortOrder.decoder_spec hroom (Raw.isDocument_member hbody "sortOrder")).1
  constructor
  · rintro ⟨r, h⟩
    obtain ⟨first, hfirst, -⟩ := map_eq_ok_iff.mp h.first
    obtain ⟨flag, hflag, -⟩ := map_eq_ok_iff.mp h.pagination
    obtain ⟨hname, hheld⟩ := Json.Decoder.exists_name_iff.mp ⟨_, h.sortField⟩
    obtain ⟨hform, hfiltersHeld⟩ := hfilters.mp ⟨_, h.filters⟩
    exact
      ⟨{ first := Json.Decoder.exists_count_iff.mp ⟨_, hfirst⟩
         rows := Json.Decoder.exists_count_iff.mp ⟨_, h.rows⟩
         sortField := hname
         filters := hform
         pagination := Json.Decoder.exists_flag_iff.mp ⟨_, hflag⟩ },
        hheld, horder.mp ⟨_, h.sortOrder⟩, hfiltersHeld⟩
  · rintro ⟨hform, hnameHeld, horderHeld, hfiltersHeld⟩
    obtain ⟨first, hfirst⟩ := Json.Decoder.exists_count_iff.mpr hform.first
    obtain ⟨rows, hrows⟩ := Json.Decoder.exists_count_iff.mpr hform.rows
    obtain ⟨name, hname⟩ := Json.Decoder.exists_name_iff.mpr ⟨hform.sortField, hnameHeld⟩
    obtain ⟨order, horder⟩ := horder.mpr horderHeld
    obtain ⟨fs, hfs⟩ := hfilters.mpr ⟨hform.filters, hfiltersHeld⟩
    obtain ⟨flag, hflag⟩ := Json.Decoder.exists_flag_iff.mpr hform.pagination
    exact ⟨⟨first.getD all.first, rows, name, order, fs, flag.getD all.pagination⟩,
      congrArg _ hfirst, hrows, hname, horder, hfs, congrArg _ hflag⟩

theorem Decoded.readAs {inner : Origin} {levels : Nat} {body : Raw} (h : Decoded inner body r)
    (hroom : inner.Admits levels) (hbody : body.IsDocument (levels + 1)) : ReadAs body r where
  first := by
    obtain ⟨o, hfirst, ho⟩ := map_eq_ok_iff.mp h.first
    rcases Json.Decoder.count_eq_ok_iff.mp hfirst with ⟨hnull, rfl⟩ | ⟨n, hn, rfl⟩
    · exact .inl ⟨hnull, ho.symm⟩
    · exact .inr (ho ▸ hn)
  rows := Json.Decoder.count_eq_ok_iff.mp h.rows
  sortField := Json.Decoder.name_eq_ok_iff.mp h.sortField
  sortOrder :=
    (Sql.SortOrder.decoder_spec hroom (Raw.isDocument_member hbody "sortOrder")).2 _ h.sortOrder
  filters := (Filters.decoder_spec hroom (Raw.isDocument_member hbody "filters")).2 _ h.filters
  pagination := by
    obtain ⟨o, hflag, ho⟩ := map_eq_ok_iff.mp h.pagination
    rcases Json.Decoder.flag_eq_ok_iff.mp hflag with ⟨hnull, rfl⟩ | ⟨b, hb, rfl⟩
    · exact .inl ⟨hnull, ho.symm⟩
    · exact .inr (ho ▸ hb)

/-- A text that is one whole object, nested at most 127 levels deep and with no key twice in an
object, is read as a request just if it has the form of one and what is read of it can be held. The
form asks nothing of the order, of the values and modes of filters and of members of other names,
and these last need not be held either. -/
theorem read_body_iff {source : Json.Source} {members : List (Except Json.Fault String × Raw)}
    (hsource : Raw.ofSource source = (.object members .closed, .ok ()))
    (hbody : (Raw.object members .closed).IsDocument 127) :
    ((∃ r, decoder.run source = .ok r) ↔
      HasForm (.object members .closed) ∧ IsHeld (.object members .closed)) ∧
    ∀ r, decoder.run source = .ok r → ReadAs (.object members .closed) r := by
  have hroom : Origin.whole.Admits 127 := Json.Origin.admits_whole.mpr (Nat.le_refl 127)
  obtain ⟨inner, henter, hinner⟩ := hroom.exists_enter
  obtain ⟨-, hdistinct, hmembers⟩ := id hbody
  have hskip := Raw.skip_of_mem_named hmembers
  have hdecoded := exists_decoded_iff hinner hbody
  simp only [Json.Decoder.run_of_ofSource hsource, decoder_object_eq_ok_iff hdistinct hskip,
    Origin.exists_enter_iff henter]
  refine ⟨⟨?_, ?_⟩, ?_⟩
  · rintro ⟨r, hkeys, hr⟩
    obtain ⟨hform, hname, horder, hfilters⟩ := hdecoded.mp ⟨r, hr⟩
    exact ⟨hform, hkeys, hname, horder, hfilters⟩
  · rintro ⟨hform, hkeys, hname, horder, hfilters⟩
    obtain ⟨r, hr⟩ := hdecoded.mpr ⟨hform, hname, horder, hfilters⟩
    exact ⟨r, hkeys, hr⟩
  · rintro r ⟨-, hr⟩
    exact hr.readAs hinner hbody

/-- A page with one filter as an object and two as arrays, one of them empty. -/
def youngPersons : Json :=
  .object
    [ ("rows", .nat 25), ("sortOrder", .int (-1)), ("view", .array [.object [("wide", .null)]]),
      ("filters", .object
        [ ("name", .object [("matchMode", .string "startsWith"), ("value", .string "J")]),
          ("age", .array [.array [.nat 18, .nat 21], .string "in"]), ("note", .array []) ]),
      ("pagination", .null) ]

theorem youngPersons_read :
    ∃ r, decoder.run youngPersons.source = .ok r ∧ ReadAs youngPersons.toRaw r ∧
      r.sortOrder = .descending := by
  have hnumbers : ∀ n ∈ youngPersons.numbers, n.ReadsBack := by
    have hlisted : youngPersons.numbers =
        [.integer 25, .integer (-1), .integer 18, .integer 21] := rfl
    rw [hlisted]
    intro n hn
    simp only [List.mem_cons, List.not_mem_nil, or_false] at hn
    rcases hn with rfl | rfl | rfl | rfl <;>
      exact Json.Number.readsBack_integer (by decide) (by decide)
  have hbody : youngPersons.toRaw.IsDocument 127 := by
    simp [youngPersons, Json.toRaw, Json.membersToRaw, Json.itemsToRaw, Raw.IsDocument,
      Raw.MembersAre, Raw.ItemsAre, Raw.named, Entries.keys, Except.toOption, Json.nat, Json.int]
  obtain ⟨hiff, hread⟩ := read_body_iff (Json.ofSource_source hnumbers) hbody
  have hfilters : Filters.HasForm (youngPersons.toRaw.member "filters") :=
    List.forall_mem_cons.mpr ⟨trivial, List.forall_mem_cons.mpr ⟨Nat.le_refl 2,
      List.forall_mem_singleton.mpr (Nat.zero_le 2)⟩⟩
  have hform : HasForm youngPersons.toRaw :=
    ⟨trivial, ⟨by decide, by decide⟩, trivial, hfilters, trivial⟩
  have hname : Filter.IsHeld (Json.object
      [("matchMode", .string "startsWith"), ("value", .string "J")]).toRaw :=
    ⟨Json.hasTextKeys_toRaw _, ⟨.string "J", rfl⟩, ⟨.string "startsWith", rfl⟩⟩
  have hage : Filter.IsHeld (Json.array [.array [.nat 18, .nat 21], .string "in"]).toRaw :=
    ⟨trivial, ⟨.array [.nat 18, .nat 21], rfl⟩, ⟨.string "in", rfl⟩⟩
  have hnote : Filter.IsHeld (Json.array []).toRaw := ⟨trivial, ⟨.null, rfl⟩, ⟨.null, rfl⟩⟩
  have hheld : IsHeld youngPersons.toRaw := by
    refine ⟨Json.hasTextKeys_toRaw _, ⟨.null, rfl⟩, ⟨.int (-1), rfl⟩, ?_⟩
    exact List.forall_mem_cons.mpr ⟨⟨⟨_, rfl⟩, hname⟩, List.forall_mem_cons.mpr
      ⟨⟨⟨_, rfl⟩, hage⟩, List.forall_mem_singleton.mpr ⟨⟨_, rfl⟩, hnote⟩⟩⟩
  obtain ⟨r, hr⟩ := hiff.mpr ⟨hform, hheld⟩
  exact ⟨r, hr, hread r hr, (hread r hr).sortOrder.mpr (.inr rfl)⟩

private theorem value_beyondDouble (fuel : Nat) :
    Raw.value (fuel + 1) ("1e400\x7d".toList.map some) = (.number none, [some '\x7d']) := by
  have hnumber : (Json.Literal.mk false [1] [] (some (false, [4, 0, 0]))).number? = none := by
    decide +kernel
  rw [← hnumber]
  rfl

/-- A number that no double is near is JSON too, and yet no order. -/
theorem order_beyondDouble_refused :
    let source := "\x7b\"sortOrder\":1e400\x7d".toList.map some
    let body := Raw.object [(.ok "sortOrder", .number none)] .closed
    Raw.ofSource source = (body, .ok ()) ∧ body.IsDocument 127 ∧ HasForm body ∧
      ∀ r, decoder.run source ≠ .ok r := by
  intro source body
  have hmembers : Raw.members 39 true (some '"' :: (Json.quotedTail "sortOrder" ++
      some ':' :: "1e400\x7d".toList.map some)) =
      ([(.ok "sortOrder", .number none)], .closed, []) :=
    Raw.members_member true "sortOrder" (value_beyondDouble 37) rfl
  have hsource : Raw.ofSource source = (body, .ok ()) := by
    have hlength : source.length = 19 := by decide
    have hshape : source = some '\x7b' :: some '"' :: (Json.quotedTail "sortOrder" ++
        some ':' :: "1e400\x7d".toList.map some) := by decide
    rw [Raw.ofSource, hlength, hshape, Raw.value_object, hmembers]
    rfl
  have hbody : body.IsDocument 127 := ⟨rfl, List.pairwise_singleton _ _, trivial, trivial⟩
  refine ⟨hsource, hbody, ⟨trivial, trivial, trivial, trivial, trivial⟩, fun r hread => ?_⟩
  rw [Json.Decoder.run_of_ofSource hsource] at hread
  cases hread

end Reading

end SelectRequest

end TableSql
