import TableSql.Proofs.Json.Document

/-! Structures read from objects: where no key stands twice the order of the members does not
matter, and each part of a structure is what the member of its name is read as. -/

namespace TableSql.Json.Shape

variable {σ α β : Type} {fields : List (Field σ)} {origin : Origin}
  {members : List (Except Fault String × Raw)} {entries : List (String × Raw)} {draft draft' : σ}

theorem decode_object_eq_ok_iff {s : Shape σ α} {stop : Stop} {a : α} :
    s.decode origin (.object members stop) = .ok a ↔
      ∃ inner draft, origin.enter = .ok inner ∧
        readMembers s.fields inner members s.draft = .ok draft ∧ stop = .closed ∧
        s.build draft = .ok a := by
  rw [decode, bind_eq_ok_iff]
  refine exists_congr fun inner => ?_
  rw [bind_eq_ok_iff, ← exists_and_left]
  refine exists_congr fun draft => and_congr_right fun _ => and_congr_right fun _ => ?_
  rw [bind_eq_ok_iff]
  cases hbuild : s.build draft <;>
    simp [Unique.exists_iff, Stop.finish_eq_ok_iff, pure, Except.pure, throw, throwThe,
      MonadExceptOf.throw]

private theorem finishItems_eq_ok_iff {count : Nat} {left : List Raw} :
    finishItems origin count left .closed = .ok () ↔ left = [] := by
  cases left <;> cases origin <;> simp [finishItems, Stop.finish]

theorem decode_array_eq_ok_iff {s : Shape σ α} {items : List Raw} {a : α} :
    s.decode origin (.array items .closed) = .ok a ↔
      ∃ inner draft, origin.enter = .ok inner ∧
        readItems inner s.fields items s.draft = .ok (draft, []) ∧ s.build draft = .ok a := by
  rw [decode, bind_eq_ok_iff]
  refine exists_congr fun inner => ?_
  rw [bind_eq_ok_iff, exists_and_left]
  refine and_congr_right fun _ => ?_
  rw [Prod.exists]
  refine exists_congr fun draft => ?_
  have hclosed (p : Prop) [Decidable p] (next : Except ReadError α) :
      (if p then Stop.closed.finish >>= fun _ => next else next) = next := by split <;> rfl
  simp only [hclosed]
  cases s.build draft <;>
    simp [bind_eq_ok_iff, finishItems_eq_ok_iff, Unique.exists_iff, pure, Except.pure, throw,
      throwThe, MonadExceptOf.throw]

/-- A member is skipped if there is no field of its name, and else sets the field. -/
theorem readMembers_cons_eq_ok_iff {key : Except Fault String} {held : Raw} :
    readMembers fields origin ((key, held) :: members) draft = .ok draft' ↔
      ∃ name, key = .ok name ∧
        (fields.find? (·.name = name) = none ∧ held.skip = .ok () ∧
            readMembers fields origin members draft = .ok draft' ∨
          ∃ field next, fields.find? (·.name = name) = some field ∧ field.isSet draft = false ∧
            field.read origin held draft = .ok next ∧
            readMembers fields origin members next = .ok draft') := by
  rw [readMembers, bind_eq_ok_iff]
  refine exists_congr fun name => and_congr taken_eq_ok_iff ?_
  cases fields.find? (·.name = name) with
  | none => simp [bind_eq_ok_iff, taken_eq_ok_iff, Unique.exists_iff]
  | some field => cases hset : field.isSet draft <;> simp [bind_eq_ok_iff, hset]

theorem hasTextKeys_of_readMembers (h : readMembers fields origin members draft = .ok draft')
    (stop : Stop) : (Raw.object members stop).HasTextKeys := by
  induction members generalizing draft with
  | nil => exact List.forall_mem_nil _
  | cons member rest ih =>
    obtain ⟨name, hkey, ⟨-, -, hrest⟩ | ⟨_, _, -, -, -, hrest⟩⟩ := readMembers_cons_eq_ok_iff.mp h
    · exact List.forall_mem_cons.mpr ⟨⟨name, hkey⟩, ih hrest⟩
    · exact List.forall_mem_cons.mpr ⟨⟨name, hkey⟩, ih hrest⟩

theorem mem_and_name_of_find? {name : String} {field : Field σ}
    (h : fields.find? (·.name = name) = some field) : field ∈ fields ∧ field.name = name :=
  ⟨List.mem_of_find?_eq_some h, by simpa using List.find?_some h⟩

/-- A field and the part of the draft that it alone sets. -/
structure Slot (fields : List (Field σ)) (name : String) (d : Decoder β) (slot : σ → Option β) :
    Prop where
  exists_field : ∃ field ∈ fields, field.name = name
  isSet_eq : ∀ field ∈ fields, field.name = name → ∀ draft,
    field.isSet draft = (slot draft).isSome
  read_eq : ∀ field ∈ fields, field.name = name → ∀ origin raw draft,
    (field.read origin raw draft).map slot = (d origin raw).map some
  keeps : ∀ field ∈ fields, field.name ≠ name → ∀ origin raw draft draft',
    field.read origin raw draft = .ok draft' → slot draft' = slot draft

section Slot

variable {name : String} {d : Decoder β} {slot : σ → Option β}

/-- The part holds what the member of its name is read as, and without a member what it held. -/
theorem Slot.readMembers_keyed (hslot : Slot fields name d slot)
    (hdistinct : (Entries.keys entries).Nodup)
    (h : readMembers fields origin (Raw.keyed entries) draft = .ok draft') :
    Entries.get? name entries = none ∧ slot draft' = slot draft ∨
      ∃ held b, Entries.get? name entries = some held ∧ d origin held = .ok b ∧
        slot draft' = some b := by
  induction entries generalizing draft with
  | nil =>
    obtain rfl := Except.ok.inj h
    exact .inl ⟨rfl, rfl⟩
  | cons entry rest ih =>
    obtain ⟨key, held⟩ := entry
    obtain ⟨hnew, hothers⟩ := List.nodup_cons.mp hdistinct
    obtain ⟨_, hkey, hmember⟩ := readMembers_cons_eq_ok_iff.mp h
    obtain rfl := Except.ok.inj hkey
    rcases hmember with ⟨hfind, -, hrest⟩ | ⟨field, next, hfind, -, hread, hrest⟩
    · have hne : key ≠ name := by
        rintro rfl
        obtain ⟨field, hfield, hname⟩ := hslot.exists_field
        exact List.find?_eq_none.mp hfind field hfield (by simpa using hname)
      rw [Entries.get?_cons_of_ne hne]
      exact ih hothers hrest
    · obtain ⟨hfield, rfl⟩ := mem_and_name_of_find? hfind
      by_cases hname : field.name = name
      · obtain rfl := hname
        have hset := hslot.read_eq field hfield rfl origin held draft
        rw [hread] at hset
        obtain ⟨b, hb, hsome⟩ := map_eq_ok_iff.mp hset.symm
        refine .inr ⟨held, b, Entries.get?_cons_self _ _ _, hb, ?_⟩
        -- No other member has the name, so that the rest leaves the part alone.
        rcases ih hothers hrest with ⟨-, hkept⟩ | ⟨_, _, hget, -⟩
        · rw [hkept, hsome]
        · exact absurd (Entries.mem_keys_of_get? hget) hnew
      · rw [Entries.get?_cons_of_ne hname, ← hslot.keeps field hfield hname _ _ _ _ hread]
        exact ih hothers hrest

/-- An absent member is like null where null is read as the default. -/
theorem Slot.decode_member (hslot : Slot fields name d slot)
    (hdistinct : (Entries.keys (Raw.named members)).Nodup) {b : β} (hnull : d origin .null = .ok b)
    (hnone : slot draft = none) (h : readMembers fields origin members draft = .ok draft')
    (stop : Stop) :
    d origin ((Raw.object members stop).member name) = .ok ((slot draft').getD b) := by
  rw [← Raw.keyed_named (hasTextKeys_of_readMembers h stop)] at h
  rw [Raw.member]
  rcases hslot.readMembers_keyed hdistinct h with ⟨hget, hkept⟩ | ⟨held, b', hget, hread, hset⟩
  · rw [hget, hkept, hnone]
    exact hnull
  · rw [hget, hset]
    exact hread

private theorem Slot.exists_read (hslot : Slot fields name d slot) {field : Field σ}
    (hfield : field ∈ fields) (hname : field.name = name) {raw : Raw} {b : β}
    (h : d origin raw = .ok b) (draft : σ) :
    ∃ draft', field.read origin raw draft = .ok draft' := by
  have hset := hslot.read_eq field hfield hname origin raw draft
  rw [h] at hset
  obtain ⟨draft', hread, -⟩ := map_eq_ok_iff.mp hset
  exact ⟨draft', hread⟩

private theorem Slot.isSet_eq_of_read {other : Field σ} (hslot : Slot fields other.name d slot)
    (hother : other ∈ fields) {field : Field σ} (hfield : field ∈ fields)
    (hne : field.name ≠ other.name) {raw : Raw} (h : field.read origin raw draft = .ok draft') :
    other.isSet draft' = other.isSet draft := by
  rw [hslot.isSet_eq other hother rfl, hslot.isSet_eq other hother rfl,
    hslot.keeps field hfield hne _ _ _ _ h]

end Slot

/-- Whether a name is that of a field with a part of its own, and its member, if there is one, can
be read. -/
def CanRead (fields : List (Field σ)) (origin : Origin) (entries : List (String × Raw))
    (name : String) : Prop :=
  ∃ (β : Type) (d : Decoder β) (slot : σ → Option β), Slot fields name d slot ∧
    ∀ held, Entries.get? name entries = some held → ∃ b, d origin held = .ok b

theorem Slot.canRead {name : String} {d : Decoder β} {slot : σ → Option β}
    (hslot : Slot fields name d slot) {stop : Stop} {b : β}
    (h : d origin ((Raw.object members stop).member name) = .ok b) :
    CanRead fields origin (Raw.named members) name := by
  refine ⟨β, d, slot, hslot, fun held hget => ⟨b, ?_⟩⟩
  rwa [Raw.member, hget] at h

private theorem exists_readMembers_keyed (hdistinct : (Entries.keys entries).Nodup)
    (hunset : ∀ field ∈ fields, field.isSet draft → field.name ∉ Entries.keys entries)
    (hskip : ∀ entry ∈ entries, entry.2.skip = .ok ())
    (hread : ∀ field ∈ fields, CanRead fields origin entries field.name) :
    ∃ draft', readMembers fields origin (Raw.keyed entries) draft = .ok draft' := by
  induction entries generalizing draft with
  | nil => exact ⟨draft, rfl⟩
  | cons entry rest ih =>
    obtain ⟨key, held⟩ := entry
    obtain ⟨hnew, hothers⟩ := List.nodup_cons.mp hdistinct
    obtain ⟨hheld, hskips⟩ := List.forall_mem_cons.mp hskip
    have hreads (field : Field σ) (hfield : field ∈ fields) :
        CanRead fields origin rest field.name := by
      obtain ⟨β, d, slot, hslot, hmember⟩ := hread field hfield
      refine ⟨β, d, slot, hslot, fun held' hget => hmember held' ?_⟩
      have hne : key ≠ field.name := fun heq => hnew (heq ▸ Entries.mem_keys_of_get? hget)
      rwa [Entries.get?_cons_of_ne hne]
    cases hfind : fields.find? (·.name = key) with
    | none =>
      obtain ⟨draft', hdraft'⟩ := ih hothers
        (fun field hfield hset hmem => hunset field hfield hset (List.mem_cons_of_mem _ hmem))
        hskips hreads
      exact ⟨draft', readMembers_cons_eq_ok_iff.mpr ⟨key, rfl, .inl ⟨hfind, hheld, hdraft'⟩⟩⟩
    | some field =>
      obtain ⟨hfield, rfl⟩ := mem_and_name_of_find? hfind
      obtain ⟨β, d, slot, hslot, hmember⟩ := hread field hfield
      obtain ⟨b, hb⟩ := hmember held (Entries.get?_cons_self _ _ _)
      obtain ⟨next, hnext⟩ := hslot.exists_read hfield rfl hb draft
      -- The invariant: what is set already is none of the fields that are still to come.
      have hunset' (other : Field σ) (hother : other ∈ fields) (hset : other.isSet next) :
          other.name ∉ Entries.keys rest := by
        intro hmem
        have hne : field.name ≠ other.name := fun heq => hnew (heq ▸ hmem)
        obtain ⟨_, _, _, hslot', -⟩ := hread other hother
        rw [hslot'.isSet_eq_of_read hother hfield hne hnext] at hset
        exact hunset other hother hset (List.mem_cons_of_mem _ hmem)
      obtain ⟨draft', hdraft'⟩ := ih hothers hunset' hskips hreads
      have hset : field.isSet draft = false :=
        Bool.eq_false_iff.mpr fun hset => hunset field hfield hset List.mem_cons_self
      exact ⟨draft', readMembers_cons_eq_ok_iff.mpr
        ⟨field.name, rfl, .inr ⟨field, next, hfind, hset, hnext, hdraft'⟩⟩⟩

/-- Members are read if their keys are texts, those of the fields can be read and all can be
skipped, whatever their order. -/
theorem exists_readMembers {stop : Stop} (hkeys : (Raw.object members stop).HasTextKeys)
    (hdistinct : (Entries.keys (Raw.named members)).Nodup)
    (hunset : ∀ field ∈ fields, field.isSet draft = false)
    (hskip : ∀ entry ∈ Raw.named members, entry.2.skip = .ok ())
    (hread : ∀ field ∈ fields, CanRead fields origin (Raw.named members) field.name) :
    ∃ draft', readMembers fields origin members draft = .ok draft' := by
  have hnone : ∀ field ∈ fields, field.isSet draft →
      field.name ∉ Entries.keys (Raw.named members) := fun field hfield hset _ =>
    absurd hset (Bool.eq_false_iff.mp (hunset field hfield))
  rw [← Raw.keyed_named hkeys]
  exact exists_readMembers_keyed hdistinct hnone hskip hread

end TableSql.Json.Shape
