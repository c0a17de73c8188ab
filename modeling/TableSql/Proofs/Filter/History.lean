import Mathlib.Logic.Function.Basic
import TableSql.Proofs.Filter.Json

/-! Filters as a map in the order of insertion: what insertions and removals in any order leave,
told from the calls alone. -/

namespace TableSql.Filters

inductive Edit
  | insert (key : String) (f : Filter)
  /-- Keeps the filters that pass a test. -/
  | retain (keep : String → Filter → Bool)

namespace Edit

def apply (fs : Filters) : Edit → Filters
  | .insert key f => fs.insert key f
  | .retain keep => fs.retain keep

/-- Whether a filter that is there is still there after the call. -/
def Spares (key : String) (f : Filter) : Edit → Prop
  | .insert other _ => other ≠ key
  | .retain keep => keep key f = true

def ofPair (pair : String × Filter) : Edit := .insert pair.1 pair.2

end Edit

def edited (start : Filters) (edits : List Edit) : Filters := edits.foldl Edit.apply start

/-- A filter was inserted, and every call since then has spared it. -/
def InForce (history : List Edit) (key : String) (f : Filter) : Prop :=
  ∃ before after, history = before ++ .insert key f :: after ∧ ∀ edit ∈ after, edit.Spares key f

def Present (history : List Edit) (key : String) : Prop := ∃ f, InForce history key f

/-- A call inserted a key that was absent, and it has not been absent since. -/
structure AddedAt (history : List Edit) (key : String) (place : Nat) : Prop where
  insertion : ∃ f, history[place]? = some (.insert key f)
  absent : ¬ Present (history.take place) key
  stays : ∀ n, place < n → n ≤ history.length → Present (history.take n) key

section Calls

variable {history : List Edit} {key other : String} {f g : Filter} {keep : String → Filter → Bool}

private theorem not_inForce_nil : ¬ InForce [] key f := by
  rintro ⟨before, after, h, -⟩
  exact List.append_ne_nil_of_right_ne_nil before (List.cons_ne_nil _ after) h.symm

/-- The last call either is the insertion, or spares a filter that was in force before it. -/
theorem inForce_concat_iff {edit : Edit} :
    InForce (history ++ [edit]) key f ↔
      edit = .insert key f ∨ InForce history key f ∧ edit.Spares key f := by
  constructor
  · rintro ⟨before, after, h, hspares⟩
    rcases List.eq_nil_or_concat' after with rfl | ⟨after, last, rfl⟩
    · exact .inl (List.singleton_inj.mp (List.append_inj_right' h rfl))
    · rw [← List.cons_append, ← List.append_assoc] at h
      obtain ⟨rfl, hlast⟩ := List.append_inj' h rfl
      obtain rfl := List.singleton_inj.mp hlast
      refine .inr ⟨⟨before, after, rfl, fun edit hedit => ?_⟩, ?_⟩
      · exact hspares edit (List.mem_append_left _ hedit)
      · exact hspares _ (List.mem_append_right _ (List.mem_singleton_self _))
  · rintro (rfl | ⟨⟨before, after, rfl, hspares⟩, hlast⟩)
    · exact ⟨history, [], rfl, List.forall_mem_nil _⟩
    · refine ⟨before, after ++ [edit], by simp, ?_⟩
      exact List.forall_mem_append.mpr ⟨hspares, List.forall_mem_singleton.mpr hlast⟩

private theorem get?_put (entries : List (String × Filter)) :
    Entries.get? key (put other g entries) =
      if other = key then some g else Entries.get? key entries := by
  induction entries with
  | nil => rfl
  | cons entry rest ih =>
    obtain ⟨k, h⟩ := entry
    rw [put]
    split
    · next hk =>
      subst hk
      by_cases hkey : k = key <;> simp [Entries.get?, hkey]
    · next hk =>
      by_cases hkey : k = key
      · subst hkey
        rw [Entries.get?_cons_self, Entries.get?_cons_self, if_neg (Ne.symm hk)]
      · rw [Entries.get?_cons_of_ne hkey, Entries.get?_cons_of_ne hkey, ih]

private theorem get?_filter {entries : List (String × Filter)} (h : (Entries.keys entries).Nodup) :
    Entries.get? key (entries.filter fun entry => keep entry.1 entry.2) =
      (Entries.get? key entries).filter (keep key) := by
  induction entries with
  | nil => rfl
  | cons entry rest ih =>
    obtain ⟨k, g⟩ := entry
    obtain ⟨hnew, hrest⟩ := List.nodup_cons.mp h
    rw [List.filter_cons]
    by_cases hkey : k = key
    · subst hkey
      rw [Entries.get?_cons_self, Option.filter_some]
      split
      · exact Entries.get?_cons_self k g _
      · rw [ih hrest, Entries.get?_of_not_mem_keys hnew]
        rfl
    · rw [Entries.get?_cons_of_ne hkey, ← ih hrest]
      split
      · exact Entries.get?_cons_of_ne hkey g _
      · rfl

/-- A call leaves the filter that it inserts, and of the others those that it spares. -/
theorem get?_apply_eq_some_iff {fs : Filters} {edit : Edit} :
    (edit.apply fs).get? key = some f ↔
      edit = .insert key f ∨ fs.get? key = some f ∧ edit.Spares key f := by
  cases edit with
  | insert other g =>
    have hget : (fs.insert other g).get? key = if other = key then some g else fs.get? key :=
      get?_put fs.entries
    rw [Edit.apply, hget, Edit.Spares]
    by_cases hkey : other = key <;> simp [hkey]
  | retain keep =>
    have hget : (fs.retain keep).get? key = (fs.get? key).filter (keep key) :=
      get?_filter fs.distinct
    rw [Edit.apply, hget, Option.filter_eq_some_iff]
    simp [Edit.Spares]

theorem edited_concat (start : Filters) (history : List Edit) (edit : Edit) :
    edited start (history ++ [edit]) = edit.apply (edited start history) := by
  rw [edited, List.foldl_append]
  rfl

/-- A key has the filter that is in force. -/
theorem get?_edited_eq_some_iff :
    (edited empty history).get? key = some f ↔ InForce history key f := by
  induction history using List.reverseRecOn with
  | nil =>
    refine iff_of_false ?_ not_inForce_nil
    rintro ⟨⟩
  | append_singleton history edit ih =>
    rw [edited_concat, get?_apply_eq_some_iff, inForce_concat_iff, ih]

theorem mem_keys_edited_iff : key ∈ (edited empty history).keys ↔ Present history key := by
  constructor
  · intro h
    obtain ⟨f, hf⟩ := Entries.exists_get?_of_mem_keys h
    exact ⟨f, get?_edited_eq_some_iff.mp hf⟩
  · rintro ⟨f, hf⟩
    exact Entries.mem_keys_of_get? (get?_edited_eq_some_iff.mpr hf)

end Calls

section Order

variable {history : List Edit} {key : String} {place : Nat}

theorem AddedAt.lt_length (h : AddedAt history key place) : place < history.length := by
  obtain ⟨f, hf⟩ := h.insertion
  exact (List.getElem?_eq_some_iff.mp hf).1

theorem AddedAt.concat {edit : Edit} (h : AddedAt history key place)
    (hpresent : Present (history ++ [edit]) key) : AddedAt (history ++ [edit]) key place where
  insertion := by
    rw [List.getElem?_append_left h.lt_length]
    exact h.insertion
  absent := by
    rw [List.take_append_of_le_length h.lt_length.le]
    exact h.absent
  stays n hlow hhigh := by
    rcases Nat.lt_or_ge history.length n with hn | hn
    · rwa [List.take_of_length_le (by rw [List.length_append, List.length_singleton]; omega)]
    · rw [List.take_append_of_le_length hn]
      exact h.stays n hlow hn

private theorem addedAt_last (f : Filter) (habsent : ¬ Present history key) :
    AddedAt (history ++ [.insert key f]) key history.length where
  insertion := ⟨f, List.getElem?_concat_length⟩
  absent := by rwa [List.take_left]
  stays n hlow _ := by
    rw [List.take_of_length_le (by rw [List.length_append, List.length_singleton]; omega)]
    exact ⟨f, inForce_concat_iff.mpr (.inl rfl)⟩

/-- The keys stand in the order in which they were added. -/
theorem keys_edited_ordered (history : List Edit) :
    ∃ since : String → Nat,
      (∀ key ∈ (edited empty history).keys, AddedAt history key (since key)) ∧
      (edited empty history).keys.Pairwise fun a b => since a < since b := by
  induction history using List.reverseRecOn with
  | nil => exact ⟨fun _ => 0, List.forall_mem_nil _, List.Pairwise.nil⟩
  | append_singleton history edit ih =>
    obtain ⟨since, hsince, hordered⟩ := ih
    have hkept : ∀ key ∈ (edited empty history).keys,
        key ∈ (edited empty (history ++ [edit])).keys →
          AddedAt (history ++ [edit]) key (since key) :=
      fun key hold hnew => (hsince key hold).concat (mem_keys_edited_iff.mp hnew)
    cases edit with
    | retain keep =>
      have hsublist : (edited empty (history ++ [.retain keep])).keys.Sublist
          (edited empty history).keys := by
        rw [edited_concat]
        exact List.filter_sublist.map Prod.fst
      exact ⟨since, fun key hkey => hkept key (hsublist.subset hkey) hkey,
        hordered.sublist hsublist⟩
    | insert key f =>
      have hkeys : (edited empty (history ++ [.insert key f])).keys =
          if key ∈ (edited empty history).keys then (edited empty history).keys
          else (edited empty history).keys ++ [key] := by
        rw [edited_concat]
        exact keys_put key f _
      by_cases hmem : key ∈ (edited empty history).keys
      · rw [if_pos hmem] at hkeys
        rw [hkeys] at hkept ⊢
        exact ⟨since, fun other hother => hkept other hother hother, hordered⟩
      · rw [if_neg hmem] at hkeys
        have hne : ∀ other ∈ (edited empty history).keys, other ≠ key :=
          fun other hother heq => hmem (heq ▸ hother)
        have hadded := addedAt_last f (mt mem_keys_edited_iff.mpr hmem)
        rw [hkeys] at hkept ⊢
        refine ⟨Function.update since key history.length, fun other hother => ?_,
          List.pairwise_append.mpr ⟨?_, List.pairwise_singleton _ _, ?_⟩⟩
        · rcases List.mem_append.mp hother with hold | hnew
          · rw [Function.update_of_ne (hne other hold)]
            exact hkept other hold hother
          · obtain rfl := List.mem_singleton.mp hnew
            rwa [Function.update_self]
        · refine hordered.imp_of_mem fun {a b} ha hb hlt => ?_
          rwa [Function.update_of_ne (hne a ha), Function.update_of_ne (hne b hb)]
        · intro other hother last hlast
          obtain rfl := List.mem_singleton.mp hlast
          rw [Function.update_of_ne (hne other hother), Function.update_self]
          exact (hsince other hother).lt_length

end Order

section Origins

private theorem edited_append (start : Filters) (first second : List Edit) :
    edited start (first ++ second) = edited (edited start first) second :=
  List.foldl_append

theorem ofPairs_eq_edited (pairs : List (String × Filter)) :
    ofPairs pairs = edited empty (pairs.map Edit.ofPair) := by
  rw [edited, List.foldl_map]
  rfl

/-- An object is read as filters where each member is read as one, inserted in the order of the
text. -/
theorem decoder_object_eq_ok_iff {origin : Json.Origin}
    {members : List (Except Json.Fault String × Json.Raw)} {stop : Json.Stop} {fs : Filters} :
    decoder origin (.object members stop) = .ok fs ↔
      ∃ inner pairs, origin.enter = .ok inner ∧ stop = .closed ∧
        List.Forall₂ (fun member pair =>
          member.1 = .ok pair.1 ∧ Filter.decoder inner member.2 = .ok pair.2) members pairs ∧
        fs = ofPairs pairs := by
  change (Json.Decoder.entries _ _ _ _).map ofPairs = _ ↔ _
  rw [map_eq_ok_iff]
  constructor
  · rintro ⟨pairs, hread, rfl⟩
    obtain ⟨inner, henter, hstop, hmembers⟩ := Json.Decoder.entries_eq_ok_iff.mp hread
    exact ⟨inner, pairs, henter, hstop, hmembers, rfl⟩
  · rintro ⟨inner, pairs, henter, hstop, hmembers, rfl⟩
    exact ⟨pairs, Json.Decoder.entries_eq_ok_iff.mpr ⟨inner, henter, hstop, hmembers⟩, rfl⟩

end Origins

/-- Filters are a map in the order of insertion. Whatever pairs they start from, none or some, and
whatever is inserted and removed then: no key stands twice; the keys stand in the order of the
insertions that added them, each the first since its key was last absent; and a key has the filter
that was inserted last, unless that has been removed since. Pairs are such a start because they are
inserted one by one, and so is an object in JSON, which is read as the pairs that its members are
read as, in the order of the text. -/
theorem insertion_order (pairs : List (String × Filter)) (edits : List Edit) :
    let history := pairs.map Edit.ofPair ++ edits
    let fs := edited (ofPairs pairs) edits
    fs.keys.Nodup ∧
    (∃ since : String → Nat,
      (∀ key ∈ fs.keys, AddedAt history key (since key)) ∧
      fs.keys.Pairwise fun a b => since a < since b) ∧
    (∀ key f, fs.get? key = some f ↔ InForce history key f) ∧
    ofPairs pairs = edited empty (pairs.map Edit.ofPair) ∧
    ∀ (origin : Json.Origin) (members : List (Except Json.Fault String × Json.Raw))
      (stop : Json.Stop) (read : Filters),
      decoder origin (.object members stop) = .ok read ↔
        ∃ inner pairs, origin.enter = .ok inner ∧ stop = .closed ∧
          List.Forall₂ (fun member pair =>
            member.1 = .ok pair.1 ∧ Filter.decoder inner member.2 = .ok pair.2) members pairs ∧
          read = ofPairs pairs := by
  intro history fs
  have hfs : fs = edited empty history := by
    rw [edited_append, ← ofPairs_eq_edited]
  refine ⟨fs.distinct, hfs ▸ keys_edited_ordered history, fun key f => ?_,
    ofPairs_eq_edited pairs, fun _ _ _ _ => decoder_object_eq_ok_iff⟩
  rw [hfs]
  exact get?_edited_eq_some_iff

/-- A key that is inserted again keeps its place, unless it was removed in between. -/
example (f g : Filter) :
    (edited (ofPairs [("name", f), ("age", f), ("name", g)])
      [.insert "age" g, .retain fun key _ => key ≠ "name", .insert "name" f]).keys =
      ["age", "name"] := rfl

end TableSql.Filters
