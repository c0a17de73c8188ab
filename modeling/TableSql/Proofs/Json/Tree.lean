import Mathlib.Data.List.DropRight
import TableSql.Json.Decoding
import TableSql.Proofs.Json.Number
import TableSql.Proofs.Json.Quoted

/-! JSON texts are read back as the tree of the value that they were written for. -/

namespace TableSql.Json

mutual

/-- The numbers of a value, at every depth. -/
def numbers : Json → List Number
  | .number n => [n]
  | .array items => itemNumbers items
  | .object members => memberNumbers members
  | _ => []

def itemNumbers : List Json → List Number
  | [] => []
  | item :: rest => item.numbers ++ itemNumbers rest

def memberNumbers : List (String × Json) → List Number
  | [] => []
  | (_, held) :: rest => held.numbers ++ memberNumbers rest

end

def source (j : Json) : Source := j.text.toList.map some

/-- The characters of items after the first, each behind a comma. -/
def itemsTail (items : List Json) : Source := items.flatMap fun item => some ',' :: item.source

def memberSource (member : String × Json) : Source :=
  some '"' :: (quotedTail member.1 ++ some ':' :: member.2.source)

def membersTail (members : List (String × Json)) : Source :=
  members.flatMap fun member => some ',' :: memberSource member

private theorem itemTexts_eq_map (items : List Json) : itemTexts items = items.map text := by
  induction items with
  | nil => rfl
  | cons item rest ih => rw [itemTexts, ih, List.map_cons]

private theorem memberTexts_eq_map (members : List (String × Json)) :
    memberTexts members = members.map fun member =>
      stringText member.1 ++ ":" ++ member.2.text := by
  induction members with
  | nil => rfl
  | cons member rest ih => rw [memberTexts, ih, List.map_cons]

theorem toList_commas (part : String) (parts : List String) :
    (String.intercalate "," (part :: parts)).toList =
      part.toList ++ parts.flatMap fun other => ',' :: other.toList := by
  induction parts generalizing part with
  | nil => rw [String.intercalate_singleton, List.flatMap_nil, List.append_nil]
  | cons other rest ih =>
    rw [String.intercalate_cons_cons, String.toList_append, ih, String.toList_append,
      List.flatMap_cons, List.append_assoc]
    rfl

theorem source_array (item : Json) (rest : List Json) :
    source (.array (item :: rest)) = some '[' :: (item.source ++ itemsTail rest ++ [some ']']) := by
  rw [source, text, itemTexts_eq_map, String.toList_append, String.toList_append, List.map_cons,
    toList_commas]
  simp [source, itemsTail, List.map_flatMap, List.flatMap_map]

theorem source_object (member : String × Json) (rest : List (String × Json)) :
    source (.object (member :: rest)) =
      some '\x7b' :: (memberSource member ++ membersTail rest ++ [some '\x7d']) := by
  rw [source, text, memberTexts_eq_map, String.toList_append, String.toList_append, List.map_cons,
    toList_commas]
  simp [source, membersTail, memberSource, stringText_toList, List.map_flatMap, List.flatMap_map]

theorem isWhole_toRaw (j : Json) : j.toRaw.isWhole := by
  cases j <;> rfl

namespace Raw

private theorem value_skipBlanks (fuel : Nat) (source : Source) :
    value (fuel + 1) (skipBlanks source) = value (fuel + 1) source := by
  have hidem : skipBlanks (skipBlanks source) = skipBlanks source :=
    List.dropWhile_idempotent _ _
  rw [value, value, hidem]

/-- An item that is whole is followed by the others. -/
theorem items_first {fuel : Nat} {source after : Source} {item : Raw}
    (hvalue : value (fuel + 1) source = (item, after)) (hwhole : item.isWhole) :
    items (fuel + 2) true source =
      (item :: (items (fuel + 1) false after).1, (items (fuel + 1) false after).2) := by
  have hskipped : skipBlanks (skipBlanks source) = skipBlanks source :=
    List.dropWhile_idempotent _ _
  rw [← value_skipBlanks] at hvalue
  rw [items]
  generalize skipBlanks source = skipped at hvalue hskipped
  split
  · cases hvalue
    cases hwhole
  · rw [value, hskipped] at hvalue
    cases hvalue
    cases hwhole
  · rw [Bool.true_or, if_pos rfl, if_pos rfl, hvalue]
    dsimp only
    rw [if_pos hwhole]

private theorem items_next {fuel : Nat} {source after : Source} {item : Raw}
    (hvalue : value fuel source = (item, after)) (hwhole : item.isWhole) :
    items (fuel + 1) false (some ',' :: source) =
      (item :: (items fuel false after).1, (items fuel false after).2) := by
  have hskip : skipBlanks (some ',' :: source) = some ',' :: source :=
    skipBlanks_cons (by decide) _
  rw [items, hskip]
  simp [hvalue, hwhole]

private theorem items_closed (fuel : Nat) (first : Bool) (rest : Source) :
    items (fuel + 1) first (some ']' :: rest) = ([], .closed, rest) := by
  have hskip : skipBlanks (some ']' :: rest) = some ']' :: rest := skipBlanks_cons (by decide) _
  rw [items, hskip]
  rfl

/-- A member that is whole is followed by the others; the key is a string before a colon. -/
theorem members_member {fuel : Nat} (first : Bool) (key : String) {body after : Source} {held : Raw}
    (hvalue : value fuel body = (held, after)) (hwhole : held.isWhole) :
    members (fuel + 1) first
        ((if first then [] else [some ',']) ++ some '"' :: (quotedTail key ++ some ':' :: body)) =
      ((.ok key, held) :: (members fuel false after).1, (members fuel false after).2) := by
  have hquote : ∀ rest, skipBlanks (some '"' :: rest) = some '"' :: rest :=
    skipBlanks_cons (by decide)
  have hcolon : skipBlanks (some ':' :: body) = some ':' :: body := skipBlanks_cons (by decide) _
  have hcomma : ∀ rest, skipBlanks (some ',' :: rest) = some ',' :: rest :=
    skipBlanks_cons (by decide)
  cases first with
  | true => simp [members, hquote, stringBody_quotedTail, hcolon, hvalue, hwhole]
  | false => simp [members, hquote, hcomma, stringBody_quotedTail, hcolon, hvalue, hwhole]

private theorem members_closed (fuel : Nat) (first : Bool) (rest : Source) :
    members (fuel + 1) first (some '\x7d' :: rest) = ([], .closed, rest) := by
  have hskip : skipBlanks (some '\x7d' :: rest) = some '\x7d' :: rest :=
    skipBlanks_cons (by decide) _
  rw [members, hskip]
  rfl

private theorem value_array (fuel : Nat) (rest : Source) :
    value (fuel + 1) (some '[' :: rest) =
      (.array (items fuel true rest).1 (items fuel true rest).2.1, (items fuel true rest).2.2) := by
  have hskip : skipBlanks (some '[' :: rest) = some '[' :: rest := skipBlanks_cons (by decide) _
  rw [value, hskip]
  rfl

theorem value_object (fuel : Nat) (rest : Source) :
    value (fuel + 1) (some '\x7b' :: rest) =
      (.object (members fuel true rest).1 (members fuel true rest).2.1,
        (members fuel true rest).2.2) := by
  have hskip : skipBlanks (some '\x7b' :: rest) = some '\x7b' :: rest :=
    skipBlanks_cons (by decide) _
  rw [value, hskip]
  rfl

private theorem value_string (fuel : Nat) (s : String) (rest : Source) :
    value (fuel + 1) (some '"' :: (quotedTail s ++ rest)) = (.string (.ok s), rest) := by
  have hskip : ∀ rest, skipBlanks (some '"' :: rest) = some '"' :: rest :=
    skipBlanks_cons (by decide)
  rw [value, hskip]
  exact stringBody_quotedTail s rest

end Raw

theorem ends_itemsTail (items : List Json) (rest : Source) :
    Ends (itemsTail items ++ some ']' :: rest) := by
  intro c hc
  cases items with
  | nil =>
    obtain rfl : ']' = c := by simpa [itemsTail] using hc
    decide
  | cons item items =>
    obtain rfl : ',' = c := by simpa [itemsTail] using hc
    decide

theorem ends_membersTail (members : List (String × Json)) (rest : Source) :
    Ends (membersTail members ++ some '\x7d' :: rest) := by
  intro c hc
  cases members with
  | nil =>
    obtain rfl : '\x7d' = c := by simpa [membersTail] using hc
    decide
  | cons member members =>
    obtain rfl : ',' = c := by simpa [membersTail] using hc
    decide

private theorem Number.ReadsBack.source_ne_nil {n : Number} (h : n.ReadsBack) :
    source (.number n) ≠ [] := by
  intro hnil
  unfold ReadsBack at h
  rw [show n.text.toList.map some = source (.number n) from rfl, hnil] at h
  cases h

/-- The text of a value is read as the value, wherever nothing continues it. -/
def ReadAt (j : Json) : Prop :=
  ∀ (fuel : Nat) (rest : Source), Ends rest → 2 * j.source.length ≤ fuel →
    Raw.value fuel (j.source ++ rest) = (j.toRaw, rest)

def ItemsReadAt (items : List Json) : Prop :=
  ∀ (fuel : Nat) (rest : Source), 2 * (itemsTail items).length < fuel →
    Raw.items fuel false (itemsTail items ++ some ']' :: rest) = (itemsToRaw items, .closed, rest)

def MembersReadAt (members : List (String × Json)) : Prop :=
  ∀ (fuel : Nat) (rest : Source), 2 * (membersTail members).length < fuel →
    Raw.members fuel false (membersTail members ++ some '\x7d' :: rest) =
      (membersToRaw members, .closed, rest)

theorem readAt_number {n : Number} (h : n.ReadsBack) : ReadAt (.number n) := by
  intro fuel rest hrest hfuel
  have hlength := List.length_pos_iff.mpr h.source_ne_nil
  obtain ⟨fuel, rfl⟩ := Nat.exists_eq_succ_of_ne_zero (show fuel ≠ 0 by omega)
  exact Raw.value_number_append h hrest fuel

theorem readAt_string (s : String) : ReadAt (.string s) := by
  intro fuel rest _ hfuel
  rw [source, text, stringText_toList] at hfuel ⊢
  rw [List.length_cons] at hfuel
  obtain ⟨fuel, rfl⟩ := Nat.exists_eq_succ_of_ne_zero (show fuel ≠ 0 by omega)
  exact Raw.value_string fuel s rest

theorem readAt_array {item : Json} {items : List Json} (hitem : ReadAt item)
    (hitems : ItemsReadAt items) : ReadAt (.array (item :: items)) := by
  intro fuel rest _ hfuel
  simp only [source_array, List.length_cons, List.length_append, List.length_nil] at hfuel
  obtain ⟨fuel, rfl⟩ : ∃ f, fuel = f + 3 := ⟨fuel - 3, by omega⟩
  have hfirst := Raw.items_first
    (hitem (fuel + 1) (itemsTail items ++ some ']' :: rest) (ends_itemsTail items rest) (by omega))
    (isWhole_toRaw item)
  rw [hitems (fuel + 1) rest (by omega)] at hfirst
  rw [source_array, List.cons_append, List.append_assoc, List.append_assoc,
    List.singleton_append, Raw.value_array, hfirst]
  rfl

theorem itemsReadAt_cons {item : Json} {items : List Json} (hitem : ReadAt item)
    (hitems : ItemsReadAt items) : ItemsReadAt (item :: items) := by
  intro fuel rest hfuel
  have hlength : (itemsTail (item :: items)).length =
      item.source.length + (itemsTail items).length + 1 := by
    simp [itemsTail]
  obtain ⟨fuel, rfl⟩ : ∃ f, fuel = f + 1 := ⟨fuel - 1, by omega⟩
  have hsource : itemsTail (item :: items) ++ some ']' :: rest =
      some ',' :: (item.source ++ (itemsTail items ++ some ']' :: rest)) := by
    simp [itemsTail]
  have hnext := Raw.items_next
    (hitem fuel (itemsTail items ++ some ']' :: rest) (ends_itemsTail items rest) (by omega))
    (isWhole_toRaw item)
  rw [hitems fuel rest (by omega)] at hnext
  rw [hsource]
  exact hnext

theorem readAt_object {key : String} {held : Json} {members : List (String × Json)}
    (hheld : ReadAt held) (hmembers : MembersReadAt members) :
    ReadAt (.object ((key, held) :: members)) := by
  intro fuel rest _ hfuel
  simp only [source_object, memberSource, List.length_cons, List.length_append,
    List.length_nil] at hfuel
  obtain ⟨fuel, rfl⟩ : ∃ f, fuel = f + 2 := ⟨fuel - 2, by omega⟩
  have hfirst := Raw.members_member true key
    (hheld fuel (membersTail members ++ some '\x7d' :: rest) (ends_membersTail members rest)
      (by omega)) (isWhole_toRaw held)
  rw [hmembers fuel rest (by omega), if_pos rfl, List.nil_append] at hfirst
  have hsource : source (.object ((key, held) :: members)) ++ rest =
      some '\x7b' :: (some '"' :: (quotedTail key ++ some ':' :: (held.source ++
        (membersTail members ++ some '\x7d' :: rest)))) := by
    simp [source_object, memberSource]
  rw [hsource, Raw.value_object, hfirst]
  rfl

theorem membersReadAt_cons {key : String} {held : Json} {members : List (String × Json)}
    (hheld : ReadAt held) (hmembers : MembersReadAt members) :
    MembersReadAt ((key, held) :: members) := by
  intro fuel rest hfuel
  have hsource : membersTail ((key, held) :: members) ++ some '\x7d' :: rest =
      [some ','] ++ (some '"' :: (quotedTail key ++ some ':' :: (held.source ++
        (membersTail members ++ some '\x7d' :: rest)))) := by
    simp [membersTail, memberSource]
  have hlength : held.source.length + (membersTail members).length + 1 ≤
      (membersTail ((key, held) :: members)).length := by
    simp [membersTail, memberSource]
    omega
  obtain ⟨fuel, rfl⟩ : ∃ f, fuel = f + 1 := ⟨fuel - 1, by omega⟩
  have hnext := Raw.members_member false key
    (hheld fuel (membersTail members ++ some '\x7d' :: rest) (ends_membersTail members rest)
      (by omega)) (isWhole_toRaw held)
  rw [hmembers fuel rest (by omega)] at hnext
  rw [hsource]
  exact hnext

/-- A word or an empty list is read from a text of its own length. -/
theorem readAt_constant {j : Json} {n : Nat} (hlength : 2 * j.source.length = n + 2)
    (hread : ∀ fuel rest, Raw.value (fuel + 2) (j.source ++ rest) = (j.toRaw, rest)) :
    ReadAt j := by
  intro fuel rest _ hfuel
  obtain ⟨fuel, rfl⟩ : ∃ f, fuel = f + 2 := ⟨fuel - 2, by omega⟩
  exact hread fuel rest

mutual

theorem readAt : ∀ j : Json, (∀ n ∈ j.numbers, n.ReadsBack) → ReadAt j
  | .null, _ => readAt_constant rfl fun _ _ => rfl
  | .bool true, _ => readAt_constant rfl fun _ _ => rfl
  | .bool false, _ => readAt_constant rfl fun _ _ => rfl
  | .number n, h => readAt_number (h n (List.mem_singleton_self n))
  | .string s, _ => readAt_string s
  | .array [], _ => readAt_constant rfl fun _ _ => rfl
  | .array (item :: items), h =>
    have hparts := List.forall_mem_append.mp h
    readAt_array (readAt item hparts.1) (itemsReadAt items hparts.2)
  | .object [], _ => readAt_constant rfl fun _ _ => rfl
  | .object ((_, held) :: members), h =>
    have hparts := List.forall_mem_append.mp h
    readAt_object (readAt held hparts.1) (membersReadAt members hparts.2)

theorem itemsReadAt : ∀ items : List Json, (∀ n ∈ itemNumbers items, n.ReadsBack) →
    ItemsReadAt items
  | [], _ => fun fuel rest hfuel => by
    obtain ⟨fuel, rfl⟩ := Nat.exists_eq_succ_of_ne_zero (Nat.ne_of_gt hfuel)
    exact Raw.items_closed fuel false rest
  | item :: items, h =>
    have hparts := List.forall_mem_append.mp h
    itemsReadAt_cons (readAt item hparts.1) (itemsReadAt items hparts.2)

theorem membersReadAt : ∀ members : List (String × Json),
    (∀ n ∈ memberNumbers members, n.ReadsBack) → MembersReadAt members
  | [], _ => fun fuel rest hfuel => by
    obtain ⟨fuel, rfl⟩ := Nat.exists_eq_succ_of_ne_zero (Nat.ne_of_gt hfuel)
    exact Raw.members_closed fuel false rest
  | (_, held) :: members, h =>
    have hparts := List.forall_mem_append.mp h
    membersReadAt_cons (readAt held hparts.1) (membersReadAt members hparts.2)

end

/-- The text of a value is read as its tree, with nothing left over. -/
theorem ofSource_source {j : Json} (h : ∀ n ∈ j.numbers, n.ReadsBack) :
    Raw.ofSource j.source = (j.toRaw, .ok ()) := by
  have hends : Ends [] := by
    intro c hc
    cases hc
  have hread := readAt j h (2 * j.source.length + 2) [] hends (by omega)
  rw [List.append_nil] at hread
  rw [Raw.ofSource, hread]
  rfl

end TableSql.Json
