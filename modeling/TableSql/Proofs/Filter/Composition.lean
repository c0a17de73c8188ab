import TableSql.Proofs.Filter.Condition
import TableSql.Proofs.Filter.Json

/-! Filters compiled one after another: what the second part leaves is numbered from where the first
part ends, so that conditions can be placed behind other placeholders. -/

namespace TableSql

namespace Compiled

/-- The two parts of a list leave their conditions one after the other. Only the first free ordinal
passes from the first part to the second. -/
theorem ofEntries_append (start : Nat) (front back : List (String × Filter)) :
    ofEntries start (front ++ back) =
      ⟨(ofEntries start front).conditions
          ++ (ofEntries (ofEntries start front).next back).conditions,
        (ofEntries start front).args ++ (ofEntries (ofEntries start front).next back).args,
        (ofEntries (ofEntries start front).next back).next⟩ := by
  induction front generalizing start with
  | nil => rfl
  | cons entry rest ih =>
    obtain ⟨key, f⟩ := entry
    rw [List.cons_append]
    cases hcompared : f.isCompared with
    | false =>
      rw [ofEntries_cons_of_not_isCompared hcompared, ofEntries_cons_of_not_isCompared hcompared]
      exact ih start
    | true =>
      obtain ⟨mode, comparator, hmode, hcomparator, hvalues⟩ := exists_of_isCompared hcompared
      rw [ofEntries_cons_of_isCompared hmode hcomparator hvalues,
        ofEntries_cons_of_isCompared hmode hcomparator hvalues, ih (start + f.values.length)]
      dsimp only
      rw [List.cons_append, List.append_assoc]

private theorem length_conditions (start : Nat) (entries : List (String × Filter)) :
    (ofEntries start entries).conditions.length = entries.countP (·.2.isCompared) := by
  obtain ⟨hconditions, -⟩ := ofEntries_spec start entries
  rw [← hconditions.length_eq, comparedEntries, List.countP_eq_length_filter]

end Compiled

namespace Filters

theorem entries_ofPairs_append {fs gs : Filters} (h : ∀ key ∈ fs.keys, key ∉ gs.keys) :
    (ofPairs (fs.entries ++ gs.entries)).entries = fs.entries ++ gs.entries := by
  have hdistinct : (Entries.keys (fs.entries ++ gs.entries)).Nodup := by
    rw [Entries.keys, List.map_append]
    refine List.nodup_append.mpr ⟨fs.distinct, gs.distinct, ?_⟩
    rintro key hfs _ hgs rfl
    exact h key hfs hgs
  exact entries_foldl_insert hdistinct

/-- Filters without a key in common are compiled together as they are compiled one after the other:
the conditions and the arguments of the second stand behind those of the first, numbered from the
ordinal that the first leave free. From any start the first free ordinal lies behind one for each
argument, and there is a condition for each filter that has a comparison and a value. -/
theorem compile_one_after_another (start : Nat) (fs gs : Filters)
    (h : ∀ key ∈ fs.keys, key ∉ gs.keys) :
    let both := ofPairs (fs.entries ++ gs.entries)
    let front := fs.compile start
    let back := gs.compile front.next
    both.entries = fs.entries ++ gs.entries ∧
    (both.compile start).conditions = front.conditions ++ back.conditions ∧
    (both.compile start).args = front.args ++ back.args ∧
    (both.compile start).next = back.next ∧
    ∀ (hs : Filters) (start : Nat),
      (hs.compile start).next = start + (hs.compile start).args.length ∧
      (hs.compile start).conditions.length = hs.entries.countP fun entry =>
        (entry.2.mode.bind MatchMode.comparator?).isSome && !entry.2.values.isEmpty := by
  intro both front back
  have hentries : both.entries = fs.entries ++ gs.entries := entries_ofPairs_append h
  have happend : both.compile start =
      ⟨front.conditions ++ back.conditions, front.args ++ back.args, back.next⟩ := by
    rw [compile, hentries]
    exact Compiled.ofEntries_append start fs.entries gs.entries
  rw [happend]
  refine ⟨hentries, rfl, rfl, rfl, fun hs start => ⟨?_, ?_⟩⟩
  · obtain ⟨-, -, -, hnext⟩ := Compiled.ofEntries_spec start hs.entries
    exact hnext
  · exact Compiled.length_conditions start hs.entries

/-- A list of ages, a range that has no comparison, and a filter without a mode, before a list of no
value and a name. -/
theorem compile_ages_before_name :
    let fs := ((empty.insert "age" ⟨.array [.int 18, .array [.int 21], .null], some .isIn⟩).insert
      "total" ⟨.array [.int 1, .int 9], some .between⟩).insert "note" ⟨.text "x", none⟩
    let gs := (empty.insert "size" ⟨.array [], some .isIn⟩).insert "name"
      ⟨.text "J", some .startsWith⟩
    (∀ key ∈ fs.keys, key ∉ gs.keys) ∧
    ((ofPairs (fs.entries ++ gs.entries)).compile 4).conditions =
      (fs.compile 4).conditions ++ (gs.compile 7).conditions ∧
    ((ofPairs (fs.entries ++ gs.entries)).compile 4).conditions.map Sql.Condition.text =
      ["age IN ($4,$5,$6)", "name LIKE $7%"] := by
  intro fs gs
  have hkeys : ∀ key ∈ fs.keys, key ∉ gs.keys := by decide
  obtain ⟨-, hconditions, -⟩ := compile_one_after_another 4 fs gs hkeys
  refine ⟨hkeys, hconditions, ?_⟩
  rw [hconditions]
  decide +kernel

end Filters

end TableSql
