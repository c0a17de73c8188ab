import TableSql.Proofs.Entity.Texts
import TableSql.Proofs.Sql.Command

/-! Conditions as comparisons: a comparison has one placeholder on its right, or a list of them in
parentheses. The kinds of properties allow no mode that compares with a list, so that a condition of
a request is a comparison only where its filter has one value. -/

namespace TableSql

namespace Sql

theorem length_placeholderRuns_pattern (p : Pattern) (ordinals : List Nat) :
    (placeholderRuns (p.text ordinals).toList).length = ordinals.length := by
  rw [(shows_pattern p ordinals).placeholderRuns_eq, List.length_map]

/-- Whether a condition is a comparison: what stands behind the comparator has one placeholder, or
is a list in parentheses behind IN. -/
def Condition.IsComparison (c : Condition) : Prop :=
  (placeholderRuns (c.pattern.text c.ordinals).toList).length = 1 ∨
    c.comparator = .isIn ∧ ∃ list, c.pattern.text c.ordinals = "(" ++ list ++ ")"

theorem Condition.isComparison_iff_of_ne_isIn {c : Condition} (h : c.comparator ≠ .isIn) :
    c.IsComparison ↔ c.ordinals.length = 1 := by
  rw [IsComparison, length_placeholderRuns_pattern]
  exact or_iff_left fun hlist => h hlist.1

end Sql

/-- No kind of property can be compared with a list. -/
theorem MatchMode.comparator?_ne_isIn_of_allowedFor {m : MatchMode} {k : Kind}
    (h : m.allowedFor k) : m.comparator? ≠ some .isIn := by
  revert h
  cases k <;> cases m <;> decide

namespace Entity

variable {σ : Type}

private theorem exists_allowedFor_of_admits {e : Entity} {entry : String × Filter}
    {mode : MatchMode} (h : e.admits entry = true) (hmode : entry.2.mode = some mode) :
    ∃ k, mode.allowedFor k := by
  unfold admits at h
  obtain ⟨p, -, hp⟩ := (Option.any_eq_true _ _).mp h
  have hallowed := (Bool.and_eq_true_iff.mp (Bool.and_eq_true_iff.mp hp).1).2
  rw [hmode, Option.any_some] at hallowed
  exact ⟨p.kind, hallowed⟩

/-- Each admitted filter of a request leaves one condition, in the order of the request, and no
other filter leaves any. A condition compares without IN, and what stands behind its comparator has
a placeholder for each value of the filter; so it is a comparison exactly where the filter has one
value, alone or as the only one of an array. -/
theorem get_compares_oneValue_iff (e : Entity) (client : Client σ) (request : SelectRequest)
    (session : Session (σ × List Statement)) :
    ∃ (statement : Statement) (conditions : List Sql.Condition),
      ((e.get client.recorded request).run session).2.client.2 =
        session.client.2 ++ [statement] ∧
      statement.text =
        Sql.Select.head e.registry.select.sql request.pagination e.table
          ++ Sql.whereClause (conditions.map Sql.Condition.text) .and
          ++ Sql.orderBy request.sortField request.sortOrder
          ++ Sql.limit request.rows request.first ∧
      List.Forall₂ (fun entry c =>
          c.text = Sql.Identifier.quote entry.1 ++ " " ++ c.comparator.text ++ " "
            ++ c.pattern.text c.ordinals ∧
          c.comparator ≠ .isIn ∧
          (Sql.placeholderRuns (c.pattern.text c.ordinals).toList).length =
            entry.2.valueCount ∧
          (c.IsComparison ↔ entry.2.valueCount = 1))
        (request.filters.entries.filter e.admits) conditions := by
  let conditions := ((e.clean request.filters).compile 1).conditions
  obtain ⟨hconditions, -⟩ := Compiled.ofEntries_spec 1 (e.clean request.filters).entries
  rw [comparedEntries_clean] at hconditions
  have hadmitted : List.Forall₂ (fun entry c => e.admits entry = true ∧ Compiled.StandsFor entry c)
      (request.filters.entries.filter e.admits) conditions :=
    (List.forall₂_and_left _ _).mpr
      ⟨fun entry hentry => (List.mem_filter.mp hentry).2, hconditions⟩
  refine ⟨e.selectStatement (e.cleaned request), conditions, e.sent_get client request session,
    rfl, hadmitted.imp ?_⟩
  rintro entry c ⟨hadmits, mode, comparator, hmode, hcomparator, hc, hlength⟩
  -- Cleaning has looked at the mode, so that the comparison is one that a kind of property allows.
  have hne : c.comparator ≠ .isIn := by
    obtain ⟨k, hallowed⟩ := exists_allowedFor_of_admits hadmits hmode
    have h := MatchMode.comparator?_ne_isIn_of_allowedFor hallowed
    rw [hcomparator] at h
    rw [hc]
    exact fun heq => h (congrArg some heq)
  rw [entry.2.length_values] at hlength
  refine ⟨?_, hne, ?_, ?_⟩
  · rw [Sql.Condition.text, hc]
  · rw [Sql.length_placeholderRuns_pattern, hlength]
  · rw [Sql.Condition.isComparison_iff_of_ne_isIn hne, hlength]

/-- Two names are compared with by a mode for one, so that a comma follows the first. -/
theorem get_compares_name_with_two :
    let request : SelectRequest :=
      { SelectRequest.all with
        filters := Filters.empty.insert "name" ⟨.array [.text "John", .text "Ann"], some .equals⟩ }
    let sent := (((persons 2 (by decide)).get Client.scripted.recorded request).run
      ⟨([], []), []⟩).2.client.2
    sent.map Statement.text = ["SELECT name, age FROM persons WHERE name = $1,$2"] ∧
    ∃ s : Sql.Select, sent.map (·.command) = [.select s] ∧
      s.conditions.map Sql.Condition.text = ["name = $1,$2"] ∧
      ∀ c ∈ s.conditions, ¬ c.IsComparison := by
  intro request sent
  have hsent : sent = [] ++ [(persons 2 (by decide)).selectStatement
      ((persons 2 (by decide)).cleaned request)] := sent_get _ Client.scripted request ⟨([], []), []⟩
  rw [hsent]
  refine ⟨by decide +kernel, _, rfl, by decide +kernel, fun c hc => ?_⟩
  obtain rfl := List.mem_singleton.mp hc
  rw [Sql.Condition.isComparison_iff_of_ne_isIn (by decide)]
  decide

end Entity

end TableSql
