import TableSql.Filter.Condition
import TableSql.Statement.Select
import TableSql.Proofs.Statement.Arguments
import Mathlib.Data.List.Forall2

/-! Filters as conditions: which of them leave one, and the ordinals and arguments that they take. -/

namespace TableSql

/-- Whether a filter leaves a condition: it has a comparison and something to compare with. -/
def Filter.isCompared (f : Filter) : Bool :=
  (f.mode.bind MatchMode.comparator?).isSome && !f.values.isEmpty

def comparedEntries (entries : List (String × Filter)) : List (String × Filter) :=
  entries.filter fun entry => entry.2.isCompared

namespace Compiled

/-- A condition stands for a filter: it compares the column of its key in its mode, and has an
ordinal for each of its values. -/
def StandsFor (entry : String × Filter) (c : Sql.Condition) : Prop :=
  ∃ mode comparator, entry.2.mode = some mode ∧ mode.comparator? = some comparator ∧
    c = ⟨entry.1, comparator, mode.pattern, c.ordinals⟩ ∧
    c.ordinals.length = entry.2.values.length

theorem ofEntries_cons_of_isCompared {key : String} {f : Filter} {mode : MatchMode}
    {comparator : Sql.Comparator} (hmode : f.mode = some mode)
    (hcomparator : mode.comparator? = some comparator) (hvalues : f.values ≠ []) (start : Nat)
    (rest : List (String × Filter)) :
    ofEntries start ((key, f) :: rest) =
      ⟨⟨key, comparator, mode.pattern, List.range' start f.values.length⟩
          :: (ofEntries (start + f.values.length) rest).conditions,
        f.values ++ (ofEntries (start + f.values.length) rest).args,
        (ofEntries (start + f.values.length) rest).next⟩ := by
  have hbind : f.mode.bind MatchMode.comparator? = some comparator := by
    rw [hmode, Option.bind_some, hcomparator]
  cases hcases : f.values with
  | nil => exact absurd hcases hvalues
  | cons v vs =>
    rw [ofEntries, hbind, hcases, hmode]

theorem ofEntries_cons_of_not_isCompared {f : Filter} (h : f.isCompared = false) (start : Nat)
    (key : String) (rest : List (String × Filter)) :
    ofEntries start ((key, f) :: rest) = ofEntries start rest := by
  rw [ofEntries]
  split
  next mode comparator v vs hmode hcomparator hvalues =>
    rw [Filter.isCompared, hcomparator, hvalues] at h
    cases h
  next => rfl

theorem exists_of_isCompared {f : Filter} (h : f.isCompared = true) :
    ∃ mode comparator, f.mode = some mode ∧ mode.comparator? = some comparator ∧
      f.values ≠ [] := by
  unfold Filter.isCompared at h
  obtain ⟨hsome, hvalues⟩ := Bool.and_eq_true_iff.mp h
  obtain ⟨comparator, hcomparator⟩ := Option.isSome_iff_exists.mp hsome
  obtain ⟨mode, hmode, hcomparator⟩ := Option.bind_eq_some_iff.mp hcomparator
  exact ⟨mode, comparator, hmode, hcomparator, by simpa using hvalues⟩

/-- The conditions stand for the filters that leave one, in their order, and no other filter takes
an ordinal or an argument. -/
theorem ofEntries_spec (start : Nat) (entries : List (String × Filter)) :
    List.Forall₂ StandsFor (comparedEntries entries) (ofEntries start entries).conditions ∧
      (ofEntries start entries).conditions.flatMap Sql.Condition.ordinals =
        List.range' start (ofEntries start entries).args.length ∧
      (ofEntries start entries).args = (comparedEntries entries).flatMap (·.2.values) ∧
      (ofEntries start entries).next = start + (ofEntries start entries).args.length := by
  induction entries generalizing start with
  | nil => exact ⟨.nil, rfl, rfl, rfl⟩
  | cons entry rest ih =>
    obtain ⟨key, f⟩ := entry
    cases hcompared : f.isCompared with
    | false =>
      have hentries : comparedEntries ((key, f) :: rest) = comparedEntries rest :=
        List.filter_cons_of_neg (by simp [hcompared])
      rw [ofEntries_cons_of_not_isCompared hcompared, hentries]
      exact ih start
    | true =>
      have hentries : comparedEntries ((key, f) :: rest) = (key, f) :: comparedEntries rest :=
        List.filter_cons_of_pos (by simpa using hcompared)
      obtain ⟨mode, comparator, hmode, hcomparator, hvalues⟩ := exists_of_isCompared hcompared
      obtain ⟨hconditions, hordinals, hargs, hnext⟩ := ih (start + f.values.length)
      rw [ofEntries_cons_of_isCompared hmode hcomparator hvalues, hentries]
      refine ⟨.cons ?_ hconditions, ?_, ?_, ?_⟩
      · exact ⟨mode, comparator, hmode, hcomparator, rfl, List.length_range'⟩
      · rw [List.flatMap_cons, hordinals, List.length_append]
        exact List.range'_append_1
      · rw [List.flatMap_cons, ← hargs]
      · rw [hnext, List.length_append]
        omega

theorem map_key_conditions (start : Nat) (entries : List (String × Filter)) :
    (ofEntries start entries).conditions.map Sql.Condition.key =
      (comparedEntries entries).map Prod.fst := by
  obtain ⟨hconditions, -⟩ := ofEntries_spec start entries
  have hkeys : List.Forall₂ (· = ·) ((comparedEntries entries).map Prod.fst)
      ((ofEntries start entries).conditions.map Sql.Condition.key) := by
    refine List.forall₂_map_left_iff.mpr (List.forall₂_map_right_iff.mpr ?_)
    refine hconditions.imp fun entry c hstands => ?_
    obtain ⟨mode, comparator, -, -, hc, -⟩ := hstands
    rw [hc]
  rw [List.forall₂_eq_eq_eq] at hkeys
  exact hkeys.symm

end Compiled

/-- Lists cut into parts of equal lengths are equal part by part where they are equal. -/
theorem forall₂_and_eq_of_flatMap_eq {R : α → β → Prop} {f : α → List γ} {g : β → List γ}
    {xs : List α} {ys : List β} (hR : List.Forall₂ R xs ys)
    (hlength : ∀ a b, R a b → (f a).length = (g b).length) (h : xs.flatMap f = ys.flatMap g) :
    List.Forall₂ (fun a b => R a b ∧ f a = g b) xs ys := by
  induction hR with
  | nil => exact .nil
  | cons hhead _ ih =>
    rw [List.flatMap_cons, List.flatMap_cons] at h
    obtain ⟨heq, hrest⟩ := List.append_inj h (hlength _ _ hhead)
    exact .cons ⟨hhead, heq⟩ (ih hrest)

end TableSql
