import Mathlib.Data.List.Forall2

/-! Steps that may fail: what the success of several says of each. -/

namespace TableSql

theorem bind_eq_ok_iff {ε α β : Type} {first : Except ε α} {next : α → Except ε β} {b : β} :
    (first >>= next) = .ok b ↔ ∃ a, first = .ok a ∧ next a = .ok b := by
  cases first with
  | error e => simp [bind, Except.bind]
  | ok a => simp [bind, Except.bind]

theorem map_eq_ok_iff {ε α β : Type} {step : Except ε α} {f : α → β} {b : β} :
    step.map f = .ok b ↔ ∃ a, step = .ok a ∧ f a = b := by
  cases step with
  | error e => simp [Except.map]
  | ok a => simp [Except.map]

theorem map_map {ε α β γ : Type} (step : Except ε α) (f : α → β) (g : β → γ) :
    (step.map f).map g = step.map fun a => g (f a) := by
  cases step <;> rfl

/-- A step for each item of a list succeeds where each of them does. -/
theorem mapM_eq_ok_iff {ε α β : Type} {step : α → Except ε β} {as : List α} {bs : List β} :
    as.mapM step = .ok bs ↔ List.Forall₂ (fun a b => step a = .ok b) as bs := by
  induction as generalizing bs with
  | nil =>
    rw [List.forall₂_nil_left_iff, List.mapM_nil]
    exact ⟨fun h => (Except.ok.inj h).symm, fun h => congrArg Except.ok h.symm⟩
  | cons a rest ih =>
    rw [List.mapM_cons, List.forall₂_cons_left_iff, bind_eq_ok_iff]
    refine exists_congr fun b => ?_
    rw [bind_eq_ok_iff]
    constructor
    · rintro ⟨hb, others, hothers, heq⟩
      exact ⟨others, hb, ih.mp hothers, (Except.ok.inj heq).symm⟩
    · rintro ⟨others, hb, hothers, rfl⟩
      exact ⟨hb, others, ih.mpr hothers, rfl⟩

end TableSql
