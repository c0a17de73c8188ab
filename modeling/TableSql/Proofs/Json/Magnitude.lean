import TableSql.Proofs.Json.Number

/-! How large an integer in JSON can be, and what its text begins with. -/

namespace TableSql.Json

namespace Literal

private theorem absorb_lt {start significand : Nat} {ds omitted : List Nat} (hds : ∀ d ∈ ds, d < 10)
    (h : absorb start ds = (significand, omitted)) :
    significand < (start + 1) * 10 ^ ds.length := by
  induction ds generalizing start with
  | nil =>
    cases h
    simp
  | cons d ds ih =>
    have hd := hds d List.mem_cons_self
    rw [absorb] at h
    split at h
    · have hrest := ih (fun e he => hds e (List.mem_cons_of_mem _ he)) h
      have hstep : start * 10 + d + 1 ≤ (start + 1) * 10 := by omega
      rw [List.length_cons, Nat.pow_succ', ← Nat.mul_assoc]
      exact hrest.trans_le (Nat.mul_le_mul_right _ hstep)
    · cases h
      have hpos : 0 < 10 ^ (d :: ds).length := Nat.pow_pos (by decide)
      exact (Nat.lt_succ_self significand).trans_le (Nat.le_mul_of_pos_right _ hpos)

/-- An integer has no more digits than are written before the point. -/
theorem natAbs_lt_of_number? {l : Literal} {i : Int} (hwhole : ∀ d ∈ l.whole, d < 10)
    (h : l.number? = some (.integer i)) : i.natAbs < 10 ^ l.whole.length := by
  rcases habsorb : absorb 0 l.whole with ⟨significand, omitted⟩
  have hlt := absorb_lt hwhole habsorb
  rw [Nat.zero_add, Nat.one_mul] at hlt
  unfold number? at h
  dsimp only at h
  rw [habsorb] at h
  dsimp only at h
  split at h
  · split at h
    · cases h
      exact hlt
    · split at h
      · cases h
      · cases h
        rw [Int.natAbs_neg]
        exact hlt
  · obtain ⟨d, -, hd⟩ := Option.map_eq_some_iff.mp h
    cases hd

end Literal

namespace Raw

private theorem digits_spec (source : Source) :
    (∀ d ∈ (digits source).1, d < 10) ∧ (digits source).1.length ≤ source.length := by
  induction source with
  | nil => exact ⟨fun d hd => absurd hd List.not_mem_nil, Nat.le_refl _⟩
  | cons c source ih =>
    have hnone : digits (c :: source) = ([], c :: source) →
        (∀ d ∈ (digits (c :: source)).1, d < 10) ∧
          (digits (c :: source)).1.length ≤ (c :: source).length := by
      intro h
      rw [h]
      exact ⟨fun d hd => absurd hd List.not_mem_nil, Nat.zero_le _⟩
    cases c with
    | none => exact hnone rfl
    | some c =>
      by_cases hc : c.isDigit
      · have hdigits : (digits (some c :: source)).1 =
            (c.toNat - '0'.toNat) :: (digits source).1 := by
          simp [digits, hc]
        obtain ⟨hlow, hhigh⟩ := Char.isDigit_iff_toNat.mp hc
        have hnine : '9'.toNat = '0'.toNat + 9 := rfl
        rw [hdigits]
        refine ⟨fun d hd => ?_, Nat.succ_le_succ ih.2⟩
        rcases List.mem_cons.mp hd with rfl | hd
        · omega
        · exact ih.1 d hd
      · exact hnone (by simp [digits, hc])

theorem exists_literal_of_exponent {lead : Char} {l : Literal} {source after : Source}
    {x : Option Number} (h : exponent lead l source = (.number x, after)) :
    ∃ l' : Literal, l'.whole = l.whole ∧ x = l'.number? := by
  have hmark : ∀ source, exponentDigits lead l source = (.number x, after) →
      ∃ l' : Literal, l'.whole = l.whole ∧ x = l'.number? := by
    intro source h
    unfold exponentDigits at h
    split at h
    · cases h
    · next ds after _ _ =>
      cases h
      exact ⟨{ l with exponent := some ((exponentSign source).1, ds) }, rfl, rfl⟩
  rw [exponent_eq] at h
  split at h
  · exact hmark _ h
  · exact hmark _ h
  · cases h
    exact ⟨l, rfl, rfl⟩

private theorem exists_literal_of_mantissa {lead : Char} {negative : Bool} {whole : List Nat}
    {source after : Source} {x : Option Number}
    (h : mantissa lead negative whole source = (.number x, after)) :
    ∃ l : Literal, l.whole = whole ∧ x = l.number? := by
  unfold mantissa at h
  split at h
  · split at h
    · cases h
    · exact exists_literal_of_exponent h
  · exact exists_literal_of_exponent h

private theorem exists_literal_of_numberBody {lead : Char} {negative : Bool} {source after : Source}
    {x : Option Number} (h : numberBody lead negative source = (.number x, after)) :
    ∃ l : Literal, l.whole = (digits source).1 ∧ x = l.number? := by
  rw [numberBody_eq] at h
  unfold numberFrom at h
  split at h
  · cases h
  · cases h
  · exact exists_literal_of_mantissa h

theorem natAbs_lt_of_numberBody {lead : Char} {negative : Bool} {source after : Source} {i : Int}
    (h : numberBody lead negative source = (.number (some (.integer i)), after)) :
    i.natAbs < 10 ^ source.length := by
  obtain ⟨l, hwhole, hl⟩ := exists_literal_of_numberBody h
  obtain ⟨hdigits, hlength⟩ := digits_spec source
  have hlt := Literal.natAbs_lt_of_number? (hwhole ▸ hdigits) hl.symm
  rw [hwhole] at hlt
  exact hlt.trans_le (Nat.pow_le_pow_right (by decide) hlength)

/-- A text that is read as an integer has a character for each of its digits. -/
theorem natAbs_lt_of_value {fuel : Nat} {source after : Source} {i : Int}
    (h : value (fuel + 1) source = (.number (some (.integer i)), after)) :
    i.natAbs < 10 ^ source.length := by
  have hskip : (skipBlanks source).length ≤ source.length := (List.dropWhile_suffix _).length_le
  rcases numberBody_of_value h with ⟨body, hbody, hread⟩ | ⟨c, body, hbody, -, hread⟩
  · rw [hbody, List.length_cons] at hskip
    exact (natAbs_lt_of_numberBody hread).trans_le (Nat.pow_le_pow_right (by decide) (by omega))
  · rw [hbody] at hskip
    exact (natAbs_lt_of_numberBody hread).trans_le (Nat.pow_le_pow_right (by decide) hskip)

/-- A text that is read as a number begins with a blank, a minus sign or a digit. -/
theorem head_of_value_number {fuel : Nat} {source after : Source} {x : Option Number}
    (h : value (fuel + 1) source = (.number x, after)) :
    ∃ c, source.head? = some (some c) ∧ 9 ≤ c.toNat ∧ c.toNat < 128 := by
  cases source with
  | nil => rcases numberBody_of_value h with ⟨_, hbody, _⟩ | ⟨_, _, hbody, _⟩ <;> cases hbody
  | cons c rest =>
    by_cases hblank : c = some ' ' ∨ c = some '\n' ∨ c = some '\t' ∨ c = some '\r'
    · rcases hblank with rfl | rfl | rfl | rfl <;> exact ⟨_, rfl, by decide, by decide⟩
    · rcases numberBody_of_value h with ⟨body, hbody, -⟩ | ⟨d, body, hbody, hd, -⟩
      · rw [skipBlanks_cons hblank] at hbody
        rw [(List.cons.inj hbody).1]
        exact ⟨_, rfl, by decide, by decide⟩
      · rw [skipBlanks_cons hblank] at hbody
        rw [(List.cons.inj hbody).1]
        obtain ⟨hlow, hhigh⟩ := Char.isDigit_iff_toNat.mp hd
        have hnine : '9'.toNat = 57 := rfl
        have hzero : '0'.toNat = 48 := rfl
        exact ⟨d, rfl, by omega, by omega⟩

end Raw

end TableSql.Json
