import TableSql.Json.Raw

/-! Strings in JSON: what is read between the quotes is what was escaped. -/

namespace TableSql.Json

namespace Piece

/-- The code of a control is written with four digits. -/
theorem unit?_control : ∀ n < 32,
    unit? (some '0') (some '0') (some (Nat.digitChar (n / 16))) (some (Nat.digitChar (n % 16))) =
      some n := by
  decide

/-- An escaped character is one piece, which has that character as its content. -/
theorem scan_escape (c : Char) (rest : Source) :
    ∃ piece, scan ((escape c).map some ++ rest) = (piece :: (scan rest).1, (scan rest).2) ∧
      ∀ stop pieces, content stop (piece :: pieces) = (content stop pieces).map (c :: ·) := by
  have hchar : ∀ stop pieces, content stop (.char c :: pieces) =
      (content stop pieces).map (c :: ·) := fun _ _ => rfl
  unfold escape
  split
  case h_8 hquote hbackslash _ _ _ _ _ =>
    split
    · next hcontrol =>
      refine ⟨.unit c.toNat, ?_, ?_⟩
      · simp only [List.map_cons, List.map_nil, List.cons_append, List.nil_append, scan,
          unit?_control _ hcontrol]
      · intro stop pieces
        have htrailing : isTrailing c.toNat = false := by
          simp only [isTrailing, Bool.and_eq_false_imp, decide_eq_true_eq]
          omega
        have hleading : isLeading c.toNat = false := by
          simp only [isLeading, Bool.and_eq_false_imp, decide_eq_true_eq]
          omega
        rw [content.eq_def]
        dsimp only
        rw [htrailing, hleading, if_neg Bool.false_ne_true, if_neg Bool.false_ne_true,
          Char.ofNat_toNat]
    · next hcontrol =>
      refine ⟨.char c, ?_, hchar⟩
      rw [List.map_cons, List.map_nil, List.singleton_append, scan.eq_def]
      split <;> simp_all
  all_goals exact ⟨_, by simp [scan, escaped?], hchar⟩

private theorem scan_string (cs : List Char) (rest : Source) :
    ∃ pieces, scan ((cs.flatMap escape).map some ++ some '"' :: rest) = (pieces, .ok rest) ∧
      content (.ok ()) pieces = .ok cs := by
  induction cs with
  | nil => exact ⟨[], by simp [scan], rfl⟩
  | cons c cs ih =>
    obtain ⟨pieces, hscan, hcontent⟩ := ih
    obtain ⟨piece, hpiece, hchar⟩ :=
      scan_escape c ((cs.flatMap escape).map some ++ some '"' :: rest)
    refine ⟨piece :: pieces, ?_, ?_⟩
    · rw [List.flatMap_cons, List.map_append, List.append_assoc, hpiece, hscan]
    · rw [hchar, hcontent]
      rfl

end Piece

def quotedTail (s : String) : Source := (s.toList.flatMap escape).map some ++ [some '"']

theorem stringText_toList (s : String) :
    (stringText s).toList.map some = some '"' :: quotedTail s := by
  simp [stringText, quotedTail]

theorem Raw.stringBody_quotedTail (s : String) (rest : Source) :
    Raw.stringBody (quotedTail s ++ rest) = (.string (.ok s), rest) := by
  obtain ⟨pieces, hscan, hcontent⟩ := Piece.scan_string s.toList rest
  unfold Raw.stringBody quotedTail
  rw [List.append_assoc, List.singleton_append, hscan]
  dsimp only
  rw [hcontent]
  simp [Except.map]

end TableSql.Json
