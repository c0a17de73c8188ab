import Mathlib.Data.List.Chain
import TableSql.Text.Blank

/-! The words of a text with one space between each two: what is kept, and that nothing is left to
be collapsed. -/

namespace TableSql.Text

/-- No blank but single spaces between characters that are not blank. -/
structure SingleSpaced (cs : List Char) : Prop where
  blank_eq_space : ∀ c ∈ cs, isBlank c → c = ' '
  head_not_blank : ∀ c ∈ cs.head?, ¬ isBlank c
  last_not_blank : ∀ c ∈ cs.getLast?, ¬ isBlank c
  no_two_blanks : cs.IsChain fun c d => ¬ (isBlank c ∧ isBlank d)

/-- Whether characters are a word: there are some, and none is blank. -/
def IsWord (w : List Char) : Prop := w ≠ [] ∧ ∀ c ∈ w, ¬ isBlank c

theorem IsWord.cons {c : Char} {w : List Char} (hc : ¬ isBlank c) (hw : ∀ d ∈ w, ¬ isBlank d) :
    IsWord (c :: w) :=
  ⟨List.cons_ne_nil c w, List.forall_mem_cons.mpr ⟨hc, hw⟩⟩

theorem isWord_of_mem_words (cs : List Char) : ∀ w ∈ words cs, IsWord w := by
  fun_induction words cs with
  | case1 => exact List.forall_mem_nil _
  | case2 c cs hblank ih => exact ih
  | case3 c cs hc hhead ih =>
    exact List.forall_mem_cons.mpr ⟨.cons hc (List.forall_mem_nil _), ih⟩
  | case4 c cs hc hhead hwords ih =>
    exact List.forall_mem_singleton.mpr (.cons hc (List.forall_mem_nil _))
  | case5 c cs hc hhead word rest hwords ih =>
    rw [hwords] at ih
    obtain ⟨hword, hrest⟩ := List.forall_mem_cons.mp ih
    exact List.forall_mem_cons.mpr ⟨.cons hc hword.2, hrest⟩

theorem flatten_words (cs : List Char) : (words cs).flatten = cs.filter fun c => !isBlank c := by
  fun_induction words cs with
  | case1 => rfl
  | case2 c cs hblank ih => rw [ih, List.filter_cons_of_neg (by simp [hblank])]
  | case3 c cs hc hhead ih =>
    rw [List.flatten_cons, ih, List.filter_cons_of_pos (by simp [hc])]
    rfl
  | case4 c cs hc hhead hwords ih =>
    rw [hwords] at ih
    rw [List.filter_cons_of_pos (by simp [hc]), ← ih]
    rfl
  | case5 c cs hc hhead word rest hwords ih =>
    rw [hwords] at ih
    rw [List.filter_cons_of_pos (by simp [hc]), ← ih]
    rfl

/-- A word ends where a blank follows or nothing. -/
theorem words_append {w rest : List Char} (hw : IsWord w) (hrest : rest.head?.all isBlank) :
    words (w ++ rest) = w :: words rest := by
  obtain ⟨hne, hw⟩ := hw
  induction w with
  | nil => exact absurd rfl hne
  | cons c w ih =>
    obtain ⟨hc, hw⟩ := List.forall_mem_cons.mp hw
    cases w with
    | nil =>
      rw [List.singleton_append, words, if_neg hc, if_pos hrest]
    | cons d w =>
      have hd : ¬ isBlank d := hw d List.mem_cons_self
      have hhead : ((d :: w) ++ rest).head?.all isBlank = false := by simpa using hd
      rw [List.cons_append, words, if_neg hc, hhead, if_neg Bool.false_ne_true,
        ih (List.cons_ne_nil d w) hw]

private theorem words_of_isWord {w : List Char} (hw : IsWord w) : words w = [w] := by
  have hwords : words (w ++ []) = w :: words [] := words_append hw rfl
  rwa [List.append_nil, words] at hwords

theorem words_intercalate {ws : List (List Char)} (h : ∀ w ∈ ws, IsWord w) :
    words (List.intercalate [' '] ws) = ws := by
  induction ws with
  | nil => rfl
  | cons w ws ih =>
    obtain ⟨hw, hws⟩ := List.forall_mem_cons.mp h
    cases ws with
    | nil =>
      rw [List.intercalate_singleton, words_of_isWord hw]
    | cons v ws =>
      rw [List.intercalate_cons_cons, List.append_assoc, words_append hw rfl,
        List.singleton_append, words, if_pos (by decide), ih hws]

namespace SingleSpaced

theorem of_isWord {w : List Char} (hw : IsWord w) : SingleSpaced w where
  blank_eq_space c hc hblank := absurd hblank (hw.2 c hc)
  head_not_blank c hc := hw.2 c (List.mem_of_head? hc)
  last_not_blank c hc := hw.2 c (List.mem_of_getLast? hc)
  no_two_blanks := by
    apply List.Pairwise.isChain
    exact List.pairwise_of_forall_mem_list fun c hc d _ hboth => hw.2 c hc hboth.1

theorem append {cs ds : List Char} (hcs : SingleSpaced cs) (hds : SingleSpaced ds) (hc : cs ≠ [])
    (hd : ds ≠ []) : SingleSpaced (cs ++ ' ' :: ds) where
  blank_eq_space c hmem hblank := by
    rcases List.mem_append.mp hmem with h | h
    · exact hcs.blank_eq_space c h hblank
    · rcases List.mem_cons.mp h with rfl | h
      · rfl
      · exact hds.blank_eq_space c h hblank
  head_not_blank c h := by
    rw [List.head?_append_of_ne_nil _ hc] at h
    exact hcs.head_not_blank c h
  last_not_blank c h := by
    rw [List.getLast?_append_of_ne_nil _ (List.cons_ne_nil _ _),
      List.getLast?_cons_of_ne_nil hd] at h
    exact hds.last_not_blank c h
  no_two_blanks := by
    have hspaced : (' ' :: ds).IsChain fun c d => ¬ (isBlank c ∧ isBlank d) :=
      List.isChain_cons.mpr
        ⟨fun d hhead hboth => hds.head_not_blank d hhead hboth.2, hds.no_two_blanks⟩
    exact List.isChain_append.mpr ⟨hcs.no_two_blanks, hspaced, fun c hlast _ _ hboth =>
      hcs.last_not_blank c hlast hboth.1⟩

end SingleSpaced

theorem singleSpaced_intercalate {ws : List (List Char)} (h : ∀ w ∈ ws, IsWord w) :
    SingleSpaced (List.intercalate [' '] ws) := by
  induction ws with
  | nil => constructor <;> simp
  | cons w ws ih =>
    obtain ⟨hw, hws⟩ := List.forall_mem_cons.mp h
    cases ws with
    | nil =>
      rw [List.intercalate_singleton]
      exact .of_isWord hw
    | cons v ws =>
      rw [List.intercalate_cons_cons, List.append_assoc, List.singleton_append]
      refine .append (.of_isWord hw) (ih hws) hw.1 fun hnil => ?_
      have := words_intercalate hws
      rw [hnil, words] at this
      cases this

/-- Collapsing parts no word and joins none. -/
theorem words_collapse (text : String) : words (collapse text).toList = words text.toList := by
  unfold collapse
  rw [String.toList_ofList, words_intercalate (isWord_of_mem_words text.toList)]

theorem collapse_collapse (text : String) : collapse (collapse text) = collapse text := by
  rw [collapse, words_collapse, collapse]

/-- Collapsing keeps what is not blank. -/
theorem filter_collapse (text : String) :
    (collapse text).toList.filter (fun c => !isBlank c) =
      text.toList.filter fun c => !isBlank c := by
  rw [← flatten_words, words_collapse, flatten_words]

theorem singleSpaced_collapse (text : String) : SingleSpaced (collapse text).toList := by
  unfold collapse
  rw [String.toList_ofList]
  exact singleSpaced_intercalate (isWord_of_mem_words text.toList)

end TableSql.Text
