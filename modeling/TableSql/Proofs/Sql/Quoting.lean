import TableSql.Proofs.Sql.Identifier
import TableSql.Sql.Command

/-! Which names are quoted, and what a quoted name is read back as. The reserved words are sorted, so
that a search by halving decides which names are among them. -/

namespace TableSql.Sql.Identifier

section Search

/-- Looks a word up in sorted words: it is compared with the one in the middle, and the search goes
on below or above that one. -/
def isFound (word : String) (words : List String) : Bool :=
  match h : words.drop (words.length / 2) with
  | [] => false
  | middle :: above =>
    if word = middle then true
    else if word < middle then isFound word (words.take (words.length / 2))
    else isFound word above
termination_by words.length
decreasing_by
  all_goals
    have hlength := congrArg List.length h
    simp only [List.length_drop, List.length_cons, List.length_take] at hlength ⊢
    omega

/-- What is sorted lies below and above each of its words. -/
theorem sorted_around {words above : List String} {middle : String} {count : Nat}
    (h : words.Pairwise (· < ·)) (hdrop : words.drop count = middle :: above) :
    (words.take count).Pairwise (· < ·) ∧ above.Pairwise (· < ·) ∧
      (∀ word ∈ words.take count, word < middle) ∧ (∀ word ∈ above, middle < word) ∧
      ∀ word, word ∈ words ↔ word ∈ words.take count ∨ word = middle ∨ word ∈ above := by
  have hwords : words = words.take count ++ middle :: above := by
    rw [← hdrop, List.take_append_drop]
  rw [hwords] at h
  obtain ⟨hbelow, hupper, hless⟩ := List.pairwise_append.mp h
  obtain ⟨hgreater, habove⟩ := List.pairwise_cons.mp hupper
  refine ⟨hbelow, habove, fun word hword => hless word hword middle List.mem_cons_self, hgreater,
    fun word => ?_⟩
  conv_lhs => rw [hwords]
  rw [List.mem_append, List.mem_cons]

theorem isFound_iff {words : List String} (h : words.Pairwise (· < ·)) (word : String) :
    isFound word words = true ↔ word ∈ words := by
  fun_induction isFound word words with
  | case1 words hdrop =>
    have hlength := List.drop_eq_nil_iff.mp hdrop
    have hnil : words = [] := List.eq_nil_of_length_eq_zero (by omega)
    simp [hnil]
  | case2 words above hdrop =>
    obtain ⟨-, -, -, -, hmem⟩ := sorted_around h hdrop
    exact ⟨fun _ => (hmem word).mpr (.inr (.inl rfl)), fun _ => rfl⟩
  | case3 words middle above hdrop hne hlt ih =>
    obtain ⟨hbelow, -, -, hgreater, hmem⟩ := sorted_around h hdrop
    -- A word below the middle one is not above it, so that nothing is lost with what is above.
    have habove : word ∉ above := fun hword => String.lt_asymm hlt (hgreater word hword)
    rw [ih hbelow, hmem, or_iff_left (not_or.mpr ⟨hne, habove⟩)]
  | case4 words middle above hdrop hne hlt ih =>
    obtain ⟨-, habove, hless, -, hmem⟩ := sorted_around h hdrop
    have hbelow : word ∉ words.take (words.length / 2) := fun hword => hlt (hless word hword)
    rw [ih habove, hmem, or_iff_right hbelow, or_iff_right hne]

theorem sorted_reservedWords : reservedWords.Pairwise (· < ·) := by
  -- Only neighbours are compared; the order of the others follows.
  have hchain : reservedWords.IsChain (· < ·) := by decide +kernel
  exact List.isChain_iff_pairwise.mp hchain

private theorem isUpper_iff (c : Char) : c.isUpper = true ↔ 'A' ≤ c ∧ c ≤ 'Z' :=
  decide_eq_true_iff

theorem isReserved_iff (name : String) : isReserved name = true ↔ fold name ∈ reservedWords :=
  List.contains_iff_mem

end Search

section Quoted

/-- What stands behind the opening quote of a quoted name: the name is read back from it, whatever
follows that does not continue it. -/
theorem exists_inside (name : String) :
    ∃ inside, (quoted name).toList = '"' :: inside ∧
      ∀ after, after.head? ≠ some '"' → readInside? (inside ++ after) = some (name.toList, after) := by
  refine ⟨doubleQuotes name.toList ++ ['"'], ?_, fun after hafter => ?_⟩
  · rw [quoted, String.toList_ofList]
    rfl
  · rw [List.append_assoc]
    exact readInside?_doubleQuotes hafter name.toList

theorem quoted_injective {name other : String} (h : quoted name = quoted other) : name = other := by
  have hend : ([] : List Char).head? ≠ some '"' := nofun
  have hread := token?_quoted hend name
  rw [h, token?_quoted hend other] at hread
  exact String.toList_inj.mp (Prod.mk.inj (Option.some.inj hread)).1.symm

/-- The two quotes are written too, so that no name is its own quoted form. -/
theorem quoted_ne (name : String) : quoted name ≠ name := by
  intro h
  obtain ⟨inside, hinside, hread⟩ := exists_inside name
  have hlength := length_lt_of_readInside? (hread [] nofun)
  rw [← h, hinside, List.append_nil, List.length_cons] at hlength
  omega

theorem quote_eq_iff (name : String) : quote name = name ↔ needsQuotes name = false := by
  unfold quote
  cases needsQuotes name with
  | true => simp [quoted_ne]
  | false => simp

theorem quote_eq_quoted {name : String} (h : quote name ≠ name) : quote name = quoted name := by
  rw [Ne, quote_eq_iff, Bool.not_eq_false] at h
  rw [quote, if_pos h]

/-- Names are split at their quotes and joined with two, or each quote is doubled. -/
theorem intercalate_piecesBetweenQuotes (name : List Char) :
    ['"', '"'].intercalate (piecesBetweenQuotes name) = doubleQuotes name ∧
      piecesBetweenQuotes name ≠ [] := by
  induction name with
  | nil => exact ⟨rfl, List.cons_ne_nil _ _⟩
  | cons c rest ih =>
    obtain ⟨hrest, hne⟩ := ih
    rw [piecesBetweenQuotes, doubleQuotes]
    cases hpieces : piecesBetweenQuotes rest with
    | nil => exact absurd hpieces hne
    | cons piece pieces =>
      rw [hpieces] at hrest
      split
      · refine ⟨?_, List.cons_ne_nil _ _⟩
        rw [← hrest]
        rfl
      · refine ⟨?_, List.cons_ne_nil _ _⟩
        rw [← hrest]
        cases pieces <;> rfl

theorem returningClause_eq (name : String) : returningClause name = "RETURNING " ++ quoted name := by
  obtain ⟨hname, -⟩ := intercalate_piecesBetweenQuotes name.toList
  apply String.toList_inj.mp
  rw [returningClause, hname, quoted]
  simp

end Quoted

/-- A name is left as it is exactly where it has no upper-case letter of ASCII and is, in lower case,
none of the reserved words, among which a search by halving decides. Any other is written between
quotes, behind the first of which reading finds the name and ends at the last, whatever follows but
a quote; no other quoted name is written alike, and a clause that returns the column writes it alike. -/
theorem quoted_names_read_back (name : String) :
    (quote name = name ↔
      (∀ c ∈ name.toList, ¬ ('A' ≤ c ∧ c ≤ 'Z')) ∧ fold name ∉ reservedWords) ∧
    isReserved name = isFound (fold name) reservedWords ∧
    (quote name ≠ name →
      (∃ inside, (quote name).toList = '"' :: inside ∧
        ∀ after, after.head? ≠ some '"' →
          readInside? (inside ++ after) = some (name.toList, after)) ∧
      (∀ other, quote other ≠ other → quote other = quote name → other = name) ∧
      returningClause name = "RETURNING" ++ " " ++ quote name) := by
  refine ⟨?_, ?_, fun hquoted => ?_⟩
  · rw [quote_eq_iff, needsQuotes, Bool.or_eq_false_iff, List.any_eq_false, ← Bool.not_eq_true,
      isReserved_iff]
    simp only [isUpper_iff]
  · rw [Bool.eq_iff_iff, isReserved_iff, isFound_iff sorted_reservedWords]
  · rw [quote_eq_quoted hquoted]
    refine ⟨exists_inside name, fun other hother h => ?_, returningClause_eq name⟩
    rw [quote_eq_quoted hother] at h
    exact quoted_injective h

theorem sayHi_read_back :
    quote "Say\"hi\"" ≠ "Say\"hi\"" ∧
    (∃ inside, (quote "Say\"hi\"").toList = '"' :: inside ∧
      readInside? (inside ++ ")".toList) = some ("Say\"hi\"".toList, ")".toList)) ∧
    returningClause "Say\"hi\"" = "RETURNING \"Say\"\"hi\"\"\"" := by
  have hquoted : quote "Say\"hi\"" ≠ "Say\"hi\"" := by decide +kernel
  have hparen : ")".toList.head? ≠ some '"' := by decide
  obtain ⟨-, -, hread⟩ := quoted_names_read_back "Say\"hi\""
  obtain ⟨⟨inside, hinside, hinsideRead⟩, -, hclause⟩ := hread hquoted
  exact ⟨hquoted, ⟨inside, hinside, hinsideRead _ hparen⟩, hclause.trans (by decide +kernel)⟩

end TableSql.Sql.Identifier
