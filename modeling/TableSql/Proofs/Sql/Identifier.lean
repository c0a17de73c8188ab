import TableSql.Proofs.Sql.Placeholder

/-! Identifiers as a server reads them back. A name that is written between quotes is read back
whatever is in it; any other has to look like an identifier by itself. -/

namespace TableSql.Sql.Identifier

/-- A letter as a server takes it: one of ASCII, or any character beyond ASCII. -/
def isLetter (c : Char) : Bool := c.isAlpha || 128 ≤ c.toNat

def isInitial (c : Char) : Bool := isLetter c || c = '_'

def isFollowing (c : Char) : Bool := isInitial c || c.isDigit || c = '$'

def isUnquoted (name : String) : Bool :=
  match name.toList with
  | [] => false
  | c :: rest => isInitial c && rest.all isFollowing

/-- Reads an identifier: the name that it stands for, and what follows it. Without quotes it goes as
far as its characters do, and stands for its lower-case letters. -/
def token? : List Char → Option (List Char × List Char)
  | [] => none
  | c :: rest =>
    if c = '"' then readInside? rest
    else if isInitial c then
      some ((c :: rest.takeWhile isFollowing).map Char.toLower, rest.dropWhile isFollowing)
    else none

section Quoted

private theorem readInside?_quote_pair (rest : List Char) :
    readInside? ('"' :: '"' :: rest) =
      (readInside? rest).map fun (name, after) => ('"' :: name, after) := by
  rw [readInside?]

private theorem readInside?_of_ne {c : Char} (h : c ≠ '"') (rest : List Char) :
    readInside? (c :: rest) =
      (readInside? rest).map fun (name, after) => (c :: name, after) := by
  rw [readInside?]
  · intro _ hc
    exact absurd hc h
  · exact h

private theorem readInside?_closing {after : List Char} (h : after.head? ≠ some '"') :
    readInside? ('"' :: after) = some ([], after) := by
  rw [readInside?]
  rintro rest rfl
  exact h rfl

/-- A quote inside is read back from its two, so that the name ends only at the closing quote. -/
theorem readInside?_doubleQuotes {after : List Char} (h : after.head? ≠ some '"')
    (name : List Char) :
    readInside? (doubleQuotes name ++ '"' :: after) = some (name, after) := by
  induction name with
  | nil => exact readInside?_closing h
  | cons c rest ih =>
    rw [doubleQuotes]
    split
    · next hc =>
      rw [List.cons_append, List.cons_append, readInside?_quote_pair, ih, hc]
      rfl
    · next hc =>
      rw [List.cons_append, readInside?_of_ne hc, ih]
      rfl

theorem length_lt_of_readInside? {chars name after : List Char}
    (h : readInside? chars = some (name, after)) : name.length + after.length < chars.length := by
  fun_induction readInside? chars generalizing name after with
  | case1 => cases h
  | case2 rest ih =>
    obtain ⟨⟨inner, left⟩, hinner, heq⟩ := Option.map_eq_some_iff.mp h
    obtain ⟨rfl, rfl⟩ := Prod.mk.inj heq
    have hlength := ih hinner
    simp only [List.length_cons]
    omega
  | case3 rest =>
    obtain ⟨rfl, rfl⟩ := Prod.mk.inj (Option.some.inj h)
    simp
  | case4 c rest _ _ ih =>
    obtain ⟨⟨inner, left⟩, hinner, heq⟩ := Option.map_eq_some_iff.mp h
    obtain ⟨rfl, rfl⟩ := Prod.mk.inj heq
    have hlength := ih hinner
    simp only [List.length_cons]
    omega

theorem token?_quoted {after : List Char} (h : after.head? ≠ some '"') (name : String) :
    token? ((quoted name).toList ++ after) = some (name.toList, after) := by
  have htext : (quoted name).toList ++ after =
      '"' :: (doubleQuotes name.toList ++ '"' :: after) := by
    rw [quoted, String.toList_ofList, List.cons_append, List.cons_append, List.append_assoc]
    rfl
  rw [htext, token?, if_pos rfl, readInside?_doubleQuotes h]

end Quoted

section Unquoted

private theorem toLower_of_not_isUpper {c : Char} (h : ¬ c.isUpper = true) : c.toLower = c :=
  dif_neg fun hupper => h (decide_eq_true hupper)

private theorem map_toLower_of_lower {chars : List Char} (h : chars.any Char.isUpper = false) :
    chars.map Char.toLower = chars := by
  calc
    chars.map Char.toLower = chars.map id :=
      List.map_congr_left fun c hc => toLower_of_not_isUpper (List.any_eq_false.mp h c hc)
    _ = chars := List.map_id chars

/-- Without quotes a name is read back as itself exactly where it is an identifier. -/
theorem token?_name_iff {name : String} (hlower : name.toList.any Char.isUpper = false)
    (after : List Char) :
    token? (name.toList ++ ' ' :: after) = some (name.toList, ' ' :: after) ↔
      isUnquoted name = true := by
  unfold isUnquoted
  cases hname : name.toList with
  | nil =>
    have hblank : token? (' ' :: after) = none := rfl
    simp [hblank]
  | cons c rest =>
    rw [hname] at hlower
    rw [List.cons_append, token?]
    dsimp only
    by_cases hquote : c = '"'
    · rw [if_pos hquote, hquote]
      constructor
      · intro h
        -- The quote and what follows up to a closing one are longer than the name.
        have hlength := length_lt_of_readInside? h
        simp only [List.length_cons, List.length_append] at hlength
        omega
      · intro h
        exact absurd (Bool.and_eq_true_iff.mp h).1 (by decide)
    · rw [if_neg hquote]
      cases hinitial : isInitial c with
      | false => simp
      | true =>
        rw [if_pos rfl, Bool.true_and]
        constructor
        · intro h
          obtain ⟨-, hafter⟩ := Prod.mk.inj (Option.some.inj h)
          have hsplit : (rest ++ ' ' :: after).takeWhile isFollowing ++
              (rest ++ ' ' :: after).dropWhile isFollowing = rest ++ ' ' :: after :=
            List.takeWhile_append_dropWhile
          rw [hafter] at hsplit
          rw [← List.append_cancel_right hsplit]
          exact List.all_takeWhile
        · intro h
          have hall := List.all_eq_true.mp h
          have hstop : isFollowing ' ' = false := by decide
          rw [List.takeWhile_append_of_pos hall, List.dropWhile_append_of_pos hall,
            List.takeWhile_cons_of_neg (by simp [hstop]),
            List.dropWhile_cons_of_neg (by simp [hstop]), List.append_nil, map_toLower_of_lower hlower]

end Unquoted

/-- What is written without quotes at its beginning is the name itself. -/
theorem eq_of_quote_eq {name text : String} (htext : text.toList.head? ≠ some '"')
    (h : quote name = text) : name = text := by
  unfold quote at h
  split at h
  · rw [← h, quoted, String.toList_ofList] at htext
    exact absurd rfl htext
  · exact h

/-- A name is read back as a whole where it is quoted, or where it is an identifier as it is. -/
theorem token?_quote_iff (name : String) (after : List Char) :
    token? ((quote name).toList ++ ' ' :: after) = some (name.toList, ' ' :: after) ↔
      needsQuotes name = true ∨ isUnquoted name = true := by
  unfold quote
  cases hquotes : needsQuotes name with
  | true =>
    rw [if_pos rfl]
    have hblank : (' ' :: after).head? ≠ some '"' := by
      rw [List.head?_cons]
      decide
    simp [token?_quoted hblank name]
  | false =>
    have hlower : name.toList.any Char.isUpper = false := (Bool.or_eq_false_iff.mp hquotes).1
    rw [if_neg Bool.false_ne_true, token?_name_iff hlower]
    simp

end TableSql.Sql.Identifier
