import Mathlib.Data.List.Nodup
import TableSql.Proofs.Sql.Scan

/-! Placeholders as a scan of a text finds them, character by character. A text shows ordinals if
they are found in it before anything that does not continue its last numeral, so that texts are put
together from parts. -/

namespace TableSql.Sql

/-- The runs of digits that directly follow a dollar sign, in order. A run ends where the digits
do, so none is found inside another. -/
def placeholderRuns : List Char → List (List Char)
  | [] => []
  | c :: rest =>
    let run := rest.takeWhile Char.isDigit
    if c = '$' ∧ run ≠ [] then run :: placeholderRuns rest else placeholderRuns rest

/-- A dollar sign is the first character, or it is one of the rest. -/
theorem exists_dollar_cons_iff {c : Char} {rest run : List Char} :
    (∃ front back, Dollar (c :: rest) front run back) ↔
      c = '$' ∧ run = rest.takeWhile Char.isDigit ∨ ∃ front back, Dollar rest front run back := by
  constructor
  · rintro ⟨front, back, hdollar⟩
    have htext := hdollar.text_eq
    cases front with
    | nil =>
      obtain ⟨hc, hrest⟩ := List.cons.inj htext
      rw [hrest, takeWhile_digits_append hdollar.isDigit hdollar.endsNumeral]
      exact .inl ⟨hc, rfl⟩
    | cons d front =>
      obtain ⟨-, hrest⟩ := List.cons.inj htext
      exact .inr ⟨front, back, hrest, hdollar.isDigit, hdollar.endsNumeral⟩
  · rintro (⟨rfl, rfl⟩ | ⟨front, back, hdollar⟩)
    · refine ⟨[], rest.dropWhile Char.isDigit, ?_, ?_, endsNumeral_dropWhile rest⟩
      · rw [List.takeWhile_append_dropWhile, List.nil_append]
      · exact List.all_eq_true.mp List.all_takeWhile
    · refine ⟨c :: front, back, ?_, hdollar.isDigit, hdollar.endsNumeral⟩
      rw [hdollar.text_eq, List.cons_append]

theorem mem_placeholderRuns_iff {run chars : List Char} :
    run ∈ placeholderRuns chars ↔ run ≠ [] ∧ ∃ front back, Dollar chars front run back := by
  induction chars with
  | nil =>
    refine iff_of_false List.not_mem_nil ?_
    rintro ⟨-, front, back, hdollar⟩
    simpa using hdollar.text_eq
  | cons c rest ih =>
    rw [exists_dollar_cons_iff, and_or_left, ← ih, placeholderRuns]
    split
    · next h =>
      rw [List.mem_cons]
      refine or_congr_left ⟨?_, fun hrun => hrun.2.2⟩
      rintro rfl
      exact ⟨h.2, h.1, rfl⟩
    · next h =>
      refine (or_iff_right ?_).symm
      rintro ⟨hne, hc, rfl⟩
      exact h ⟨hc, hne⟩

/-- The scan of a text finds just these runs, so that facts about them are facts about it. -/
theorem mem_numerals_iff {text numeral : String} :
    numeral ∈ numerals text ↔ numeral.toList ∈ placeholderRuns text.toList := by
  rw [mem_placeholderRuns_iff, Ne, String.toList_eq_nil_iff]
  rfl

/-- A text without placeholders, and without a dollar sign to begin one. -/
def Plain (text : String) : Prop := '$' ∉ text.toList

/-- A text that can follow a placeholder without changing what the scan finds. -/
def Closing (text : String) : Prop := Plain text ∧ EndsNumeral text.toList

instance (text : String) : Decidable (Plain text) :=
  inferInstanceAs (Decidable ('$' ∉ text.toList))

instance (text : String) : Decidable (Closing text) :=
  inferInstanceAs (Decidable (Plain text ∧ EndsNumeral text.toList))

/-- The ordinals of the placeholders of a text, each as often as it stands there. -/
def Shows (text : String) (ordinals : List Nat) : Prop :=
  ∀ after, EndsNumeral after → placeholderRuns (text.toList ++ after) =
    ordinals.map (fun n => (Decimal.numeral n).toList) ++ placeholderRuns after

@[simp]
theorem plain_append {s t : String} : Plain (s ++ t) ↔ Plain s ∧ Plain t := by
  unfold Plain
  rw [String.toList_append, List.mem_append]
  exact not_or

@[simp]
theorem plain_numeral (n : Nat) : Plain (Decimal.numeral n) := by
  intro h
  rw [Decimal.numeral, String.toList_ofList] at h
  have hdigit := Nat.isDigit_of_mem_toDigits (by decide) (by decide) h
  exact absurd hdigit (by decide)

private theorem plain_intercalate {separator : String} (hseparator : Plain separator)
    {parts : List String} (hparts : ∀ part ∈ parts, Plain part) :
    Plain (String.intercalate separator parts) := by
  induction parts with
  | nil =>
    rw [String.intercalate_nil]
    exact List.not_mem_nil
  | cons part rest ih =>
    have hpart := hparts part List.mem_cons_self
    have hrest := ih fun p hp => hparts p (List.mem_cons_of_mem part hp)
    cases rest with
    | nil =>
      rw [String.intercalate_singleton]
      exact hpart
    | cons next rest =>
      rw [String.intercalate_cons_cons]
      exact plain_append.mpr ⟨plain_append.mpr ⟨hpart, hseparator⟩, hrest⟩

theorem plain_commaList {parts : List String} (h : ∀ part ∈ parts, Plain part) :
    Plain (commaList parts) :=
  plain_intercalate (by decide) h

private theorem mem_doubleQuotes {c : Char} {chars : List Char}
    (h : c ∈ Identifier.doubleQuotes chars) : c ∈ chars := by
  induction chars with
  | nil => exact h
  | cons d rest ih =>
    rw [Identifier.doubleQuotes] at h
    split at h
    · next hd =>
      rw [hd]
      rcases List.mem_cons.mp h with h | h
      · exact List.mem_cons.mpr (.inl h)
      · exact (List.mem_cons.mp h).elim (fun h => List.mem_cons.mpr (.inl h))
          fun h => List.mem_cons_of_mem _ (ih h)
    · exact (List.mem_cons.mp h).elim (fun h => List.mem_cons.mpr (.inl h))
        fun h => List.mem_cons_of_mem _ (ih h)

theorem plain_quote {name : String} (h : Plain name) : Plain (Identifier.quote name) := by
  unfold Identifier.quote
  split
  · intro hmem
    rw [Identifier.quoted, String.toList_ofList, List.cons_append, List.mem_cons, List.mem_append,
      List.mem_singleton] at hmem
    rcases hmem with hmem | hmem | hmem
    · exact absurd hmem (by decide)
    · exact h (mem_doubleQuotes hmem)
    · exact absurd hmem (by decide)
  · exact h

theorem endsNumeral_append {xs ys : List Char} (hxs : EndsNumeral xs) (hys : EndsNumeral ys) :
    EndsNumeral (xs ++ ys) := by
  rw [endsNumeral_iff] at hxs hys ⊢
  rw [List.head?_append]
  cases hhead : xs.head? with
  | none => exact hys
  | some c => rwa [hhead] at hxs

theorem endsNumeral_append_left {s : String} (hs : EndsNumeral s.toList) (hne : s ≠ "")
    (t : String) : EndsNumeral (s ++ t).toList := by
  have hchars : s.toList ≠ [] := fun hnil => hne (String.toList_eq_nil_iff.mp hnil)
  rw [endsNumeral_iff] at hs ⊢
  rw [String.toList_append, List.head?_append_of_ne_nil _ hchars, hs]

theorem closing_append {s t : String} (hs : Closing s) (hne : s ≠ "") (ht : Plain t) :
    Closing (s ++ t) :=
  ⟨plain_append.mpr ⟨hs.1, ht⟩, endsNumeral_append_left hs.2 hne t⟩

theorem placeholderRuns_append_of_plain {xs : List Char} (h : '$' ∉ xs) (ys : List Char) :
    placeholderRuns (xs ++ ys) = placeholderRuns ys := by
  induction xs with
  | nil => rfl
  | cons c rest ih =>
    have hc : c ≠ '$' := fun hc => h (List.mem_cons.mpr (.inl hc.symm))
    rw [List.cons_append, placeholderRuns, if_neg fun hrun => hc hrun.1]
    exact ih fun hrest => h (List.mem_cons_of_mem c hrest)

theorem shows_of_plain {s : String} (h : Plain s) : Shows s [] := by
  intro after _
  exact placeholderRuns_append_of_plain h after

theorem shows_placeholder (n : Nat) : Shows (placeholder n) [n] := by
  intro after hafter
  have hdigits : ∀ c ∈ (Decimal.numeral n).toList, c.isDigit := by
    intro c hc
    rw [Decimal.numeral, String.toList_ofList] at hc
    exact Nat.isDigit_of_mem_toDigits (by decide) (by decide) hc
  have hne : (Decimal.numeral n).toList ≠ [] := by
    rw [Decimal.numeral, String.toList_ofList]
    exact Nat.toDigits_ne_nil
  have hrun := takeWhile_digits_append hdigits hafter
  have htext : (placeholder n).toList = '$' :: (Decimal.numeral n).toList := by
    rw [placeholder, String.toList_append]
    rfl
  rw [htext, List.cons_append, placeholderRuns, hrun, if_pos ⟨rfl, hne⟩,
    placeholderRuns_append_of_plain (plain_numeral n)]
  rfl

namespace Shows

theorem append {s t : String} {ms ns : List Nat} (hs : Shows s ms) (ht : Shows t ns)
    (hends : EndsNumeral t.toList) : Shows (s ++ t) (ms ++ ns) := by
  intro after hafter
  rw [String.toList_append, List.append_assoc, hs _ (endsNumeral_append hends hafter),
    ht after hafter, List.map_append, List.append_assoc]

theorem plain_append {s t : String} {ns : List Nat} (hs : Plain s) (ht : Shows t ns) :
    Shows (s ++ t) ns := by
  intro after hafter
  rw [String.toList_append, List.append_assoc, placeholderRuns_append_of_plain hs, ht after hafter]

theorem append_closing {s t : String} {ms : List Nat} (hs : Shows s ms) (ht : Closing t) :
    Shows (s ++ t) ms := by
  have h := hs.append (shows_of_plain ht.1) ht.2
  rwa [List.append_nil] at h

/-- What separates the parts of a list ends the numerals in them. -/
theorem intercalate {separator : String} (hclosing : Closing separator) (hne : separator ≠ "")
    {text : α → String} {ordinals : α → List Nat} (parts : List α)
    (hparts : ∀ part ∈ parts, Shows (text part) (ordinals part)) :
    Shows (String.intercalate separator (parts.map text)) (parts.flatMap ordinals) := by
  induction parts with
  | nil =>
    rw [List.map_nil, String.intercalate_nil]
    exact shows_of_plain (by decide)
  | cons part rest ih =>
    have hpart := hparts part List.mem_cons_self
    have hrest := ih fun p hp => hparts p (List.mem_cons_of_mem part hp)
    cases rest with
    | nil =>
      rw [List.map_singleton, String.intercalate_singleton, List.flatMap_singleton]
      exact hpart
    | cons next rest =>
      rw [List.map_cons, List.map_cons, String.intercalate_cons_cons, String.append_assoc,
        List.flatMap_cons]
      exact hpart.append (plain_append hclosing.1 hrest)
        (endsNumeral_append_left hclosing.2 hne _)

theorem commaList {text : α → String} {ordinals : α → List Nat} (parts : List α)
    (hparts : ∀ part ∈ parts, Shows (text part) (ordinals part)) :
    Shows (Sql.commaList (parts.map text)) (parts.flatMap ordinals) :=
  intercalate (by decide) (by decide) parts hparts

/-- Parts without anything between them end the numerals in each other. -/
theorem join {text : α → String} {ordinals : α → List Nat} (parts : List α)
    (hends : ∀ part ∈ parts, EndsNumeral (text part).toList)
    (hparts : ∀ part ∈ parts, Shows (text part) (ordinals part)) :
    Shows (String.join (parts.map text)) (parts.flatMap ordinals) ∧
      EndsNumeral (String.join (parts.map text)).toList := by
  induction parts with
  | nil =>
    rw [List.map_nil, String.join_nil]
    exact ⟨shows_of_plain (by decide), by decide⟩
  | cons part rest ih =>
    obtain ⟨hshows, hjoin⟩ := ih (fun p hp => hends p (List.mem_cons_of_mem part hp))
      fun p hp => hparts p (List.mem_cons_of_mem part hp)
    rw [List.map_cons, String.join_cons, List.flatMap_cons]
    refine ⟨(hparts part List.mem_cons_self).append hshows hjoin, ?_⟩
    rw [String.toList_append]
    exact endsNumeral_append (hends part List.mem_cons_self) hjoin

theorem placeholderRuns_eq {s : String} {ordinals : List Nat} (h : Shows s ordinals) :
    placeholderRuns s.toList = ordinals.map fun n => (Decimal.numeral n).toList := by
  have hrun := h [] rfl
  rwa [List.append_nil, placeholderRuns, List.append_nil] at hrun

end Shows

theorem numeral_injective {m n : Nat}
    (h : (Decimal.numeral m).toList = (Decimal.numeral n).toList) : m = n := by
  rw [Decimal.numeral, Decimal.numeral, String.toList_ofList, String.toList_ofList] at h
  calc
    m = Nat.ofDigitChars 10 (Nat.toDigits 10 m) 0 := Nat.ofDigitChars_ten_toDigits.symm
    _ = Nat.ofDigitChars 10 (Nat.toDigits 10 n) 0 := by rw [h]
    _ = n := Nat.ofDigitChars_ten_toDigits

/-- A text that shows no ordinals but those from one to `count` has as many placeholders. -/
theorem placeholderCount_eq_of_shows {text : String} {ordinals : List Nat} {count : Nat}
    (h : Shows text ordinals) (hordinals : ∀ n, n ∈ ordinals ↔ 0 < n ∧ n ≤ count) :
    placeholderCount text = count := by
  obtain ⟨_, _, last, _, _, hnodup, hmem, hcount⟩ := exists_scanned text
  have hnumerals : ((List.range' 1 count).map Decimal.numeral).Nodup :=
    List.Nodup.map (fun _ _ heq => numeral_injective (congrArg String.toList heq))
      List.nodup_range'
  have hperm : last.found.Perm ((List.range' 1 count).map Decimal.numeral) := by
    refine (List.perm_ext_iff_of_nodup hnodup hnumerals).mpr fun numeral => ?_
    rw [hmem, mem_numerals_iff, h.placeholderRuns_eq, List.mem_map, List.mem_map]
    refine exists_congr fun n => and_congr ?_ String.toList_inj
    rw [hordinals, List.mem_range'_1]
    omega
  rw [placeholderCount, hcount, Option.getD_some, hperm.length_eq, List.length_map,
    List.length_range']

end TableSql.Sql
