import TableSql.Json.Raw
import TableSql.Proofs.Decimal.Integer

/-! Numbers in JSON: what is read of a number does not depend on what stands behind it, and an
integer is read from its numeral. -/

namespace TableSql.Json

/-- What may stand behind a number: nothing that would continue it. -/
def Ends (rest : Source) : Prop :=
  ∀ c, rest.head? = some (some c) → c.isDigit = false ∧ c ≠ '.' ∧ c ≠ 'e' ∧ c ≠ 'E'

theorem skipBlanks_cons {c : Option Char}
    (h : ¬ (c = some ' ' ∨ c = some '\n' ∨ c = some '\t' ∨ c = some '\r')) (rest : Source) :
    skipBlanks (c :: rest) = c :: rest := by
  unfold skipBlanks
  rw [List.dropWhile_cons_of_neg (by simpa using h)]

theorem skipBlanks_append {source : Source} (h : skipBlanks source ≠ []) (rest : Source) :
    skipBlanks (source ++ rest) = skipBlanks source ++ rest := by
  unfold skipBlanks at *
  rw [List.dropWhile_append, if_neg]
  simpa using h

namespace Raw

private theorem digits_of_ends {rest : Source} (h : Ends rest) : digits rest = ([], rest) := by
  cases rest with
  | nil => rfl
  | cons c rest =>
    cases c with
    | none => rfl
    | some c => simp [digits, (h c rfl).1]

theorem digits_append {source after rest : Source} {ds : List Nat}
    (h : digits source = (ds, after)) (hrest : Ends rest) :
    digits (source ++ rest) = (ds, after ++ rest) := by
  induction source generalizing ds with
  | nil =>
    cases h
    exact digits_of_ends hrest
  | cons c source ih =>
    cases c with
    | none =>
      cases h
      rfl
    | some c =>
      by_cases hdigit : c.isDigit
      · rcases hsource : digits source with ⟨others, tail⟩
        simp only [digits, hdigit, if_true, hsource] at h
        cases h
        simp only [List.cons_append, digits, hdigit, if_true, ih hsource]
      · simp only [digits, hdigit] at h
        cases h
        simp [digits, hdigit]

/-- Whether an exponent is negative, and what follows its sign. -/
def exponentSign : Source → Bool × Source
  | some '-' :: rest => (true, rest)
  | some '+' :: rest => (false, rest)
  | rest => (false, rest)

def exponentDigits (lead : Char) (l : Literal) (source : Source) : Raw × Source :=
  match digits (exponentSign source).2 with
  | ([], after) => (noDigit lead after, after)
  | (ds, after) =>
    (.number { l with exponent := some ((exponentSign source).1, ds) }.number?, after)

theorem exponent_eq (lead : Char) (l : Literal) (source : Source) :
    exponent lead l source =
      match source with
      | some 'e' :: rest | some 'E' :: rest => exponentDigits lead l rest
      | source => (.number l.number?, source) := rfl

private theorem exponentSign_append {source : Source} (h : source ≠ []) (rest : Source) :
    exponentSign (source ++ rest) =
      ((exponentSign source).1, (exponentSign source).2 ++ rest) := by
  obtain ⟨c, tail, rfl⟩ := List.exists_cons_of_ne_nil h
  by_cases hminus : c = some '-'
  · rw [hminus]
    rfl
  · by_cases hplus : c = some '+'
    · rw [hplus]
      rfl
    · have hnone : ∀ tail, exponentSign (c :: tail) = (false, c :: tail) := by
        intro tail
        unfold exponentSign
        split
        · next heq => exact absurd (List.cons.inj heq).1 hminus
        · next heq => exact absurd (List.cons.inj heq).1 hplus
        · rfl
      rw [List.cons_append, hnone, hnone, List.cons_append]

theorem exponentDigits_append {lead : Char} {l : Literal} {source rest : Source}
    {x : Option Number} (h : exponentDigits lead l source = (.number x, [])) (hrest : Ends rest) :
    exponentDigits lead l (source ++ rest) = (.number x, rest) := by
  have hsource : source ≠ [] := by
    rintro rfl
    cases h
  unfold exponentDigits at h ⊢
  rw [exponentSign_append hsource]
  rcases hdigits : digits (exponentSign source).2 with ⟨ds, after⟩
  rw [hdigits] at h
  dsimp only
  rw [digits_append hdigits hrest]
  cases ds with
  | nil => cases h
  | cons d ds =>
    cases h
    rfl

private theorem exponent_of_ends {lead : Char} {l : Literal} {rest : Source} (hrest : Ends rest) :
    exponent lead l rest = (.number l.number?, rest) := by
  unfold exponent
  split
  · exact absurd rfl (hrest 'e' rfl).2.2.1
  · exact absurd rfl (hrest 'E' rfl).2.2.2
  · rfl

theorem exponent_append {lead : Char} {l : Literal} {source rest : Source} {x : Option Number}
    (h : exponent lead l source = (.number x, [])) (hrest : Ends rest) :
    exponent lead l (source ++ rest) = (.number x, rest) := by
  rw [exponent_eq] at h
  split at h
  · exact exponentDigits_append h hrest
  · exact exponentDigits_append h hrest
  · cases h
    exact exponent_of_ends hrest

/-- What follows the digits before the point. -/
def mantissa (lead : Char) (negative : Bool) (whole : List Nat) : Source → Raw × Source
  | some '.' :: rest =>
    match digits rest with
    | ([], after) => (noDigit lead after, after)
    | (fraction, after) => exponent lead ⟨negative, whole, fraction, none⟩ after
  | after => exponent lead ⟨negative, whole, [], none⟩ after

/-- A number by the digits before its point; a leading zero stands alone. -/
def numberFrom (lead : Char) (negative : Bool) (after : Source) : List Nat → Raw × Source
  | [] => (noDigit lead after, after)
  | 0 :: _ :: _ => (.broken lead (.both .malformed), after)
  | whole => mantissa lead negative whole after

theorem numberBody_eq (lead : Char) (negative : Bool) (source : Source) :
    numberBody lead negative source =
      numberFrom lead negative (digits source).2 (digits source).1 := by
  unfold numberBody
  rcases digits source with ⟨whole, after⟩
  dsimp only
  split
  · next heq =>
    cases heq
    rfl
  · next heq =>
    cases heq
    rfl
  · next hempty hzero heq =>
    cases heq
    rcases whole with _ | ⟨_ | d, _ | ⟨d', ds⟩⟩
    · exact (hempty rfl).elim
    · rfl
    · exact (hzero _ _ rfl).elim
    · rfl
    · rfl
  · next hempty hzero hpoint heq =>
    cases heq
    have hmantissa : mantissa lead negative whole after =
        exponent lead ⟨negative, whole, [], none⟩ after := by
      unfold mantissa
      split
      · exact (hpoint _ rfl).elim
      · rfl
    rcases whole with _ | ⟨_ | d, _ | ⟨d', ds⟩⟩
    · exact (hempty rfl).elim
    · exact hmantissa.symm
    · exact (hzero _ _ rfl).elim
    · exact hmantissa.symm
    · exact hmantissa.symm

private theorem mantissa_of_ends {lead : Char} {negative : Bool} {whole : List Nat} {rest : Source}
    (hrest : Ends rest) : mantissa lead negative whole rest =
      exponent lead ⟨negative, whole, [], none⟩ rest := by
  unfold mantissa
  split
  · exact absurd rfl (hrest '.' rfl).2.1
  · rfl

private theorem mantissa_append {lead : Char} {negative : Bool} {whole : List Nat}
    {after rest : Source} {x : Option Number}
    (h : mantissa lead negative whole after = (.number x, []))
    (hrest : Ends rest) : mantissa lead negative whole (after ++ rest) = (.number x, rest) := by
  unfold mantissa at h
  split at h
  · next after =>
    rcases hdigits : digits after with ⟨ds, last⟩
    rw [hdigits] at h
    rw [List.cons_append, mantissa, digits_append hdigits hrest]
    cases ds with
    | nil => cases h
    | cons d ds => exact exponent_append h hrest
  · next hpoint =>
    cases after with
    | nil =>
      rw [List.nil_append, mantissa_of_ends hrest]
      have hexponent : exponent lead ⟨negative, whole, [], none⟩ ([] ++ rest) = (.number x, rest) :=
        exponent_append h hrest
      exact hexponent
    | cons c tail =>
      have hexponent := exponent_append h hrest
      rw [List.cons_append] at hexponent ⊢
      unfold mantissa
      split
      · next heq => exact absurd (congrArg (· :: tail) (List.cons.inj heq).1) (hpoint tail)
      · exact hexponent

theorem numberBody_append {lead : Char} {negative : Bool} {source rest : Source}
    {x : Option Number} (h : numberBody lead negative source = (.number x, []))
    (hrest : Ends rest) : numberBody lead negative (source ++ rest) = (.number x, rest) := by
  rcases hdigits : digits source with ⟨whole, after⟩
  rw [numberBody_eq, hdigits] at h
  rw [numberBody_eq, digits_append hdigits hrest]
  dsimp only at h ⊢
  unfold numberFrom at h ⊢
  split at h
  · cases h
  · cases h
  · exact mantissa_append h hrest

/-- A word is read as its value, or it is broken. -/
theorem word_ne_number {lead : Char} {held : Raw} {letters : List Char} {source after : Source}
    {x : Option Number} (hheld : held ≠ .number x) :
    word lead held letters source ≠ (.number x, after) := by
  induction letters generalizing source with
  | nil =>
    intro h
    cases source <;> exact hheld (congrArg Prod.fst h)
  | cons c letters ih =>
    intro h
    cases source with
    | nil => cases h
    | cons d source =>
      rw [word] at h
      split at h
      · exact ih h
      · cases h

private theorem stringBody_ne_number {source after : Source} {x : Option Number} :
    stringBody source ≠ (.number x, after) := by
  intro h
  unfold stringBody at h
  split at h
  · cases h
  · split at h <;> cases h

/-- A number is read after a minus sign, or from a digit on. -/
theorem numberBody_of_value {fuel : Nat} {source after : Source} {x : Option Number}
    (h : value (fuel + 1) source = (.number x, after)) :
    (∃ body, skipBlanks source = some '-' :: body ∧
      numberBody '-' true body = (.number x, after)) ∨
    ∃ c body, skipBlanks source = some c :: body ∧ c.isDigit ∧
      numberBody c false (some c :: body) = (.number x, after) := by
  rw [value] at h
  split at h
  case h_3 => exact absurd h stringBody_ne_number
  case h_6 => exact absurd h (word_ne_number Raw.noConfusion)
  case h_7 => exact absurd h (word_ne_number Raw.noConfusion)
  case h_8 => exact absurd h (word_ne_number Raw.noConfusion)
  case h_9 body hskip => exact .inl ⟨body, hskip, h⟩
  case h_10 c body _ _ _ _ _ _ _ hskip =>
    split at h
    · next hdigit => exact .inr ⟨c, body, hskip, hdigit, h⟩
    · cases h
  all_goals cases h

theorem value_minus {source body : Source} (h : skipBlanks source = some '-' :: body)
    (fuel : Nat) : value (fuel + 1) source = numberBody '-' true body := by
  rw [value, h]
  rfl

theorem value_digit {source body : Source} {c : Char} (h : skipBlanks source = some c :: body)
    (hc : c.isDigit) (fuel : Nat) :
    value (fuel + 1) source = numberBody c false (some c :: body) := by
  rw [value, h]
  split <;> simp_all

/-- A text that is read as a number to its end is read so wherever nothing continues it. -/
theorem value_number_append {source rest : Source} {x : Option Number}
    (h : value 1 source = (.number x, [])) (hrest : Ends rest) (fuel : Nat) :
    value (fuel + 1) (source ++ rest) = (.number x, rest) := by
  rcases numberBody_of_value h with ⟨body, hskip, hbody⟩ | ⟨c, body, hskip, hc, hbody⟩
  · have hsource := skipBlanks_append (hskip ▸ List.cons_ne_nil _ _) rest
    rw [hskip] at hsource
    rw [value_minus hsource]
    exact numberBody_append hbody hrest
  · have hsource := skipBlanks_append (hskip ▸ List.cons_ne_nil _ _) rest
    rw [hskip] at hsource
    rw [value_digit hsource hc]
    exact numberBody_append hbody hrest

end Raw

def Number.ReadsBack (n : Number) : Prop :=
  Raw.value 1 (n.text.toList.map some) = (.number (some n), [])

def digitValues (cs : List Char) : List Nat := cs.map fun c => c.toNat - '0'.toNat

private theorem Raw.digits_map {cs : List Char} (h : ∀ c ∈ cs, c.isDigit) :
    Raw.digits (cs.map some) = (digitValues cs, []) := by
  induction cs with
  | nil => rfl
  | cons c cs ih =>
    have hrest := ih fun d hd => h d (List.mem_cons_of_mem _ hd)
    simp only [List.map_cons, Raw.digits, h c List.mem_cons_self, if_true, hrest]
    rfl

theorem Literal.absorb_digitValues (cs : List Char) (start : Nat)
    (h : Nat.ofDigitChars 10 cs start ≤ maxSignificand) :
    absorb start (digitValues cs) = (Nat.ofDigitChars 10 cs start, []) := by
  induction cs generalizing start with
  | nil => rfl
  | cons c cs ih =>
    have hle : 10 * start + (c.toNat - '0'.toNat) ≤ Nat.ofDigitChars 10 (c :: cs) start := by
      rw [Nat.ofDigitChars_cons]
      exact Decimal.le_ofDigitChars cs _
    rw [Nat.ofDigitChars_cons] at h ⊢
    rw [digitValues, List.map_cons, absorb, Nat.mul_comm start 10, if_pos (hle.trans h)]
    exact ih _ h

theorem Raw.numberBody_numeral (lead : Char) (negative : Bool) (n : Nat) :
    Raw.numberBody lead negative ((Nat.toDigits 10 n).map some) =
      (.number (Literal.number? ⟨negative, digitValues (Nat.toDigits 10 n), [], none⟩), []) := by
  have hdigits : ∀ c ∈ Nat.toDigits 10 n, c.isDigit := fun c hc =>
    Nat.isDigit_of_mem_toDigits (by decide) (by decide) hc
  rw [Raw.numberBody_eq, Raw.digits_map hdigits]
  rcases Nat.eq_zero_or_pos n with rfl | hpos
  · rfl
  · obtain ⟨c, cs, hcons, hc⟩ := Decimal.exists_toDigits_eq_cons hpos
    rw [hcons] at hdigits ⊢
    obtain ⟨d, hd⟩ : ∃ d, c.toNat - '0'.toNat = d + 1 := by
      obtain ⟨hlow, -⟩ := Char.isDigit_iff_toNat.mp (hdigits c List.mem_cons_self)
      have hne : c.toNat ≠ '0'.toNat := fun h => hc (Char.toNat_inj.mp h)
      exact Nat.exists_eq_succ_of_ne_zero (by omega)
    rw [digitValues, List.map_cons, hd]
    cases cs <;> rfl

private theorem Literal.number?_numeral {n : Nat} (h : n ≤ maxSignificand) :
    number? ⟨false, digitValues (Nat.toDigits 10 n), [], none⟩ = some (.integer n) := by
  have habsorb := absorb_digitValues (Nat.toDigits 10 n) 0
  rw [Nat.ofDigitChars_ten_toDigits] at habsorb
  unfold number?
  dsimp only
  rw [habsorb h]
  rfl

private theorem Literal.number?_negative {n : Nat} (hpos : 0 < n) (h : n ≤ 2 ^ 63) :
    number? ⟨true, digitValues (Nat.toDigits 10 n), [], none⟩ = some (.integer (-n)) := by
  have hmax : maxSignificand = 2 ^ 64 - 1 := rfl
  have habsorb := absorb_digitValues (Nat.toDigits 10 n) 0
  rw [Nat.ofDigitChars_ten_toDigits] at habsorb
  have hheld : ¬ (n = 0 ∨ twoPow 63 < n) := by
    rintro (hzero | hlarge)
    · omega
    · exact absurd (hlarge.trans_le h) (lt_irrefl _)
  unfold number?
  dsimp only
  rw [habsorb (by omega)]
  exact if_neg hheld

/-- Integers of eight bytes are read back, with a sign or without. -/
theorem Number.readsBack_integer {i : Int} (hlow : -2 ^ 63 ≤ i) (hhigh : i < 2 ^ 64) :
    (Number.integer i).ReadsBack := by
  have hmax : Literal.maxSignificand = 2 ^ 64 - 1 := rfl
  cases i with
  | ofNat n =>
    have hn : (n : Int) < 2 ^ 64 := hhigh
    have htext : (Number.integer (Int.ofNat n)).text.toList = Nat.toDigits 10 n :=
      String.toList_ofList
    obtain ⟨c, cs, hcons⟩ := List.exists_cons_of_ne_nil (Nat.toDigits_ne_nil (n := n) (b := 10))
    have hc : c.isDigit := Nat.isDigit_of_mem_toDigits (by decide) (by decide)
      (hcons ▸ List.mem_cons_self)
    have hskip : skipBlanks ((Nat.toDigits 10 n).map some) = some c :: cs.map some := by
      rw [hcons]
      refine skipBlanks_cons ?_ _
      rintro (h | h | h | h) <;> · obtain rfl := Option.some.inj h; exact absurd hc (by decide)
    unfold ReadsBack
    rw [htext, Raw.value_digit hskip hc, ← List.map_cons, ← hcons, Raw.numberBody_numeral,
      Literal.number?_numeral (by omega)]
    rfl
  | negSucc n =>
    have hn : n + 1 ≤ 2 ^ 63 := by omega
    have htext : (Number.integer (Int.negSucc n)).text.toList = '-' :: Nat.toDigits 10 (n + 1) := by
      simp [Number.text, Decimal.signedNumeral, Decimal.numeral]
    have hskip : skipBlanks (('-' :: Nat.toDigits 10 (n + 1)).map some) =
        some '-' :: (Nat.toDigits 10 (n + 1)).map some :=
      skipBlanks_cons (by decide) _
    unfold ReadsBack
    rw [htext, Raw.value_minus hskip, Raw.numberBody_numeral,
      Literal.number?_negative n.succ_pos hn]
    rfl

end TableSql.Json
