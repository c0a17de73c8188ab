import TableSql.Proofs.Binary.Nearest
import TableSql.Proofs.Json.Decoding
import TableSql.Value.Json

/-! Values and JSON: the two ways in agree, and what a value is written as is read as the value. -/

namespace TableSql

namespace Json

/-- A number as JSON holds it: an integer of 64 bits, with a sign or without, or a finite double. -/
def Number.IsHeld : Number → Prop
  | .integer i => -2 ^ 63 ≤ i ∧ i < 2 ^ 64
  | .real d => d.isFinite

theorem Number.contains_signed_iff {i : Int} :
    (Decimal.Bounds.signed 64).contains i ↔ -2 ^ 63 ≤ i ∧ i < 2 ^ 63 := by
  have hhalf : ((twoPow (64 - 1) : Nat) : Int) = 2 ^ 63 := rfl
  unfold Decimal.Bounds.contains Decimal.Bounds.signed
  rw [hhalf, Bool.and_eq_true, decide_eq_true_eq, decide_eq_true_eq, Int.le_sub_one_iff]

theorem Number.toInt64?_eq_some {i : Int} (hlow : -2 ^ 63 ≤ i) (hhigh : i < 2 ^ 63) :
    (Number.integer i).toInt64? = some (Int64.ofInt i) :=
  if_pos (contains_signed_iff.mpr ⟨hlow, hhigh⟩)

theorem Number.toInt64?_eq_none {i : Int} (h : 2 ^ 63 ≤ i) :
    (Number.integer i).toInt64? = none :=
  if_neg fun hcontains => (contains_signed_iff.mp hcontains).2.not_ge h

end Json

namespace Value

theorem ofItems_eq_map (items : List Json) : ofItems items = items.map ofJson := by
  induction items with
  | nil => rfl
  | cons item rest ih => rw [ofItems, ih, List.map_cons]

private theorem firstFits_eq_map (items : List Json) : firstFits items = items.map firstFit := by
  induction items with
  | nil => rfl
  | cons item rest ih => rw [firstFits, ih, List.map_cons]

private theorem toItems_eq_map (items : List Value) : toItems items = items.map toJson := by
  induction items with
  | nil => rfl
  | cons item rest ih => rw [toItems, ih, List.map_cons]

/-- The first kind that fits is the kind of the same shape: every kind before it refuses. -/
theorem firstFit_eq_ofJson (j : Json) : firstFit j = ofJson j := by
  induction j using Json.induction with
  | number n =>
    have htrials : firstFit (.number n) =
        ((n.toInt64?.map .int).or (some (.float n.toDouble))).getD (.json (.number n)) := by
      cases h : n.toInt64? <;> simp [firstFit, scalarTrials, h]
    rw [htrials, ofJson, ofNumber]
    cases n.toInt64? <;> rfl
  | array items ih =>
    have htrials : firstFit (.array items) = .array (firstFits items) := rfl
    rw [htrials, firstFits_eq_map, ofJson, ofItems_eq_map]
    exact congrArg _ (List.map_congr_left ih)
  | _ => rfl

theorem decoder_eq (origin : Json.Origin) (raw : Json.Raw) :
    decoder origin raw = (Json.Decoder.any origin raw).map ofJson := by
  have hfirst : firstFit = ofJson := funext firstFit_eq_ofJson
  rw [decoder, hfirst]

/-- A number is written as one that is read as the same value: an integer that is held in 64 bits
with a sign as itself, any other as the double near it. -/
theorem exists_toJson_ofNumber {n : Json.Number} (h : n.IsHeld) :
    ∃ m : Json.Number, (ofNumber n).toJson = .number m ∧ m.IsHeld ∧ ofNumber m = ofNumber n := by
  have hreal : ∀ d : Double, d.isFinite → (Value.float d).toJson = .number (.real d) :=
    fun d hd => if_pos hd
  cases n with
  | real d => exact ⟨.real d, hreal d h, h, rfl⟩
  | integer i =>
    obtain ⟨hlow, hhigh⟩ := h
    rcases lt_or_ge i (2 ^ 63) with hsmall | hlarge
    · have hint : ofNumber (.integer i) = .int (Int64.ofInt i) := by
        rw [ofNumber, Json.Number.toInt64?_eq_some hlow hsmall]
      have hback : (Int64.ofInt i).toInt = i := Int64.toInt_ofInt_of_le hlow hsmall
      refine ⟨.integer i, ?_, ⟨hlow, hhigh⟩, rfl⟩
      rw [hint, toJson, hback]
      rfl
    · have hfinite : (Double.ofInt i).isFinite := Double.isFinite_ofInt (by omega)
      have hfloat : ofNumber (.integer i) = .float (.ofInt i) := by
        rw [ofNumber, Json.Number.toInt64?_eq_none hlarge]
        rfl
      exact ⟨.real (.ofInt i), by rw [hfloat, hreal _ hfinite], hfinite, hfloat.symm⟩

def IsRead (v : Value) : Prop :=
  ∃ j : Json, j.KeysSorted ∧ (∀ n ∈ j.numbers, n.IsHeld) ∧ ofJson j = v

/-- What a value that is read from JSON is written as: a value of as many levels, sorted and with
numbers that are held, which is read as the same value. -/
structure Rewrites (j written : Json) : Prop where
  keysSorted : written.KeysSorted
  isHeld : ∀ n ∈ written.numbers, n.IsHeld
  depth_eq : written.depth = j.depth
  ofJson_eq : ofJson written = ofJson j

private theorem rewrites_array {items : List Json}
    (h : ∀ item ∈ items, Rewrites item (ofJson item).toJson) :
    Rewrites (.array items) (.array (items.map fun item => (ofJson item).toJson)) where
  keysSorted := by
    rw [Json.KeysSorted, Json.itemsSorted_iff]
    exact List.forall_mem_map.mpr fun item hitem => (h item hitem).keysSorted
  isHeld n hn := by
    rw [Json.numbers, Json.itemNumbers_eq_flatMap, List.mem_flatMap] at hn
    obtain ⟨_, hwritten, hn⟩ := hn
    obtain ⟨item, hitem, rfl⟩ := List.mem_map.mp hwritten
    exact (h item hitem).isHeld n hn
  depth_eq := by
    rw [Json.depth, Json.depth, Nat.add_right_cancel_iff]
    refine le_antisymm (Json.itemsDepth_le_iff.mpr ?_) (Json.itemsDepth_le_iff.mpr ?_)
    · refine List.forall_mem_map.mpr fun item hitem => ?_
      rw [(h item hitem).depth_eq]
      exact Json.depth_le_itemsDepth hitem
    · intro item hitem
      rw [← (h item hitem).depth_eq]
      exact Json.depth_le_itemsDepth (List.mem_map_of_mem hitem)
  ofJson_eq := by
    rw [ofJson, ofJson, ofItems_eq_map, ofItems_eq_map, List.map_map]
    exact congrArg _ (List.map_congr_left fun item hitem => (h item hitem).ofJson_eq)

theorem rewrites {j : Json} (hsorted : j.KeysSorted) (hnumbers : ∀ n ∈ j.numbers, n.IsHeld) :
    Rewrites j (ofJson j).toJson := by
  induction j using Json.induction with
  | number n =>
    obtain ⟨m, hm, hheld, heq⟩ := exists_toJson_ofNumber (hnumbers n (List.mem_singleton_self n))
    rw [ofJson, hm]
    exact ⟨trivial, fun _ h => List.mem_singleton.mp h ▸ hheld, rfl, heq⟩
  | array items ih =>
    rw [ofJson, toJson, ofItems_eq_map, toItems_eq_map, List.map_map]
    rw [Json.numbers, Json.itemNumbers_eq_flatMap] at hnumbers
    have hitems := Json.itemsSorted_iff.mp hsorted
    exact rewrites_array fun item hitem => ih item hitem (hitems item hitem)
      fun n hn => hnumbers n (List.mem_flatMap.mpr ⟨item, hitem, hn⟩)
  | _ => exact ⟨hsorted, hnumbers, rfl, rfl⟩

theorem IsRead.keysSorted {v : Value} (h : v.IsRead) : v.toJson.KeysSorted := by
  obtain ⟨j, hsorted, hnumbers, rfl⟩ := h
  exact (rewrites hsorted hnumbers).keysSorted

theorem IsRead.isHeld {v : Value} (h : v.IsRead) : ∀ n ∈ v.toJson.numbers, n.IsHeld := by
  obtain ⟨j, hsorted, hnumbers, rfl⟩ := h
  exact (rewrites hsorted hnumbers).isHeld

theorem IsRead.ofJson_toJson {v : Value} (h : v.IsRead) : ofJson v.toJson = v := by
  obtain ⟨j, hsorted, hnumbers, rfl⟩ := h
  exact (rewrites hsorted hnumbers).ofJson_eq

theorem decoder_ofText_string (s : String) :
    decoder.ofText (Json.string s).text = .ok (.text s) := by
  rw [Json.Decoder.ofText_text decoder (by simp [Json.numbers])]
  rfl

/-- A value that was read is read again from the tree that it is written as. -/
theorem IsRead.decoder_toRaw {v : Value} (h : v.IsRead) {origin : Json.Origin}
    (hroom : origin.Admits v.toJson.depth) : decoder origin v.toJson.toRaw = .ok v := by
  rw [decoder_eq, Json.Decoder.any_toRaw _ hroom, Json.sortKeys_eq_self h.keysSorted]
  exact congrArg Except.ok h.ofJson_toJson

/-- Values are read from JSON in two ways, as the first kind that fits and by the shape of the JSON,
and both read the same texts as the same values, or refuse them for the same fault. A document is
read in both ways wherever it is not nested too deep, its members in any order and repeated or not,
and what its value is written as is read as that value again: as a tree, and as a text if the
reals in it are ones that are read from their texts. -/
theorem readers_agree :
    (∀ source, decoder.run source = (Json.Decoder.any.run source).map ofJson) ∧
    ∀ document : Json, (∀ n ∈ document.numbers, n.IsHeld) →
      ∃ parsed,
        (∀ origin : Json.Origin, origin.Admits document.depth →
          Json.Decoder.any origin document.toRaw = .ok parsed ∧
          decoder origin document.toRaw = .ok (ofJson parsed) ∧
          decoder origin (ofJson parsed).toJson.toRaw = .ok (ofJson parsed)) ∧
        (document.depth ≤ 127 →
          (∀ d, .real d ∈ (ofJson parsed).toJson.numbers → (Json.Number.real d).ReadsBack) →
          decoder.ofText (ofJson parsed).toJson.text = .ok (ofJson parsed)) := by
  refine ⟨fun source => ?_, fun document hnumbers => ⟨document.sortKeys, ?_⟩⟩
  · unfold Json.Decoder.run
    dsimp only
    rw [decoder_eq]
    cases Json.Decoder.any Json.Origin.whole (Json.Raw.ofSource source).1 with
    | error e => rfl
    | ok j => cases (Json.Raw.ofSource source).2 <;> rfl
  · have hsorted := document.keysSorted_sortKeys
    have hheld : ∀ n ∈ document.sortKeys.numbers, n.IsHeld :=
      fun n hn => hnumbers n (Json.mem_numbers_of_sortKeys hn)
    have hread : (ofJson document.sortKeys).IsRead := ⟨_, hsorted, hheld, rfl⟩
    have hdepth : (ofJson document.sortKeys).toJson.depth ≤ document.depth := by
      rw [(rewrites hsorted hheld).depth_eq]
      exact document.depth_sortKeys_le
    refine ⟨fun origin hroom => ?_, fun hroom hreals => ?_⟩
    · have hany := Json.Decoder.any_toRaw document hroom
      refine ⟨hany, ?_, hread.decoder_toRaw (hroom.mono hdepth)⟩
      rw [decoder_eq, hany]
      rfl
    · rw [Json.Decoder.ofText_text decoder
        (Json.readsBack_of_mem (fun _ hi => hread.isHeld _ hi) hreals)]
      exact hread.decoder_toRaw (Json.Origin.admits_whole.mpr (hdepth.trans hroom))

/-- A list of an object with a key given twice, of the greatest integer, and of a negative zero. -/
def repeatedKey : Json :=
  .array
    [ .object [("rate", .null), ("empty", .array []), ("rate", .object [])],
      .nat (2 ^ 64 - 1),
      .number (.real ⟨0x8000000000000000⟩) ]

theorem readers_agree_repeatedKey :
    ∃ parsed,
      Json.Decoder.any .whole repeatedKey.toRaw = .ok parsed ∧
      decoder .whole repeatedKey.toRaw = .ok (ofJson parsed) ∧
      decoder.ofText (ofJson parsed).toJson.text = .ok (ofJson parsed) := by
  have hnumbers : repeatedKey.numbers = [.integer (2 ^ 64 - 1), .real ⟨0x8000000000000000⟩] := rfl
  have hheld : ∀ n ∈ repeatedKey.numbers, n.IsHeld := by
    rw [hnumbers]
    exact List.forall_mem_cons.mpr ⟨⟨by decide, by decide⟩, List.forall_mem_singleton.mpr rfl⟩
  have hroom : repeatedKey.depth ≤ 127 := by decide
  obtain ⟨parsed, hread, hwritten⟩ := readers_agree.2 repeatedKey hheld
  obtain ⟨hany, hfit, -⟩ := hread .whole (Json.Origin.admits_whole.mpr hroom)
  refine ⟨parsed, hany, hfit, hwritten hroom fun d hd => ?_⟩
  -- the greatest integer is written as the double 2 ^ 64
  have hreals : (ofJson repeatedKey.sortKeys).toJson.numbers =
      [.real ⟨0x43F0000000000000⟩, .real ⟨0x8000000000000000⟩] := by decide +kernel
  obtain rfl := Except.ok.inj (hany.symm.trans
    (Json.Decoder.any_toRaw repeatedKey (Json.Origin.admits_whole.mpr hroom)))
  rw [hreals] at hd
  have htexts : (Json.Number.real ⟨0x43F0000000000000⟩).text = "1.8446744073709552e+19" ∧
      (Json.Number.real ⟨0x8000000000000000⟩).text = "-0.0" := by decide +kernel
  have hd : d = ⟨0x43F0000000000000⟩ ∨ d = ⟨0x8000000000000000⟩ := by simpa using hd
  rcases hd with rfl | rfl
  · rw [Json.Number.ReadsBack, htexts.1]
    rfl
  · rw [Json.Number.ReadsBack, htexts.2]
    rfl

end Value

end TableSql
