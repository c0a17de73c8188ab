import TableSql.Entity.Chunks

/-! The chunks of rows as blocks of the rows. -/

namespace TableSql

variable {α β : Type}

theorem chunks_cons_eq {size : Nat} (hsize : 0 < size) (a : α) (rest : List α) :
    chunks size (a :: rest) = (a :: rest).take size :: chunks size ((a :: rest).drop size) := by
  obtain ⟨k, rfl⟩ : ∃ k, size = k + 1 := ⟨size - 1, by omega⟩
  rw [chunks_cons, Nat.add_sub_cancel, List.take_succ_cons, List.drop_succ_cons]

theorem chunks_of_ne_nil {size : Nat} (hsize : 0 < size) {items : List α} (h : items ≠ []) :
    chunks size items = items.take size :: chunks size (items.drop size) := by
  obtain ⟨a, rest, rfl⟩ := List.exists_cons_of_ne_nil h
  exact chunks_cons_eq hsize a rest

private theorem count_blocks {size length : Nat} (hsize : 0 < size) (hlength : 0 < length) :
    (length + size - 1) / size = (length - size + size - 1) / size + 1 := by
  by_cases hfull : length ≤ size
  · have hone : (length + size - 1) / size = 1 := by
      rw [show length + size - 1 = length - 1 + size by omega, Nat.add_div_right _ hsize,
        Nat.div_eq_of_lt (by omega)]
    rw [hone, Nat.sub_eq_zero_of_le hfull, Nat.div_eq_of_lt (by omega)]
  · rw [← Nat.add_div_right _ hsize]
    congr 1
    omega

/-- Block `i` begins where `i` blocks of the full size end. -/
theorem chunks_eq_map_range {size : Nat} (hsize : 0 < size) (items : List α) :
    chunks size items = (List.range ((items.length + size - 1) / size)).map fun i =>
      (items.drop (i * size)).take size := by
  induction hlength : items.length using Nat.strongRecOn generalizing items with
  | _ length ih =>
    subst hlength
    cases items with
    | nil =>
      have hnone : (0 + size - 1) / size = 0 := Nat.div_eq_of_lt (by omega)
      rw [List.length_nil, hnone, chunks_nil]
      rfl
    | cons a rest =>
      have hshorter : ((a :: rest).drop size).length < (a :: rest).length := by
        rw [List.length_drop, List.length_cons]
        omega
      have hcount := count_blocks hsize (List.length_pos_iff.mpr (List.cons_ne_nil a rest))
      rw [← List.length_drop] at hcount
      rw [chunks_cons_eq hsize, ih _ hshorter _ rfl, hcount, List.range_succ_eq_map, List.map_cons,
        List.map_map, Nat.zero_mul, List.drop_zero]
      refine congrArg _ (List.map_congr_left fun i _ => ?_)
      rw [List.drop_drop, Function.comp_apply, Nat.succ_mul, Nat.add_comm size]

/-- Chunk `n` begins with item `n * size`, and there is none where there is no such item. -/
theorem getElem?_chunks {size : Nat} (hsize : 0 < size) (items : List α) (n : Nat) :
    (chunks size items)[n]? =
      if n * size < items.length then some ((items.drop (n * size)).take size) else none := by
  have hcount : n < (items.length + size - 1) / size ↔ n * size < items.length := by
    rw [Nat.lt_iff_add_one_le, Nat.le_div_iff_mul_le hsize, Nat.succ_mul]
    omega
  rw [chunks_eq_map_range hsize, List.getElem?_map]
  split
  · next hlt =>
    rw [List.getElem?_range (hcount.mpr hlt)]
    rfl
  · next hge =>
    rw [List.getElem?_eq_none]
    · rfl
    · rw [List.length_range]
      exact Nat.le_of_not_lt fun h => hge (hcount.mp h)

theorem take_chunks {size : Nat} (hsize : 0 < size) (items : List α) {n : Nat}
    (hn : n * size ≤ items.length) :
    (chunks size items).take n =
      (List.range n).map fun i => (items.drop (i * size)).take size := by
  have hcount : n ≤ (items.length + size - 1) / size := by
    rw [Nat.le_div_iff_mul_le hsize]
    omega
  rw [chunks_eq_map_range hsize, ← List.map_take, List.take_range, Nat.min_eq_left hcount]

/-- The chunk that item `i` stands in. -/
def chunkAt (size : Nat) (items : List α) (i : Nat) : List α :=
  (chunks size items).getD (i / size) []

theorem chunkAt_eq {size : Nat} (hsize : 0 < size) (items : List α) (i : Nat) :
    chunkAt size items i = (items.drop (i / size * size)).take size := by
  rw [chunkAt, List.getD_eq_getElem?_getD, getElem?_chunks hsize]
  split
  · rfl
  · next hge => rw [List.drop_eq_nil_of_le (Nat.le_of_not_lt hge), List.take_nil, Option.getD_none]

theorem chunkAt_congr {size : Nat} (items : List α) {i j : Nat} (h : i / size = j / size) :
    chunkAt size items i = chunkAt size items j := by
  rw [chunkAt, chunkAt, h]

theorem getElem?_chunkAt {size : Nat} (hsize : 0 < size) (items : List α) {i j : Nat}
    (h : j / size = i / size) : (chunkAt size items i)[j % size]? = items[j]? := by
  rw [chunkAt_eq hsize, List.getElem?_take_of_lt (Nat.mod_lt j hsize), List.getElem?_drop, ← h,
    Nat.div_add_mod']

private theorem chunkAt_of_lt {size : Nat} (items : List α) {i : Nat} (hi : i < size) :
    chunkAt size items i = items.take size := by
  rw [chunkAt_eq (Nat.zero_lt_of_lt hi), Nat.div_eq_of_lt hi, Nat.zero_mul, List.drop_zero]

private theorem chunkAt_drop {size : Nat} (hsize : 0 < size) (items : List α) {i : Nat}
    (hi : size ≤ i) :
    chunkAt size (items.drop size) (i - size) = chunkAt size items i := by
  rw [chunkAt_eq hsize, chunkAt_eq hsize, List.drop_drop, Nat.div_eq_sub_div hsize hi,
    Nat.succ_mul, Nat.add_comm]

/-- What is made of each item in its chunk stands where the item does. -/
theorem getElem?_flatMap_chunks {size : Nat} (hsize : 0 < size) (f : List α → α → β)
    (items : List α) (i : Nat) :
    ((chunks size items).flatMap fun chunk => chunk.map (f chunk))[i]? =
      items[i]?.map (f (chunkAt size items i)) := by
  induction hlength : items.length using Nat.strongRecOn generalizing items i with
  | _ length ih =>
    subst hlength
    by_cases hitems : items = []
    · rw [hitems, chunks_nil]
      rfl
    rw [chunks_of_ne_nil hsize hitems, List.flatMap_cons]
    have hpos := List.length_pos_iff.mpr hitems
    by_cases hi : i < (items.take size).length
    · have hfirst : i < size := Nat.lt_of_lt_of_le hi (List.length_take_le _ _)
      rw [List.getElem?_append_left (by rwa [List.length_map]), List.getElem?_map,
        List.getElem?_take_of_lt hfirst, chunkAt_of_lt items hfirst]
    · rw [List.getElem?_append_right (by rwa [List.length_map, ← Nat.not_lt]), List.length_map]
      rw [List.length_take] at hi ⊢
      by_cases hfull : size ≤ items.length
      · rw [Nat.min_eq_left hfull] at hi ⊢
        have hle : size ≤ i := Nat.le_of_not_lt hi
        have hshorter : (items.drop size).length < items.length := by
          rw [List.length_drop]
          omega
        rw [ih _ hshorter _ _ rfl, List.getElem?_drop, Nat.add_sub_cancel' hle,
          chunkAt_drop hsize items hle]
      · -- the last chunk is the only one, and item `i` would stand behind it
        rw [List.drop_eq_nil_of_le (Nat.le_of_not_le hfull), chunks_nil,
          List.getElem?_eq_none (by omega : items.length ≤ i)]
        rfl

theorem ne_nil_of_mem_chunks {size : Nat} {items chunk : List α} (h : chunk ∈ chunks size items) :
    chunk ≠ [] := by
  fun_induction chunks size items with
  | case1 => cases h
  | case2 a rest ih =>
    rcases List.mem_cons.mp h with rfl | hrest
    · exact List.cons_ne_nil _ _
    · exact ih hrest

end TableSql
