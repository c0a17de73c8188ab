import TableSql.Statement.Basic

/-! Arguments by ordinal. Consecutive ordinals hold consecutive arguments, so that arguments in
blocks of one width are found by the number of the block. -/

namespace TableSql.Statement

/-- A block of a list whose items give blocks of one width. -/
theorem take_drop_flatMap (f : α → List β) (width : Nat) (items : List α)
    (h : ∀ a ∈ items, (f a).length = width) (m : Nat) (hm : m < items.length) :
    ((items.flatMap f).drop (m * width)).take width = f items[m] := by
  induction items generalizing m with
  | nil => simp at hm
  | cons a rest ih =>
    have ha : (f a).length = width := h a List.mem_cons_self
    have hrest : ∀ b ∈ rest, (f b).length = width := fun b hb => h b (List.mem_cons_of_mem a hb)
    rw [List.flatMap_cons]
    cases m with
    | zero =>
      rw [Nat.zero_mul, List.drop_zero, List.take_append_of_le_length (by omega)]
      exact List.take_of_length_le (by omega)
    | succ m =>
      have hdrop : (m + 1) * width = (f a).length + m * width := by
        rw [ha, Nat.succ_mul, Nat.add_comm]
      rw [hdrop, List.drop_length_add_append]
      exact ih hrest m (by simpa using hm)

/-- An item of a block, by the number of the block and its place in it. -/
theorem getElem?_flatMap_blocks (f : α → List β) (width : Nat) (items : List α)
    (h : ∀ a ∈ items, (f a).length = width) {m j : Nat} (hm : m < items.length) (hj : j < width) :
    (items.flatMap f)[m * width + j]? = (f items[m])[j]? := by
  rw [← take_drop_flatMap f width items h m hm, List.getElem?_take_of_lt hj, List.getElem?_drop]

theorem length_flatMap_blocks (f : α → List β) (width : Nat) (items : List α)
    (h : ∀ a ∈ items, (f a).length = width) :
    (items.flatMap f).length = items.length * width := by
  induction items with
  | nil => simp
  | cons a rest ih =>
    have ha : (f a).length = width := h a List.mem_cons_self
    rw [List.flatMap_cons, List.length_append, ha,
      ih fun b hb => h b (List.mem_cons_of_mem a hb), List.length_cons, Nat.succ_mul, Nat.add_comm]

theorem arg_succ (s : Statement) {i : Nat} (h : i < s.args.length) : s.arg (i + 1) = s.args[i] := by
  simp [arg, h]

theorem map_arg_range' (s : Statement) (start count : Nat) (h : start + count ≤ s.args.length) :
    (List.range' (start + 1) count).map s.arg = (s.args.drop start).take count := by
  apply List.ext_getElem
  · simp
    omega
  · intro i hi _
    have hcount : i < count := by simpa using hi
    rw [List.getElem_map, List.getElem_range', List.getElem_take, List.getElem_drop,
      show start + 1 + 1 * i = start + i + 1 by omega]
    exact s.arg_succ (by omega)

end TableSql.Statement
