import TableSql.Proofs.Entries
import TableSql.Value.Basic

/-! Cells written into records. -/

namespace TableSql.Record

theorem ext_get? {r r' : Record} (h : ∀ column, r.get? column = r'.get? column) : r = r' := by
  obtain ⟨cells, hsorted⟩ := r
  obtain ⟨cells', hsorted'⟩ := r'
  obtain rfl : cells = cells' := Entries.ext_of_sorted hsorted hsorted' h
  rfl

def write (r : Record) (cells : List (String × Value)) : Record :=
  cells.foldl (fun written cell => written.insert cell.1 cell.2) r

theorem write_cons (r : Record) (cell : String × Value) (rest : List (String × Value)) :
    r.write (cell :: rest) = (r.insert cell.1 cell.2).write rest := rfl

theorem get?_write_of_not_mem {cells : List (String × Value)} {column : String}
    (h : column ∉ Entries.keys cells) (r : Record) :
    (r.write cells).get? column = r.get? column := by
  induction cells generalizing r with
  | nil => rfl
  | cons cell rest ih =>
    have hne : column ≠ cell.1 := fun heq => h (heq ▸ List.mem_cons_self)
    rw [write_cons, ih fun hrest => h (List.mem_cons_of_mem _ hrest), get?_insert_of_ne _ _ hne]

/-- What is found in a column that is written is one of the cells, whatever was there. -/
theorem get?_write_of_mem {cells : List (String × Value)} {column : String}
    (h : column ∈ Entries.keys cells) :
    ∃ v, (column, v) ∈ cells ∧ ∀ r : Record, (r.write cells).get? column = some v := by
  induction cells with
  | nil => cases h
  | cons cell rest ih =>
    by_cases hrest : column ∈ Entries.keys rest
    · obtain ⟨v, hmem, hget⟩ := ih hrest
      exact ⟨v, List.mem_cons_of_mem _ hmem, fun r => hget _⟩
    · obtain rfl : column = cell.1 := by
        rcases List.mem_cons.mp h with heq | hmem
        · exact heq
        · exact absurd hmem hrest
      refine ⟨cell.2, List.mem_cons_self, fun r => ?_⟩
      rw [write_cons, get?_write_of_not_mem hrest, get?_insert_self]

/-- Of cells for the same columns the last that are written remain. -/
theorem write_write {cells cells' : List (String × Value)}
    (h : Entries.keys cells = Entries.keys cells') (r : Record) :
    (r.write cells).write cells' = r.write cells' := by
  refine ext_get? fun column => ?_
  by_cases hmem : column ∈ Entries.keys cells'
  · obtain ⟨v, -, hget⟩ := get?_write_of_mem hmem
    rw [hget, hget]
  · rw [get?_write_of_not_mem hmem, get?_write_of_not_mem hmem, get?_write_of_not_mem (h ▸ hmem)]

theorem foldl_write_if (p : α → Bool) (cells : List (String × Value)) (items : List α)
    (r : Record) :
    items.foldl (fun written a => written.write (if p a then cells else [])) r =
      if items.any p then r.write cells else r := by
  induction items generalizing r with
  | nil => rfl
  | cons a rest ih =>
    rw [List.foldl_cons, ih, List.any_cons]
    cases p a with
    | false => rfl
    | true =>
      rw [if_pos rfl, write_write rfl, ite_self]
      rfl

/-- Lists of cells written one after another, up to the first that is missing. -/
def writeLists (r : Record) : List (Option (List (String × Value))) → Record
  | some cells :: rest => (r.write cells).writeLists rest
  | _ => r

theorem writeLists_append (r : Record) (lists : List (List (String × Value)))
    (rest : List (Option (List (String × Value)))) :
    r.writeLists (lists.map some ++ rest) = (lists.foldl write r).writeLists rest := by
  induction lists generalizing r with
  | nil => rfl
  | cons cells lists ih => exact ih (r.write cells)

/-- What stands behind the first missing list makes no difference. -/
theorem writeLists_congr {lists lists' : List (Option (List (String × Value)))}
    (h : ∀ i : Nat, (∀ j < i, lists[j]? ≠ some none) → lists'[i]? = lists[i]?) (r : Record) :
    r.writeLists lists' = r.writeLists lists ∧ (none ∈ lists' ↔ none ∈ lists) := by
  induction lists generalizing lists' r with
  | nil =>
    have hnil : lists'[0]? = none := h 0 fun _ hj => absurd hj (Nat.not_lt_zero _)
    obtain rfl := List.length_eq_zero_iff.mp (Nat.le_zero.mp (List.getElem?_eq_none_iff.mp hnil))
    exact ⟨rfl, Iff.rfl⟩
  | cons first rest ih =>
    have hfirst : lists'[0]? = some first := h 0 fun _ hj => absurd hj (Nat.not_lt_zero _)
    obtain ⟨first', rest', rfl⟩ : ∃ first' rest', lists' = first' :: rest' := by
      refine List.exists_cons_of_ne_nil fun hnil => ?_
      rw [hnil] at hfirst
      cases hfirst
    obtain rfl := Option.some.inj hfirst
    cases first' with
    | none => exact ⟨rfl, by simp⟩
    | some cells =>
      have hrest : ∀ i : Nat, (∀ j < i, rest[j]? ≠ some none) → rest'[i]? = rest[i]? := by
        intro i hi
        refine h (i + 1) fun j hj => ?_
        cases j with
        | zero => simp
        | succ j => exact hi j (Nat.lt_of_succ_lt_succ hj)
      obtain ⟨hwritten, hmissing⟩ := ih hrest (r.write cells)
      exact ⟨hwritten, by simpa using hmissing⟩

end TableSql.Record
