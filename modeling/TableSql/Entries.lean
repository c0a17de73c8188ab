/-! Lists of entries by key. Insertion keeps a list that is sorted by key sorted, one entry a key. -/

namespace TableSql.Entries

variable {α β : Type}

def get? (key : String) : List (String × α) → Option α
  | [] => none
  | (k, a) :: rest => if k = key then some a else get? key rest

def contains (key : String) (entries : List (String × α)) : Bool := (get? key entries).isSome

def keys (entries : List (String × α)) : List String := entries.map Prod.fst

/-- Replaces the entry of the key, or places a new one before the first greater key. -/
def insert (key : String) (a : α) : List (String × α) → List (String × α)
  | [] => [(key, a)]
  | (k, b) :: rest =>
    if key = k then (key, a) :: rest
    else if key < k then (key, a) :: (k, b) :: rest
    else (k, b) :: insert key a rest

def erase (key : String) (entries : List (String × α)) : List (String × α) :=
  entries.filter fun entry => entry.1 ≠ key

/-- The entries sorted by key; of several with one key the last counts. -/
def sorted (entries : List (String × α)) : List (String × α) :=
  entries.foldl (fun sorted (key, a) => insert key a sorted) []

/-- Each key is less than all that follow it, so that no key stands twice. -/
def Sorted (entries : List (String × α)) : Prop := (keys entries).Pairwise (· < ·)

theorem get?_insert_self (key : String) (a : α) (entries : List (String × α)) :
    get? key (insert key a entries) = some a := by
  induction entries with
  | nil => simp [insert, get?]
  | cons entry rest ih =>
    obtain ⟨k, b⟩ := entry
    by_cases h : key = k
    · simp [insert, get?, h]
    · by_cases hlt : key < k
      · simp [insert, get?, h, hlt]
      · simp [insert, get?, h, hlt, ih, Ne.symm h]

theorem get?_insert_of_ne {key other : String} (a : α) (entries : List (String × α))
    (h : other ≠ key) : get? other (insert key a entries) = get? other entries := by
  induction entries with
  | nil => simp [insert, get?, Ne.symm h]
  | cons entry rest ih =>
    obtain ⟨k, b⟩ := entry
    by_cases hk : key = k
    · subst hk
      simp [insert, get?, Ne.symm h]
    · by_cases hlt : key < k
      · simp [insert, get?, hk, hlt, Ne.symm h]
      · simp [insert, get?, hk, hlt, ih]

theorem get?_erase_self (key : String) (entries : List (String × α)) :
    get? key (erase key entries) = none := by
  induction entries with
  | nil => rfl
  | cons entry rest ih =>
    obtain ⟨k, b⟩ := entry
    by_cases h : k = key
    · simpa [erase, h] using ih
    · simpa [erase, get?, h] using ih

theorem mem_keys_insert {key other : String} {a : α} {entries : List (String × α)} :
    other ∈ keys (insert key a entries) ↔ other = key ∨ other ∈ keys entries := by
  induction entries with
  | nil => simp [insert, keys]
  | cons entry rest ih =>
    obtain ⟨k, b⟩ := entry
    by_cases h : key = k
    · simp [insert, keys, h]
    · by_cases hlt : key < k
      · simp [insert, keys, h, hlt]
      · simp only [keys, List.mem_map] at ih
        simp only [insert, h, hlt, if_false, keys, List.map_cons, List.mem_cons, List.mem_map, ih]
        exact or_left_comm

theorem sorted_nil : Sorted ([] : List (String × α)) := .nil

theorem sorted_insert (key : String) (a : α) {entries : List (String × α)} (h : Sorted entries) :
    Sorted (insert key a entries) := by
  induction entries with
  | nil => exact List.pairwise_singleton _ _
  | cons entry rest ih =>
    obtain ⟨k, b⟩ := entry
    obtain ⟨hk, hrest⟩ := List.pairwise_cons.1 h
    by_cases heq : key = k
    · subst heq
      simpa [insert, Sorted, keys] using h
    · by_cases hlt : key < k
      · simp only [insert, heq, hlt, if_false, if_true]
        refine List.pairwise_cons.2 ⟨fun other hother => ?_, h⟩
        rcases List.mem_cons.1 hother with rfl | hmem
        · exact hlt
        · exact String.lt_trans hlt (hk other hmem)
      · simp only [insert, heq, hlt, if_false]
        refine List.pairwise_cons.2 ⟨fun other hother => ?_, ih hrest⟩
        rcases mem_keys_insert.1 hother with rfl | hmem
        · exact Std.lt_of_le_of_ne (String.not_lt.1 hlt) (Ne.symm heq)
        · exact hk other hmem

theorem sorted_erase (key : String) {entries : List (String × α)} (h : Sorted entries) :
    Sorted (erase key entries) :=
  h.sublist (List.filter_sublist.map Prod.fst)

theorem sorted_sorted (entries : List (String × α)) : Sorted (sorted entries) := by
  suffices ∀ start : List (String × α), Sorted start →
      Sorted (entries.foldl (fun sorted (key, a) => insert key a sorted) start) from
    this [] sorted_nil
  induction entries with
  | nil => exact fun _ h => h
  | cons entry rest ih => exact fun start h => ih _ (sorted_insert entry.1 entry.2 h)

end TableSql.Entries
