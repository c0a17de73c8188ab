import Mathlib.Data.String.Basic
import TableSql.Entries

/-! Entries that stand in order: sorting leaves them as they are, and what they hold says which
they are. -/

namespace TableSql.Entries

variable {α : Type}

private theorem insert_of_greater {key : String} {a : α} {entries : List (String × α)}
    (h : ∀ other ∈ keys entries, other < key) : insert key a entries = entries ++ [(key, a)] := by
  induction entries with
  | nil => rfl
  | cons entry rest ih =>
    obtain ⟨k, b⟩ := entry
    have hk : k < key := h k List.mem_cons_self
    rw [insert, if_neg hk.ne', if_neg hk.asymm, ih fun other hother =>
      h other (List.mem_cons_of_mem _ hother), List.cons_append]

theorem sorted_eq_self {entries : List (String × α)} (h : Sorted entries) :
    sorted entries = entries := by
  suffices ∀ front : List (String × α), Sorted (front ++ entries) →
      entries.foldl (fun sorted entry => insert entry.1 entry.2 sorted) front = front ++ entries from
    this [] h
  clear h
  induction entries with
  | nil => exact fun front _ => (List.append_nil front).symm
  | cons entry rest ih =>
    obtain ⟨key, a⟩ := entry
    intro front hfront
    have hgreater : ∀ other ∈ keys front, other < key := by
      intro other hother
      unfold Sorted keys at hfront
      rw [List.map_append, List.map_cons] at hfront
      exact (List.pairwise_append.mp hfront).2.2 other hother key List.mem_cons_self
    rw [List.foldl_cons, insert_of_greater hgreater, ih _ (by rwa [List.append_assoc]),
      List.append_assoc]
    rfl

private theorem mem_of_mem_insert {key : String} {a : α} {entry : String × α}
    {entries : List (String × α)} (h : entry ∈ insert key a entries) :
    entry = (key, a) ∨ entry ∈ entries := by
  induction entries with
  | nil => exact .inl (List.mem_singleton.mp h)
  | cons other rest ih =>
    obtain ⟨k, b⟩ := other
    rw [insert] at h
    split at h
    · exact (List.mem_cons.mp h).imp_right (List.mem_cons_of_mem _)
    · split at h
      · exact List.mem_cons.mp h
      · rcases List.mem_cons.mp h with rfl | h
        · exact .inr List.mem_cons_self
        · exact (ih h).imp_right (List.mem_cons_of_mem _)

theorem mem_of_mem_sorted {entry : String × α} {entries : List (String × α)}
    (h : entry ∈ sorted entries) : entry ∈ entries := by
  suffices ∀ front : List (String × α),
      entry ∈ entries.foldl (fun sorted entry => insert entry.1 entry.2 sorted) front →
        entry ∈ entries ∨ entry ∈ front from
    (this [] h).resolve_right List.not_mem_nil
  clear h
  induction entries with
  | nil => exact fun front h => .inr h
  | cons other rest ih =>
    intro front h
    rcases ih _ h with h | h
    · exact .inl (List.mem_cons_of_mem _ h)
    · rcases mem_of_mem_insert h with rfl | h
      · exact .inl List.mem_cons_self
      · exact .inr h

theorem get?_cons_self (key : String) (a : α) (rest : List (String × α)) :
    get? key ((key, a) :: rest) = some a := by rw [get?, if_pos rfl]

theorem get?_cons_of_ne {k key : String} (h : k ≠ key) (a : α) (rest : List (String × α)) :
    get? key ((k, a) :: rest) = get? key rest := by rw [get?, if_neg h]

theorem get?_of_not_mem_keys {key : String} {entries : List (String × α)}
    (h : key ∉ keys entries) : get? key entries = none := by
  induction entries with
  | nil => rfl
  | cons entry rest ih =>
    have hne : entry.1 ≠ key := fun hkey => h (hkey ▸ List.mem_cons_self)
    rw [get?_cons_of_ne hne, ih fun hrest => h (List.mem_cons_of_mem _ hrest)]

theorem mem_keys_of_get? {key : String} {a : α} {entries : List (String × α)}
    (h : get? key entries = some a) : key ∈ keys entries := by
  by_contra hmem
  rw [get?_of_not_mem_keys hmem] at h
  cases h

theorem mem_of_get? {key : String} {a : α} {entries : List (String × α)}
    (h : get? key entries = some a) : (key, a) ∈ entries := by
  induction entries with
  | nil => cases h
  | cons entry rest ih =>
    obtain ⟨k, b⟩ := entry
    by_cases hkey : k = key
    · rw [get?, if_pos hkey] at h
      obtain rfl := Option.some.inj h
      exact hkey ▸ List.mem_cons_self
    · rw [get?_cons_of_ne hkey] at h
      exact List.mem_cons_of_mem _ (ih h)

theorem exists_get?_of_mem_keys {key : String} {entries : List (String × α)}
    (h : key ∈ keys entries) : ∃ a, get? key entries = some a := by
  induction entries with
  | nil => cases h
  | cons entry rest ih =>
    obtain ⟨k, a⟩ := entry
    by_cases hkey : k = key
    · exact ⟨a, by rw [get?, if_pos hkey]⟩
    · obtain ⟨b, hb⟩ := ih ((List.mem_cons.mp h).resolve_left (Ne.symm hkey))
      exact ⟨b, by rw [get?_cons_of_ne hkey, hb]⟩

theorem le_of_get? {k key : String} {a b : α} {rest : List (String × α)}
    (hsorted : Sorted ((k, a) :: rest)) (h : get? key ((k, a) :: rest) = some b) : k ≤ key := by
  rcases List.mem_cons.mp (mem_keys_of_get? h) with rfl | hrest
  · exact le_rfl
  · exact ((List.pairwise_cons.mp hsorted).1 key hrest).le

theorem get?_head_of_sorted {k : String} {a : α} {rest : List (String × α)}
    (hsorted : Sorted ((k, a) :: rest)) : get? k rest = none :=
  get?_of_not_mem_keys fun hmem => lt_irrefl _ ((List.pairwise_cons.mp hsorted).1 k hmem)

/-- Sorted entries are the same where they hold the same under each key. -/
theorem ext_of_sorted {entries others : List (String × α)} (hentries : Sorted entries)
    (hothers : Sorted others) (h : ∀ key, get? key entries = get? key others) :
    entries = others := by
  induction entries generalizing others with
  | nil =>
    cases others with
    | nil => rfl
    | cons other others =>
      have hother := (h other.1).trans (get?_cons_self other.1 other.2 others)
      cases hother
  | cons entry rest ih =>
    obtain ⟨k, a⟩ := entry
    have hk := get?_cons_self k a rest
    cases others with
    | nil =>
      have hnone := (h k).symm.trans hk
      cases hnone
    | cons other others =>
      obtain ⟨k', b⟩ := other
      have hk' := get?_cons_self k' b others
      -- each list finds the first key of the other
      obtain rfl := le_antisymm (le_of_get? hentries ((h k').trans hk'))
        (le_of_get? hothers ((h k).symm.trans hk))
      obtain rfl := Option.some.inj (hk.symm.trans ((h k).trans hk'))
      congr 1
      refine ih (List.pairwise_cons.mp hentries).2 (List.pairwise_cons.mp hothers).2 fun key => ?_
      by_cases hkey : k = key
      · rw [← hkey, get?_head_of_sorted hentries, get?_head_of_sorted hothers]
      · have hrest := h key
        rwa [get?_cons_of_ne hkey, get?_cons_of_ne hkey] at hrest

end TableSql.Entries
