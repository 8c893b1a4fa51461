import CartCriteria.Dictionary

/-! Dictionaries rebuilt from their own entries, and the entries of a dictionary that was added to or
taken from. -/
namespace CartCriteria.Dictionary

variable {α β : Type}

private theorem insert_of_last {key : String} {entries : List (String × α)}
    (h : ∀ e ∈ entries, e.1 < key) (value : α) :
    insert key value entries = entries ++ [(key, value)] := by
  induction entries with
  | nil => rfl
  | cons head rest ih =>
    have hhead : head.1 < key := h head List.mem_cons_self
    rw [insert, if_neg (String.lt_asymm hhead), if_neg (Ne.symm (String.ne_of_lt hhead)),
      ih fun e he => h e (List.mem_cons_of_mem head he), List.cons_append]

private theorem foldl_insert_of_sorted {entries : List (String × α)} :
    ∀ before : List (String × α), Sorted (before ++ entries) →
      entries.foldl (fun entries binding => insert binding.1 binding.2 entries) before =
        before ++ entries := by
  induction entries with
  | nil =>
    intro before _
    exact (List.append_nil before).symm
  | cons head rest ih =>
    intro before h
    have hlast : ∀ e ∈ before, e.1 < head.1 := fun e he =>
      (List.pairwise_append.mp h).2.2 e he head List.mem_cons_self
    have hmoved : before ++ head :: rest = before ++ [(head.1, head.2)] ++ rest := by
      rw [List.append_assoc]
      rfl
    rw [List.foldl_cons, insert_of_last hlast, ih _ (hmoved ▸ h), ← hmoved]

/-- Bindings that are sorted already are a dictionary as they are. -/
theorem ofList_of_sorted {entries : List (String × α)} (h : Sorted entries) :
    ofList entries = entries :=
  foldl_insert_of_sorted [] h

private theorem mem_foldl_insert (bindings : List (String × α)) {before : List (String × α)}
    {e : String × α}
    (h : e ∈ bindings.foldl (fun entries binding => insert binding.1 binding.2 entries) before) :
    e ∈ bindings ∨ e ∈ before := by
  induction bindings generalizing before with
  | nil => exact .inr h
  | cons binding rest ih =>
    rcases ih h with h | h
    · exact .inl (List.mem_cons_of_mem binding h)
    · rcases mem_insert h with rfl | h
      · exact .inl List.mem_cons_self
      · exact .inr h

/-- A dictionary has no entries but its bindings. -/
theorem mem_of_mem_ofList {bindings : List (String × α)} {e : String × α}
    (h : e ∈ ofList bindings) : e ∈ bindings := by
  rcases mem_foldl_insert bindings h with h | h
  · exact h
  · cases h

/-- What is found is an entry. -/
theorem mem_of_find? {key : String} {value : α} {entries : List (String × α)}
    (h : find? key entries = some value) : (key, value) ∈ entries := by
  induction entries with
  | nil => cases h
  | cons head rest ih =>
    rw [find?] at h
    split at h
    · rename_i hkey
      cases h
      exact hkey ▸ List.mem_cons_self
    · exact List.mem_cons_of_mem head (ih h)

/-- Every entry of a dictionary is found under its key. -/
theorem find?_of_mem {key : String} {value : α} {entries : List (String × α)}
    (hsorted : Sorted entries) (h : (key, value) ∈ entries) : find? key entries = some value := by
  induction entries with
  | nil => cases h
  | cons head rest ih =>
    obtain ⟨hhead, hrest⟩ := List.pairwise_cons.mp hsorted
    rw [find?]
    rcases List.mem_cons.mp h with rfl | h
    · exact if_pos rfl
    · rw [if_neg (String.ne_of_lt (hhead _ h))]
      exact ih hrest h

/-- Inserting keeps every key bound. -/
theorem isSome_find?_insert {key other : String} (value : α) {entries : List (String × α)}
    (h : (find? other entries).isSome = true) :
    (find? other (insert key value entries)).isSome = true := by
  by_cases hsame : other = key
  · rw [hsame, find?_insert_self]
    rfl
  · rwa [find?_insert_of_ne _ _ hsame]

def erase (key : String) (entries : List (String × α)) : List (String × α) :=
  entries.filter fun e => e.1 != key

/-- Erasing one key leaves every other key alone. -/
theorem find?_erase_of_ne {key other : String} (entries : List (String × α)) (h : other ≠ key) :
    find? other (erase key entries) = find? other entries := by
  induction entries with
  | nil => rfl
  | cons head rest ih =>
    by_cases hhead : head.1 = key
    · rw [erase, List.filter_cons_of_neg (by simp [hhead]), find?, if_neg (hhead ▸ Ne.symm h)]
      exact ih
    · rw [erase, List.filter_cons_of_pos (by simp [hhead]), find?, find?]
      split
      · rfl
      · exact ih

/-- No key occurs twice. -/
theorem countP_key_le_one {entries : List (String × α)} (h : Sorted entries) (key : String) :
    entries.countP (fun e => e.1 == key) ≤ 1 := by
  have hnodup : (entries.map (·.1)).Nodup := List.pairwise_map.mpr (h.imp String.ne_of_lt)
  have hcount := List.nodup_iff_count.mp hnodup key
  rwa [List.count_eq_countP, List.countP_map] at hcount

/-- Sortedness is a matter of the keys. -/
theorem sorted_iff_of_keys {entries : List (String × α)} {others : List (String × β)}
    (h : entries.map (·.1) = others.map (·.1)) : Sorted entries ↔ Sorted others := by
  have hkeys : ∀ {γ : Type} (xs : List (String × γ)),
      Sorted xs ↔ (xs.map (·.1)).Pairwise (· < ·) := fun xs => List.pairwise_map.symm
  rw [hkeys, hkeys, h]

end CartCriteria.Dictionary
