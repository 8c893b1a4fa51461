/-! Lists of key and value sorted strictly by key. Keys are ordered by code point, which is also
the order of their UTF-8 bytes; a list is a dictionary only when `Sorted` holds of it. -/
namespace CartCriteria.Dictionary

variable {α : Type}

/-- Every key stands before all later ones, so no key occurs twice. -/
def Sorted (entries : List (String × α)) : Prop :=
  entries.Pairwise fun a b => a.1 < b.1

instance (entries : List (String × α)) : Decidable (Sorted entries) :=
  inferInstanceAs (Decidable (entries.Pairwise fun a b => a.1 < b.1))

def insert (key : String) (value : α) : List (String × α) → List (String × α)
  | [] => [(key, value)]
  | (k, v) :: rest =>
    if key < k then (key, value) :: (k, v) :: rest
    else if key = k then (key, value) :: rest
    else (k, v) :: insert key value rest

def find? (key : String) : List (String × α) → Option α
  | [] => none
  | (k, v) :: rest => if k = key then some v else find? key rest

/-- The bindings in any order as a dictionary; of one key the last binding counts. -/
def ofList (bindings : List (String × α)) : List (String × α) :=
  bindings.foldl (fun entries binding => insert binding.1 binding.2 entries) []

/-- Inserting adds nothing but what is inserted. -/
theorem mem_insert {key : String} {value : α} {entries : List (String × α)}
    {e : String × α} (h : e ∈ insert key value entries) : e = (key, value) ∨ e ∈ entries := by
  induction entries with
  | nil => simpa [insert] using h
  | cons head rest ih =>
    rw [insert] at h
    split at h
    · simpa using h
    · split at h
      · rcases List.mem_cons.1 h with h | h
        · exact .inl h
        · exact .inr (List.mem_cons_of_mem _ h)
      · rcases List.mem_cons.1 h with h | h
        · exact .inr (h ▸ List.mem_cons_self)
        · exact (ih h).imp_right (List.mem_cons_of_mem _)

/-- Inserting keeps a dictionary sorted. -/
theorem sorted_insert (key : String) (value : α) {entries : List (String × α)}
    (h : Sorted entries) : Sorted (insert key value entries) := by
  induction entries with
  | nil => simp [insert, Sorted]
  | cons head rest ih =>
    obtain ⟨k, v⟩ := head
    have hk := List.pairwise_cons.1 h
    rw [insert]
    split
    · rename_i hlt
      refine List.pairwise_cons.2 ⟨fun e he => ?_, h⟩
      rcases List.mem_cons.1 he with rfl | he
      · exact hlt
      · exact String.lt_trans hlt (hk.1 e he)
    · split
      · rename_i heq
        subst heq
        exact List.pairwise_cons.2 ⟨hk.1, hk.2⟩
      · rename_i hge hne
        refine List.pairwise_cons.2 ⟨fun e he => ?_, ih hk.2⟩
        rcases mem_insert he with rfl | he
        · exact Std.lt_of_le_of_ne (String.not_lt.1 hge) (Ne.symm hne)
        · exact hk.1 e he

private theorem sorted_foldl_insert (bindings : List (String × α)) {entries : List (String × α)}
    (h : Sorted entries) :
    Sorted (bindings.foldl (fun entries binding => insert binding.1 binding.2 entries) entries) := by
  induction bindings generalizing entries with
  | nil => exact h
  | cons binding rest ih => exact ih (sorted_insert _ _ h)

/-- Any bindings make a sorted dictionary. -/
theorem sorted_ofList (bindings : List (String × α)) : Sorted (ofList bindings) :=
  sorted_foldl_insert bindings .nil

/-- What was inserted last is found. -/
theorem find?_insert_self (key : String) (value : α) (entries : List (String × α)) :
    find? key (insert key value entries) = some value := by
  induction entries with
  | nil => simp [insert, find?]
  | cons head rest ih =>
    rw [insert]
    split
    · simp [find?]
    · split
      · simp [find?]
      · rename_i hne
        simp [find?, ih, Ne.symm hne]

/-- Inserting under one key leaves every other key alone. -/
theorem find?_insert_of_ne {key other : String} (value : α) (entries : List (String × α))
    (h : other ≠ key) : find? other (insert key value entries) = find? other entries := by
  induction entries with
  | nil => simp [insert, find?, Ne.symm h]
  | cons head rest ih =>
    rw [insert]
    split
    · simp [find?, Ne.symm h]
    · split
      · rename_i heq
        simp [find?, ← heq, Ne.symm h]
      · simp [find?, ih]

end CartCriteria.Dictionary
