import CartCriteria.Text.Units16

/-! The order of texts by 16-bit units, said in characters: the first character in which two texts
differ decides. Surrogates stand below `U+E000`, so the characters from there to `U+FFFF` come
last. -/
namespace CartCriteria.Text

/-- The order of lists of units is the lexicographic one of the library. -/
theorem compareLists_eq (as bs : List Nat) : compareLists as bs = compare as bs := by
  induction as generalizing bs with
  | nil => cases bs <;> rfl
  | cons a as ih =>
    cases bs with
    | nil => rfl
    | cons b bs => rw [compareLists, ih, List.compare_cons_cons]

private theorem compareLists_cons_of_lt {a b : Nat} (h : a < b) (as bs : List Nat) :
    compareLists (a :: as) (b :: bs) = .lt := by
  rw [compareLists, Nat.compare_eq_lt.mpr h]
  rfl

private theorem compareLists_append_left (us as bs : List Nat) :
    compareLists (us ++ as) (us ++ bs) = compareLists as bs := by
  induction us with
  | nil => rfl
  | cons u us ih =>
    rw [List.cons_append, List.cons_append, compareLists, Std.ReflOrd.compare_self]
    exact ih

/-- The place of a character when texts are ordered by 16-bit units: its code point, except that
`U+E000..U+FFFF` come after all supplementary characters. -/
def rank16 (c : Char) : Nat :=
  if 0xE000 ≤ c.toNat ∧ c.toNat < 0x10000 then 0x110000 + c.toNat else c.toNat

private theorem rank16_cases (c : Char) :
    c.toNat < 0xD800 ∧ rank16 c = c.toNat ∨
    0xE000 ≤ c.toNat ∧ c.toNat < 0x10000 ∧ rank16 c = 0x110000 + c.toNat ∨
    0x10000 ≤ c.toNat ∧ c.toNat < 0x110000 ∧ rank16 c = c.toNat := by
  have hscalar : c.toNat < 0xD800 ∨ 0xDFFF < c.toNat ∧ c.toNat < 0x110000 := c.valid
  rw [rank16]
  split <;> omega

private theorem rank16_injective {x y : Char} (h : rank16 x = rank16 y) : x = y := by
  have hx := rank16_cases x
  have hy := rank16_cases y
  apply Char.toNat_inj.mp
  omega

instance : Std.LawfulEqCmp (compareOn rank16) where
  compare_self {c} := (Std.ReflOrd.compare_self : compare (rank16 c) (rank16 c) = .eq)
  eq_of_compare h := rank16_injective (Std.LawfulEqOrd.eq_of_compare h)

private theorem compareLists_of_rank16_lt {x y : Char} (h : rank16 x < rank16 y)
    (us vs : List Nat) :
    compareLists (charUnits16 x ++ us) (charUnits16 y ++ vs) = .lt := by
  have hx := rank16_cases x
  have hy := rank16_cases y
  simp only [charUnits16]
  split <;> split
  · apply compareLists_cons_of_lt
    omega
  · apply compareLists_cons_of_lt
    omega
  · apply compareLists_cons_of_lt
    omega
  -- Two pairs may share the first unit and then differ in the second.
  · by_cases hhigh : (x.toNat - 0x10000) / 0x400 = (y.toNat - 0x10000) / 0x400
    · rw [hhigh]
      refine (compareLists_append_left [_] _ _).trans (compareLists_cons_of_lt ?_ _ _)
      omega
    · apply compareLists_cons_of_lt
      omega

private theorem compareLists_charUnits16 (x y : Char) (us vs : List Nat) :
    compareLists (charUnits16 x ++ us) (charUnits16 y ++ vs) =
      (compareOn rank16 x y).then (compareLists us vs) := by
  rw [compareOn]
  rcases Nat.lt_trichotomy (rank16 x) (rank16 y) with hlt | heq | hgt
  · rw [compareLists_of_rank16_lt hlt, Nat.compare_eq_lt.mpr hlt]
    rfl
  · cases rank16_injective heq
    rw [compareLists_append_left, Std.ReflOrd.compare_self]
    rfl
  · rw [compareLists_eq, Std.OrientedOrd.eq_swap, ← compareLists_eq,
      compareLists_of_rank16_lt hgt, Nat.compare_eq_gt.mpr hgt]
    rfl

private theorem charUnits16_eq_cons (c : Char) : ∃ u us, charUnits16 c = u :: us := by
  simp only [charUnits16]
  split
  · exact ⟨_, _, rfl⟩
  · exact ⟨_, _, rfl⟩

/-- The order of texts is that of the ranks of their characters, lexicographically. -/
theorem compareUnits16_eq (s t : String) :
    compareUnits16 s t = List.compareLex (compareOn rank16) s.toList t.toList := by
  rw [compareUnits16, units16, units16]
  generalize s.toList = xs
  generalize t.toList = ys
  induction xs generalizing ys with
  | nil =>
    cases ys with
    | nil => rfl
    | cons y ys =>
      obtain ⟨u, us, hy⟩ := charUnits16_eq_cons y
      rw [List.flatMap_cons, hy]
      rfl
  | cons x xs ih =>
    cases ys with
    | nil =>
      obtain ⟨u, us, hx⟩ := charUnits16_eq_cons x
      rw [List.flatMap_cons, hx]
      rfl
    | cons y ys =>
      rw [List.flatMap_cons, List.flatMap_cons, compareLists_charUnits16, ih,
        List.compareLex_cons_cons]

/-- No two texts are ordered as equal. -/
theorem compareUnits16_eq_eq_iff (s t : String) : compareUnits16 s t = .eq ↔ s = t := by
  rw [compareUnits16_eq, Std.LawfulEqCmp.compare_eq_iff_eq, String.toList_inj]

/-- One text comes before another: it is a proper beginning of it, or has the character of lower
rank where the two first differ. -/
def Precedes (s t : List Char) : Prop :=
  (s <+: t ∧ s ≠ t) ∨
    ∃ common x y xs ys, s = common ++ x :: xs ∧ t = common ++ y :: ys ∧ x ≠ y ∧
      rank16 x < rank16 y

private theorem not_precedes_nil (s : List Char) : ¬ Precedes s [] := by
  rintro (⟨hbegins, hne⟩ | ⟨common, x, y, xs, ys, -, h, -⟩)
  · exact hne (List.prefix_nil.mp hbegins)
  · simp at h

private theorem nil_precedes_cons (y : Char) (ys : List Char) : Precedes [] (y :: ys) :=
  .inl ⟨List.nil_prefix, (List.cons_ne_nil y ys).symm⟩

private theorem cons_precedes_cons (x y : Char) (xs ys : List Char) :
    Precedes (x :: xs) (y :: ys) ↔ rank16 x < rank16 y ∨ x = y ∧ Precedes xs ys := by
  constructor
  · rintro (⟨hbegins, hne⟩ | ⟨common, v, w, vs, ws, hs, ht, hvw, hrank⟩)
    · obtain ⟨rfl, hrest⟩ := List.cons_prefix_cons.mp hbegins
      exact .inr ⟨rfl, .inl ⟨hrest, fun h => hne (h ▸ rfl)⟩⟩
    · cases common with
      | nil =>
        cases hs
        cases ht
        exact .inl hrank
      | cons c common =>
        cases hs
        cases ht
        exact .inr ⟨rfl, .inr ⟨common, v, w, vs, ws, rfl, rfl, hvw, hrank⟩⟩
  · rintro (hrank | ⟨rfl, ⟨hbegins, hne⟩ | ⟨common, v, w, vs, ws, rfl, rfl, hvw, hrank⟩⟩)
    · refine .inr ⟨[], x, y, xs, ys, rfl, rfl, ?_, hrank⟩
      rintro rfl
      exact Nat.lt_irrefl _ hrank
    · exact .inl ⟨List.cons_prefix_cons.mpr ⟨rfl, hbegins⟩, fun h => hne (List.cons.inj h).2⟩
    · exact .inr ⟨x :: common, v, w, vs, ws, rfl, rfl, hvw, hrank⟩

/-- One text is ordered below another exactly when it precedes it. -/
theorem compareUnits16_eq_lt_iff (s t : String) :
    compareUnits16 s t = .lt ↔ Precedes s.toList t.toList := by
  rw [compareUnits16_eq]
  generalize s.toList = xs
  generalize t.toList = ys
  induction xs generalizing ys with
  | nil =>
    cases ys with
    | nil => simp [not_precedes_nil, List.compareLex_nil_nil]
    | cons y ys => simp [nil_precedes_cons, List.compareLex_nil_cons]
  | cons x xs ih =>
    cases ys with
    | nil => simp [not_precedes_nil, List.compareLex_cons_nil]
    | cons y ys =>
      rw [List.compareLex_cons_cons, cons_precedes_cons, ← ih, Ordering.then_eq_lt,
        Std.LawfulEqCmp.compare_eq_iff_eq, compareOn, Nat.compare_eq_lt]

end CartCriteria.Text
