import CartCriteria.Proofs.Json.NumberText

/-! The compact text of a value is one line: whatever its strings and keys hold, there is no control
character in it. -/
namespace CartCriteria.Json

def Uncontrolled (cs : List Char) : Prop :=
  ∀ c ∈ cs, 0x20 ≤ c.toNat

instance (cs : List Char) : Decidable (Uncontrolled cs) :=
  List.decidableBAll _ cs

@[simp]
private theorem uncontrolled_nil : Uncontrolled [] :=
  nofun

@[simp]
private theorem uncontrolled_cons {c : Char} {cs : List Char} :
    Uncontrolled (c :: cs) ↔ 0x20 ≤ c.toNat ∧ Uncontrolled cs :=
  List.forall_mem_cons

@[simp]
private theorem uncontrolled_append {cs rest : List Char} :
    Uncontrolled (cs ++ rest) ↔ Uncontrolled cs ∧ Uncontrolled rest :=
  List.forall_mem_append

/-- A new line is a control character. -/
theorem Uncontrolled.newline_not_mem {cs : List Char} (h : Uncontrolled cs) : '\n' ∉ cs := by
  intro hmem
  exact absurd (h '\n' hmem) (by decide)

private theorem uncontrolled_digits : ∀ n < 0x20,
    Uncontrolled [Nat.digitChar (n / 16), Nat.digitChar (n % 16)] := by
  decide

/-- Control characters are escaped, and all others are written as they are. -/
theorem uncontrolled_escapeChar (c : Char) : Uncontrolled (escapeChar c) := by
  rw [escapeChar]
  by_cases h : c = '"' ∨ c = '\\' ∨ c = '\x08' ∨ c = '\x0c' ∨ c = '\n' ∨ c = '\r' ∨ c = '\t'
  · rcases h with rfl | rfl | rfl | rfl | rfl | rfl | rfl <;> decide
  · simp only [not_or] at h
    simp only [h, if_false]
    split
    · rename_i hlow
      have hfront : Uncontrolled ['\\', 'u', '0', '0'] := by decide
      exact uncontrolled_append.mpr ⟨hfront, uncontrolled_digits _ hlow⟩
    · rename_i hhigh
      exact uncontrolled_cons.mpr ⟨Nat.le_of_not_lt hhigh, uncontrolled_nil⟩

private theorem uncontrolled_stringChars (s : String) : Uncontrolled (stringChars s) := by
  have hinner : Uncontrolled (s.toList.flatMap escapeChar) := by
    intro c hc
    obtain ⟨x, -, hx⟩ := List.mem_flatMap.mp hc
    exact uncontrolled_escapeChar x c hx
  rw [stringChars, uncontrolled_cons, uncontrolled_append]
  exact ⟨by decide, hinner, by decide⟩

private theorem uncontrolled_numberText (n : JsonNumber) : Uncontrolled (numberText n).toList := by
  rw [n.toList_numberText, uncontrolled_append]
  refine ⟨?_, fun c hc => Nat.le_of_lt (n.numeral_isPlain.isVisible c hc).1⟩
  cases n.isNegative <;> decide

mutual

/-- The compact text of a value is free of control characters. -/
theorem uncontrolled_compactChars : ∀ v : Json, Uncontrolled v.compactChars
  | null => by decide
  | bool b => by cases b <;> decide
  | number n => uncontrolled_numberText n
  | string s => uncontrolled_stringChars s
  | array [] => by decide
  | array (v :: rest) => by
    rw [compactChars, uncontrolled_cons, uncontrolled_append]
    exact ⟨by decide, uncontrolled_compactChars v, uncontrolled_compactItems rest⟩
  | object [] => by decide
  | object ((k, v) :: rest) => by
    rw [compactChars, uncontrolled_cons, uncontrolled_append, uncontrolled_cons,
      uncontrolled_append]
    exact ⟨by decide, uncontrolled_stringChars k, by decide, uncontrolled_compactChars v,
      uncontrolled_compactMembers rest⟩

private theorem uncontrolled_compactItems : ∀ items : List Json, Uncontrolled (compactItems items)
  | [] => by decide
  | v :: rest => by
    rw [compactItems, uncontrolled_cons, uncontrolled_append]
    exact ⟨by decide, uncontrolled_compactChars v, uncontrolled_compactItems rest⟩

private theorem uncontrolled_compactMembers : ∀ members : List (String × Json),
    Uncontrolled (compactMembers members)
  | [] => by decide
  | (k, v) :: rest => by
    rw [compactMembers, uncontrolled_cons, uncontrolled_append, uncontrolled_cons,
      uncontrolled_append]
    exact ⟨by decide, uncontrolled_stringChars k, by decide, uncontrolled_compactChars v,
      uncontrolled_compactMembers rest⟩

end

/-- The compact text of a value fits on one line. -/
theorem newline_not_mem_compact (v : Json) : '\n' ∉ v.compact.toList := by
  rw [compact, String.toList_ofList]
  exact (uncontrolled_compactChars v).newline_not_mem

end CartCriteria.Json
