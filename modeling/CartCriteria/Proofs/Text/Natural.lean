import CartCriteria.Proofs.Numeral.Spelling
import CartCriteria.Text.Natural

/-! What is typed as a natural number, once more as digits. Any other character is refused, and so
are digits that make a number of more than 64 bits. Zeros in front change nothing, nor does a plus sign
in front of these, so every number has many spellings. -/
namespace CartCriteria.Text

/-- The number that digits make behind the number `n`. -/
def goOn (n : Nat) (digits : List Char) : Nat :=
  digits.foldl (fun n c => n * 10 + (c.toNat - 0x30)) n

theorem goOn_zero (digits : List Char) : goOn 0 digits = Numeral.valueOfDigits digits :=
  rfl

private theorem le_goOn (n : Nat) (digits : List Char) : n ≤ goOn n digits := by
  induction digits generalizing n with
  | nil => exact Nat.le_refl n
  | cons c digits ih =>
    have hrest := ih (n * 10 + (c.toNat - 0x30))
    rw [goOn, List.foldl_cons, ← goOn]
    omega

/-- Digits are the number that they make, if it fits. -/
theorem naturalFrom_of_digits {n : Nat} {digits : List Char}
    (hdigits : ∀ c ∈ digits, c.isDigit = true) (hn : n < UInt64.size) :
    (naturalFrom n digits).toOption =
      if goOn n digits < UInt64.size then some (goOn n digits) else none := by
  induction digits generalizing n with
  | nil =>
    rw [goOn, List.foldl_nil, if_pos hn]
    rfl
  | cons c digits ih =>
    obtain ⟨hc, hdigits⟩ := List.forall_mem_cons.mp hdigits
    rw [naturalFrom, if_pos hc, goOn, List.foldl_cons, ← goOn]
    dsimp only
    split
    · rename_i hfits
      exact ih hdigits hfits
    · rename_i hlarge
      have hgrows := le_goOn (n * 10 + (c.toNat - 0x30)) digits
      rw [if_neg (by omega)]
      rfl

/-- What is not all digits is no number. -/
theorem naturalFrom_of_not_digit {n : Nat} {cs : List Char} (h : cs.all Char.isDigit = false) :
    (naturalFrom n cs).toOption = none := by
  induction cs generalizing n with
  | nil => cases h
  | cons c cs ih =>
    rw [naturalFrom]
    split
    · rename_i hc
      rw [List.all_cons, hc, Bool.true_and] at h
      dsimp only
      split
      · exact ih h
      · rfl
    · rfl

/-- No sign is taken off that is no plus sign. -/
theorem natural_of_head {s : String} {c : Char} {tail : List Char} (h : s.toList = c :: tail)
    (hc : c ≠ '+') : natural s = naturalFrom 0 (c :: tail) := by
  rw [natural, h]
  split
  · cases ‹c :: tail = []›
  · exact absurd (List.cons.inj ‹_›).1 hc
  · exact absurd (List.cons.inj ‹_›).1 hc
  · rfl

private theorem naturalFrom_eq_ok_iff {n : Nat} {cs : List Char} : naturalFrom 0 cs = .ok n ↔
    (∀ c ∈ cs, c.isDigit = true) ∧ Numeral.valueOfDigits cs = n ∧ n < UInt64.size := by
  have hoption : naturalFrom 0 cs = .ok n ↔ (naturalFrom 0 cs).toOption = some n := by
    cases naturalFrom 0 cs <;> simp [Except.toOption]
  rw [hoption]
  cases hall : cs.all Char.isDigit with
  | true =>
    have hdigits := List.all_eq_true.mp hall
    rw [naturalFrom_of_digits hdigits (by decide), goOn_zero, Option.ite_none_right_eq_some]
    constructor
    · rintro ⟨hfits, hvalue⟩
      cases hvalue
      exact ⟨hdigits, rfl, hfits⟩
    · rintro ⟨-, rfl, hfits⟩
      exact ⟨hfits, rfl⟩
  | false =>
    rw [naturalFrom_of_not_digit hall]
    constructor
    · intro h
      cases h
    · rintro ⟨hdigits, -⟩
      rw [List.all_eq_true.mpr hdigits] at hall
      cases hall

private theorem digit_lt {c : Char} (hc : c.isDigit = true) : c.toNat - 0x30 < 10 := by
  obtain ⟨hlow, hhigh⟩ := Char.isDigit_iff_toNat.mp hc
  exact Nat.sub_lt_left_of_lt_add hlow (Nat.lt_succ_of_le hhigh)

private theorem toDigits_of_isDigit {c : Char} (hc : c.isDigit = true) :
    Nat.toDigits 10 (c.toNat - 0x30) = [c] := by
  have hchar : (c.toNat - 0x30).digitChar = c := by
    rw [← Char.toNat_inj, Nat.toNat_digitChar_of_lt_ten (digit_lt hc)]
    exact Nat.add_sub_cancel' (Char.isDigit_iff_toNat.mp hc).1
  rw [Nat.toDigits_of_lt_base (digit_lt hc), hchar]

private theorem toDigits_append_eq_goOn {n : Nat} {digits : List Char} (hn : 0 < n)
    (hdigits : ∀ c ∈ digits, c.isDigit = true) :
    Nat.toDigits 10 n ++ digits = Nat.toDigits 10 (goOn n digits) := by
  induction digits generalizing n with
  | nil => exact List.append_nil _
  | cons c digits ih =>
    obtain ⟨hc, hdigits⟩ := List.forall_mem_cons.mp hdigits
    have hnext := Nat.toDigits_append_toDigits (b := 10) (by decide) hn (digit_lt hc)
    rw [toDigits_of_isDigit hc, Nat.mul_comm] at hnext
    rw [goOn, List.foldl_cons, ← goOn, ← ih (by omega) hdigits, ← hnext, List.append_assoc]
    rfl

/-- Digits are those of the number they denote, behind some zeros. -/
theorem exists_zeros_append {digits : List Char} (h : Numeral.IsDigits digits) :
    ∃ zeros, digits =
      List.replicate zeros '0' ++ Nat.toDigits 10 (Numeral.valueOfDigits digits) := by
  obtain ⟨hne, hdigits⟩ := h
  induction digits with
  | nil => exact absurd rfl hne
  | cons c digits ih =>
    obtain ⟨hc, hrest⟩ := List.forall_mem_cons.mp hdigits
    rcases Nat.eq_zero_or_pos (c.toNat - 0x30) with hzero | hpos
    · obtain rfl : c = '0' := by
        have hchar := toDigits_of_isDigit hc
        rw [hzero, Nat.toDigits_zero] at hchar
        exact (List.cons.inj hchar).1.symm
      -- Zero alone is its own digit, and not one in front of it.
      cases digits with
      | nil => exact ⟨0, rfl⟩
      | cons d digits =>
        obtain ⟨zeros, hzeros⟩ := ih (List.cons_ne_nil _ _) hrest
        exact ⟨zeros + 1, congrArg ('0' :: ·) hzeros⟩
    · refine ⟨0, ?_⟩
      have hgo := toDigits_append_eq_goOn hpos hrest
      rw [toDigits_of_isDigit hc] at hgo
      rw [List.replicate_zero, List.nil_append, ← goOn_zero, goOn, List.foldl_cons, ← goOn,
        Nat.zero_mul, Nat.zero_add]
      exact hgo

/-- A text spells a number: its digits, behind zeros or not, and these behind a plus sign or not. -/
def Spells (s : String) (n : Nat) : Prop :=
  ∃ sign zeros, (sign = [] ∨ sign = ['+']) ∧
    s.toList = sign ++ (List.replicate zeros '0' ++ (toString n).toList)

/-- The decimal text of a number spells it. -/
theorem spells_toString (n : Nat) : Spells (toString n) n :=
  ⟨[], 0, .inl rfl, rfl⟩

private theorem toList_toString (n : Nat) : (toString n).toList = Nat.toDigits 10 n := by
  rw [Nat.toString_eq_ofList_toDigits, String.toList_ofList]

private theorem digits_of_spelling (zeros n : Nat) :
    Numeral.IsDigits (List.replicate zeros '0' ++ (toString n).toList) ∧
    Numeral.valueOfDigits (List.replicate zeros '0' ++ (toString n).toList) = n := by
  have hdigits := Numeral.toDigits_isDigits n
  rw [toList_toString, Numeral.valueOfDigits_zeros_append, Numeral.valueOfDigits_toDigits]
  exact ⟨⟨List.append_ne_nil_of_right_ne_nil _ hdigits.ne_nil,
    List.forall_mem_append.mpr ⟨Numeral.zeros_isDigit zeros, hdigits.isDigit⟩⟩, rfl⟩

/-- The digits of a text give the number that it spells. -/
theorem Spells.valueOfDigits_filter {s : String} {n : Nat} (h : Spells s n) :
    Numeral.valueOfDigits (s.toList.filter Char.isDigit) = n := by
  obtain ⟨sign, zeros, hsign, hs⟩ := h
  obtain ⟨hdigits, hvalue⟩ := digits_of_spelling zeros n
  have hnone : sign.filter Char.isDigit = [] := by
    rcases hsign with rfl | rfl <;> rfl
  rw [hs, List.filter_append, hnone, List.nil_append, List.filter_eq_self.mpr hdigits.isDigit,
    hvalue]

/-- No text spells two numbers. -/
theorem Spells.unique {s : String} {m n : Nat} (hm : Spells s m) (hn : Spells s n) : m = n :=
  hm.valueOfDigits_filter.symm.trans hn.valueOfDigits_filter

private theorem spells_of_naturalFrom {s : String} {sign cs : List Char} {n : Nat}
    (hsign : sign = [] ∨ sign = ['+']) (hs : s.toList = sign ++ cs) (hne : cs ≠ [])
    (h : naturalFrom 0 cs = .ok n) : Spells s n ∧ n < UInt64.size := by
  obtain ⟨hdigits, rfl, hfits⟩ := naturalFrom_eq_ok_iff.mp h
  obtain ⟨zeros, hzeros⟩ := exists_zeros_append ⟨hne, hdigits⟩
  refine ⟨⟨sign, zeros, hsign, ?_⟩, hfits⟩
  rw [toList_toString, ← hzeros, hs]

/-- What is read as a number are its spellings, if the number fits. -/
theorem natural_eq_ok_iff {s : String} {n : Nat} :
    natural s = .ok n ↔ Spells s n ∧ n < UInt64.size := by
  constructor
  · intro h
    rw [natural] at h
    split at h
    · cases h
    · cases h
    · rename_i rest hne hs
      exact spells_of_naturalFrom (.inr rfl) hs hne h
    · rename_i hne _ _
      exact spells_of_naturalFrom (.inl rfl) rfl hne h
  · rintro ⟨⟨sign, zeros, hsign, hs⟩, hfits⟩
    obtain ⟨hdigits, hvalue⟩ := digits_of_spelling zeros n
    have hread := naturalFrom_eq_ok_iff.mpr ⟨hdigits.isDigit, hvalue, hfits⟩
    obtain ⟨c, tail, htail⟩ := List.exists_cons_of_ne_nil hdigits.ne_nil
    rw [htail] at hs hread hdigits
    rcases hsign with rfl | rfl
    · have hplus : c ≠ '+' := by
        rintro rfl
        cases hdigits.isDigit '+' List.mem_cons_self
      rw [natural_of_head hs hplus, hread]
    · rw [natural, hs]
      exact hread

end CartCriteria.Text
