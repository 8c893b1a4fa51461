import CartCriteria.Numeral
import Mathlib.Algebra.Order.Ring.Nat

/-! The spelling of numerals. Scanning reads a spelled numeral back and stops behind it, whatever
follows that cannot belong to a numeral. -/
namespace CartCriteria.Numeral

def fractionChars : Option (List Char) → List Char
  | none => []
  | some digits => '.' :: digits

def exponentChars : Option (Bool × List Char) → List Char
  | none => []
  | some (negative, digits) => 'e' :: (if negative then '-' else '+') :: digits

def chars (n : Numeral) : List Char :=
  n.whole ++ (fractionChars n.fraction ++ exponentChars n.exponent)

/-- One decimal digit or more. -/
structure IsDigits (digits : List Char) : Prop where
  ne_nil : digits ≠ []
  isDigit : ∀ c ∈ digits, c.isDigit = true

/-- Spelled with digits in every part that is there, and without zeros in front. -/
structure IsPlain (n : Numeral) : Prop where
  whole : IsDigits n.whole
  fraction : ∀ digits ∈ n.fraction, IsDigits digits
  exponent : ∀ e ∈ n.exponent, IsDigits e.2
  plain_whole : n.hasPlainWhole = true

/-- What starts so is not taken for a part of the numeral in front of it. -/
def Ends (rest : List Char) : Prop :=
  ∀ c ∈ rest.head?, c.isDigit = false ∧ c ≠ '.' ∧ c ≠ 'e' ∧ c ≠ 'E'

theorem ends_nil : Ends [] := by
  simp [Ends]

theorem ends_cons {c : Char} {rest : List Char} :
    Ends (c :: rest) ↔ c.isDigit = false ∧ c ≠ '.' ∧ c ≠ 'e' ∧ c ≠ 'E' := by
  simp [Ends]

/-- The digits at the front end where something else starts. -/
theorem span_digits {digits rest : List Char} (hdigits : ∀ c ∈ digits, c.isDigit = true)
    (hrest : ∀ c ∈ rest.head?, c.isDigit = false) :
    (digits ++ rest).takeWhile Char.isDigit = digits ∧
      (digits ++ rest).dropWhile Char.isDigit = rest := by
  rw [List.takeWhile_append_of_pos hdigits, List.dropWhile_append_of_pos hdigits]
  cases rest with
  | nil => simp
  | cons c rest => simp [hrest c rfl]

private theorem scanExponent_chars {e : Option (Bool × List Char)} {rest : List Char}
    (he : ∀ x ∈ e, IsDigits x.2) (hrest : Ends rest) :
    scanExponent (exponentChars e ++ rest) = some (e, rest) := by
  cases e with
  | none =>
    cases rest with
    | nil => rfl
    | cons c rest =>
      have hc := (hrest c rfl).2.2
      simp [exponentChars, scanExponent, hc.1, hc.2]
  | some x =>
    obtain ⟨negative, digits⟩ := x
    have hspan := span_digits (he _ rfl).isDigit fun c hc => (hrest c hc).1
    have hne := (he _ rfl).ne_nil
    cases negative <;> simp [exponentChars, scanExponent, hspan.1, hspan.2, hne]

private theorem exponent_head {e : Option (Bool × List Char)} {rest : List Char}
    (hrest : Ends rest) :
    ∀ c ∈ (exponentChars e ++ rest).head?, c.isDigit = false ∧ c ≠ '.' := by
  intro c hc
  cases e with
  | none => exact ⟨(hrest c hc).1, (hrest c hc).2.1⟩
  | some x =>
    cases hc
    decide

/-- Where no point follows, the digits are a numeral without a fraction. -/
theorem scan_whole {digits rest : List Char} (hdigits : ∀ c ∈ digits, c.isDigit = true)
    (hrest : ∀ c ∈ rest.head?, c.isDigit = false ∧ c ≠ '.') :
    scan (digits ++ rest) =
      if digits.isEmpty then none
      else (scanExponent rest).map fun (exponent, tail) => (⟨digits, none, exponent⟩, tail) := by
  obtain ⟨htake, hdrop⟩ := span_digits hdigits fun c hc => (hrest c hc).1
  rw [scan, htake, hdrop]
  dsimp only
  split
  · exact absurd rfl (hrest '.' rfl).2
  · rw [Option.getD_none, List.isEmpty_nil, Bool.and_true]
    cases scanExponent rest <;> rfl

/-- Where a point follows, there may be no digits on one side of it. -/
theorem scan_pointed {digits fraction rest : List Char}
    (hdigits : ∀ c ∈ digits, c.isDigit = true) (hfraction : ∀ c ∈ fraction, c.isDigit = true)
    (hrest : ∀ c ∈ rest.head?, c.isDigit = false) :
    scan (digits ++ '.' :: (fraction ++ rest)) =
      if digits.isEmpty && fraction.isEmpty then none
      else (scanExponent rest).map fun (exponent, tail) =>
        (⟨digits, some fraction, exponent⟩, tail) := by
  have hpoint : ∀ c ∈ ('.' :: (fraction ++ rest)).head?, c.isDigit = false := by
    intro c hc
    cases hc
    decide
  obtain ⟨htake, hdrop⟩ := span_digits hdigits hpoint
  obtain ⟨htake', hdrop'⟩ := span_digits hfraction hrest
  rw [scan, htake, hdrop]
  simp only [htake', hdrop', Option.getD_some]
  cases scanExponent rest <;> rfl

/-- Scanning a numeral gives it back. -/
theorem scan_chars {n : Numeral} (hn : n.IsPlain) {rest : List Char} (hrest : Ends rest) :
    scan (n.chars ++ rest) = some (n, rest) := by
  obtain ⟨whole, fraction, exponent⟩ := n
  have hwhole : IsDigits whole := hn.whole
  have hexponent := scanExponent_chars hn.exponent hrest
  have hhead := exponent_head (e := exponent) hrest
  rw [chars, List.append_assoc, List.append_assoc]
  cases fraction with
  | some digits =>
    have hfraction := hn.fraction digits rfl
    rw [fractionChars, List.cons_append,
      scan_pointed hwhole.isDigit hfraction.isDigit fun c hc => (hhead c hc).1, hexponent]
    simp [hwhole.ne_nil]
  | none =>
    rw [fractionChars, List.nil_append, scan_whole hwhole.isDigit hhead, hexponent]
    simp [hwhole.ne_nil]

/-- The digits in front are taken as they stand. -/
theorem whole_of_scan {cs rest : List Char} {n : Numeral} (h : scan cs = some (n, rest)) :
    n.whole = cs.takeWhile Char.isDigit := by
  simp only [scan] at h
  -- With a point behind the digits, and without one.
  split at h
  all_goals
    split at h
    · cases h
    · split at h
      · cases h
        rfl
      · cases h

/-- A plain numeral begins with a digit. -/
theorem IsPlain.chars_eq_cons {n : Numeral} (hn : n.IsPlain) :
    ∃ c tail, n.chars = c :: tail ∧ c.isDigit = true := by
  obtain ⟨whole, fraction, exponent⟩ := n
  cases whole with
  | nil => exact absurd rfl hn.whole.ne_nil
  | cons c tail => exact ⟨c, _, rfl, hn.whole.isDigit c List.mem_cons_self⟩

/-- Behind a zero that starts a plain numeral stands its point, its exponent or nothing. -/
theorem IsPlain.chars_zero {n : Numeral} (hn : n.IsPlain) {tail : List Char}
    (h : n.chars = '0' :: tail) : ∀ x ∈ tail.head?, x = '.' ∨ x = 'e' := by
  obtain ⟨whole, fraction, exponent⟩ := n
  match whole with
  | [] => exact absurd rfl hn.whole.ne_nil
  | c :: y :: more =>
    cases h
    cases hn.plain_whole
  | [c] =>
    cases h
    intro x hx
    match fraction, exponent with
    | some digits, _ =>
      cases hx
      exact .inl rfl
    | none, some e =>
      cases hx
      exact .inr rfl
    | none, none => cases hx

/-- The characters of a word in ASCII: neither spaces nor control characters. -/
def IsVisible (c : Char) : Prop :=
  0x20 < c.toNat ∧ c.toNat < 0x7F

instance (c : Char) : Decidable (IsVisible c) :=
  inferInstanceAs (Decidable (_ ∧ _))

private theorem isVisible_of_isDigit {c : Char} (hc : c.isDigit = true) : IsVisible c := by
  have hplace : 0x30 ≤ c.toNat ∧ c.toNat ≤ 0x39 := Char.isDigit_iff_toNat.mp hc
  exact ⟨by omega, by omega⟩

/-- The parts of a numeral are digits behind marks of their own. -/
theorem IsPlain.isVisible {n : Numeral} (hn : n.IsPlain) : ∀ c ∈ n.chars, IsVisible c := by
  have hdigits {digits : List Char} (h : IsDigits digits) : ∀ c ∈ digits, IsVisible c :=
    fun c hc => isVisible_of_isDigit (h.isDigit c hc)
  rw [chars, List.forall_mem_append, List.forall_mem_append]
  refine ⟨hdigits hn.whole, ?_, ?_⟩
  · cases hfraction : n.fraction with
    | none => exact nofun
    | some digits =>
      exact List.forall_mem_cons.mpr ⟨by decide, hdigits (hn.fraction digits hfraction)⟩
  · cases hexponent : n.exponent with
    | none => exact nofun
    | some e =>
      obtain ⟨negative, digits⟩ := e
      rw [exponentChars, List.forall_mem_cons, List.forall_mem_cons]
      exact ⟨by decide, by cases negative <;> decide, hdigits (hn.exponent _ hexponent)⟩

/-- The digits of a natural number denote it. -/
theorem valueOfDigits_eq (digits : List Char) :
    valueOfDigits digits = Nat.ofDigitChars 10 digits 0 := by
  rw [Nat.ofDigitChars_eq_foldl, valueOfDigits]
  congr 1
  funext n c
  rw [Nat.mul_comm]
  rfl

/-- So many digits are worth less than that power of ten. -/
theorem valueOfDigits_lt {digits : List Char} (h : ∀ c ∈ digits, c.isDigit = true) :
    valueOfDigits digits < 10 ^ digits.length := by
  rw [valueOfDigits_eq]
  induction digits with
  | nil =>
    rw [Nat.ofDigitChars_nil]
    exact Nat.one_pos
  | cons c digits ih =>
    have hc := (Char.isDigit_iff_toNat.mp (h c List.mem_cons_self)).2
    have hrest := ih fun x hx => h x (List.mem_cons_of_mem c hx)
    have hdigit : c.toNat - '0'.toNat ≤ 9 := Nat.sub_le_sub_right hc '0'.toNat
    have hmul := Nat.mul_le_mul_left (10 ^ digits.length) hdigit
    rw [Nat.ofDigitChars_cons, Nat.ofDigitChars_eq_ofDigitChars_zero, Nat.mul_zero, Nat.zero_add,
      List.length_cons, Nat.pow_succ]
    omega

/-- Zeros are digits, and in front of others they are worth nothing. -/
theorem zeros_isDigit (count : Nat) : ∀ c ∈ List.replicate count '0', c.isDigit = true := by
  intro c hc
  rw [List.eq_of_mem_replicate hc]
  decide

/-- Zeros in front do not count. -/
theorem valueOfDigits_zeros_append (count : Nat) (digits : List Char) :
    valueOfDigits (List.replicate count '0' ++ digits) = valueOfDigits digits := by
  rw [valueOfDigits_eq, valueOfDigits_eq, Nat.ofDigitChars_append, Nat.ofDigitChars_replicate_zero,
    Nat.mul_zero]

/-- The digits of a number denote it. -/
theorem valueOfDigits_toDigits (n : Nat) : valueOfDigits (Nat.toDigits 10 n) = n := by
  rw [valueOfDigits_eq, Nat.ofDigitChars_ten_toDigits]

/-- A factor of ten is a zero at the end. -/
theorem toDigits_mul_pow {n : Nat} (hn : 0 < n) (j : Nat) :
    Nat.toDigits 10 (n * 10 ^ j) = Nat.toDigits 10 n ++ List.replicate j '0' := by
  induction j with
  | zero => rw [Nat.pow_zero, Nat.mul_one, List.replicate_zero, List.append_nil]
  | succ j ih =>
    have hpos : 0 < n * 10 ^ j := Nat.mul_pos hn (Nat.pow_pos (by decide))
    have hnext := Nat.toDigits_append_toDigits (b := 10) (by decide) hpos (d := 0) (by decide)
    rw [Nat.add_zero, ih, Nat.toDigits_zero] at hnext
    rw [Nat.pow_succ, ← Nat.mul_assoc, Nat.mul_comm, ← hnext, List.append_assoc,
      List.replicate_succ']

/-- Every number has digits, and nothing else. -/
theorem toDigits_isDigits (n : Nat) : IsDigits (Nat.toDigits 10 n) where
  ne_nil := Nat.toDigits_ne_nil
  isDigit _ hc := Nat.isDigit_of_mem_toDigits (by decide) (by decide) hc

/-- Only zero is written with a zero in front. -/
theorem toDigits_eq_cons {n : Nat} (hn : 0 < n) :
    ∃ c digits, Nat.toDigits 10 n = c :: digits ∧ c ≠ '0' := by
  induction n using Nat.strongRecOn with
  | ind n ih =>
    rcases Nat.lt_or_ge n 10 with hsmall | hlarge
    · refine ⟨n.digitChar, [], Nat.toDigits_of_lt_base hsmall, ?_⟩
      simpa using Nat.ne_of_gt hn
    · obtain ⟨c, digits, hdigits, hc⟩ := ih (n / 10) (by omega) (by omega)
      exact ⟨c, digits ++ [(n % 10).digitChar],
        by rw [Nat.toDigits_of_base_le (by decide) hlarge, hdigits, List.cons_append], hc⟩

/-- Digits that begin with another one than zero are plain. -/
theorem hasPlainWhole_cons {c : Char} (hc : c ≠ '0') (digits : List Char)
    (fraction : Option (List Char)) (exponent : Option (Bool × List Char)) :
    hasPlainWhole ⟨c :: digits, fraction, exponent⟩ = true := by
  rw [hasPlainWhole]
  split
  · cases ‹_ :: _ = []›
  · rename_i h
    cases h
    exact absurd rfl hc
  · rfl

def ofNat (n : Nat) : Numeral :=
  ⟨Nat.toDigits 10 n, none, none⟩

/-- The digits of a number are a plain numeral. -/
theorem ofNat_isPlain (n : Nat) : (ofNat n).IsPlain where
  whole := toDigits_isDigits n
  fraction := nofun
  exponent := nofun
  plain_whole := by
    rcases Nat.eq_zero_or_pos n with rfl | hpos
    · decide
    · obtain ⟨c, digits, hdigits, hc⟩ := toDigits_eq_cons hpos
      rw [ofNat, hdigits]
      exact hasPlainWhole_cons hc digits none none

theorem ofNat_chars (n : Nat) : (ofNat n).chars = Nat.toDigits 10 n := by
  simp [chars, ofNat, fractionChars, exponentChars]

/-- The numeral of a number denotes it. -/
theorem valueOfDigits_ofNat (n : Nat) : valueOfDigits (ofNat n).whole = n :=
  valueOfDigits_toDigits n

end CartCriteria.Numeral
