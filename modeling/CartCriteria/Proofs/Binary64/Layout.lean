import CartCriteria.Proofs.Binary64.Decimal
import CartCriteria.Proofs.Numeral.Spelling

/-! The layouts of numbers as numerals. Every layout writes a plain numeral, and the numeral denotes
the shortest decimal, so that rounding it to nearest gives the magnitude back. -/
namespace CartCriteria

namespace Numeral

def decimal (n : Numeral) : Decimal :=
  ⟨valueOfDigits (n.whole ++ n.fraction.getD []), n.writtenExponent - (n.fraction.getD []).length⟩

/-- The number of a numeral has the magnitude nearest to its decimal. -/
theorem toBinary64_eq (negative : Bool) (n : Numeral) :
    n.toBinary64 negative =
      .ofMagnitude negative (Binary64.magnitudeOfDecimal n.decimal.digits n.decimal.exponent) :=
  rfl

/-- A numeral without a point and an exponent is the decimal of its digits. -/
theorem decimal_ofNat (n : Nat) : (ofNat n).decimal = ⟨n, 0⟩ := by
  rw [decimal, ofNat, Option.getD_none, List.append_nil]
  congr 1
  exact valueOfDigits_ofNat n

/-- A natural number that is written out is rounded to the nearest place. -/
theorem toBinary64_ofNat (negative : Bool) (n : Nat) :
    (ofNat n).toBinary64 negative = .ofMagnitude negative (naturalPlace n) := by
  rw [toBinary64_eq, decimal_ofNat, Binary64.magnitudeOfDecimal_natural]

end Numeral

/-- One decimal is another with zeros at its end, which its exponent makes up for. -/
def Decimal.Extends (d short : Decimal) : Prop :=
  ∃ zeros : Nat, d = ⟨short.digits * 10 ^ zeros, short.exponent - zeros⟩

/-- Zeros at the end of a decimal do not change what it is rounded to. -/
theorem Decimal.Extends.magnitude_eq {d short : Decimal} (h : d.Extends short) :
    Binary64.magnitudeOfDecimal d.digits d.exponent =
      Binary64.magnitudeOfDecimal short.digits short.exponent := by
  obtain ⟨zeros, rfl⟩ := h
  exact Binary64.magnitudeOfDecimal_shift _ _ _

namespace NumberLayout

open Numeral

/-- The numeral of positional digits. A whole number has the given fraction. -/
def positionalNumeral (suffix : Option (List Char)) (digits : List Char) (places : Int) : Numeral :=
  if places ≤ 0 then ⟨['0'], some (List.replicate (-places).toNat '0' ++ digits), none⟩
  else if digits.length ≤ places.toNat then
    ⟨digits ++ List.replicate (places.toNat - digits.length) '0', suffix, none⟩
  else ⟨digits.take places.toNat, some (digits.drop places.toNat), none⟩

def scientificNumeral (digits : List Char) (exponent : Int) : Numeral :=
  ⟨digits.take 1, if (digits.drop 1).isEmpty then none else some (digits.drop 1),
    some (decide (exponent < 0), Nat.toDigits 10 exponent.natAbs)⟩

def numeral (n : NumberLayout) (suffix : Option (List Char)) (d : Decimal) : Numeral :=
  let digits := Nat.toDigits 10 d.digits
  let exponent := d.exponent + digits.length - 1
  if n.leastPositional ≤ exponent ∧ exponent ≤ n.greatestPositional then
    positionalNumeral suffix digits (exponent + 1)
  else scientificNumeral digits exponent

private theorem toList_positional (n : NumberLayout) {suffix : Option (List Char)}
    (hsuffix : n.wholeSuffix.toList = fractionChars suffix) (digits : List Char) (places : Int) :
    (n.positional digits places).toList = (positionalNumeral suffix digits places).chars := by
  rw [positional, positionalNumeral]
  split
  · simp [chars, fractionChars, exponentChars]
  · split
    · simp [chars, hsuffix, exponentChars]
    · simp [chars, fractionChars, exponentChars]

private theorem toList_scientific (digits : List Char) (exponent : Int) :
    (scientific digits exponent).toList = (scientificNumeral digits exponent).chars := by
  have hexponent : (toString exponent.natAbs).toList = Nat.toDigits 10 exponent.natAbs := by
    rw [Nat.toString_eq_ofList_toDigits, String.toList_ofList]
  have hsign : (if exponent < 0 then "e-" else "e+").toList =
      ['e', if decide (exponent < 0) then '-' else '+'] := by
    by_cases h : exponent < 0 <;> simp [h]
  rw [scientific, scientificNumeral, chars, exponentChars, String.toList_append,
    String.toList_append, String.toList_append, hsign, hexponent, String.toList_ofList]
  cases digits with
  | nil => simp [fractionChars]
  | cons _ rest => cases rest <;> simp [fractionChars]

/-- The text of a magnitude is the numeral of its shortest decimal. -/
theorem toList_renderMagnitude (n : NumberLayout) (suffix : Option (List Char))
    (hsuffix : n.wholeSuffix.toList = fractionChars suffix) (k : Nat) :
    (n.renderMagnitude k).toList = (n.numeral suffix (Decimal.shortest n.tie k)).chars := by
  rw [renderMagnitude, numeral]
  split
  · exact n.toList_positional hsuffix _ _
  · exact toList_scientific _ _

private theorem zeros_isDigits (count : Nat) : IsDigits (List.replicate (count + 1) '0') :=
  ⟨List.cons_ne_nil _ _, zeros_isDigit _⟩

private theorem isDigit_append {a b : List Char} (ha : ∀ c ∈ a, c.isDigit = true)
    (hb : ∀ c ∈ b, c.isDigit = true) : ∀ c ∈ a ++ b, c.isDigit = true := by
  intro c hc
  rcases List.mem_append.mp hc with hc | hc
  · exact ha c hc
  · exact hb c hc

def IsZeros (suffix : Option (List Char)) : Prop :=
  ∀ digits ∈ suffix, ∃ more, digits = List.replicate (more + 1) '0'

theorem isZeros_none : IsZeros none :=
  fun digits hdigits => absurd hdigits (Option.not_mem_none digits)

variable {suffix : Option (List Char)} {digits tail : List Char} {c : Char}

private theorem zero_positional_isPlain (hdigits : IsDigits digits)
    (count : Nat) :
    IsPlain ⟨['0'], some (List.replicate count '0' ++ digits), none⟩ where
  whole := ⟨List.cons_ne_nil _ _, zeros_isDigit 1⟩
  fraction := by
    intro fraction hfraction
    cases hfraction
    exact ⟨by simp [hdigits.ne_nil], isDigit_append (zeros_isDigit _) hdigits.isDigit⟩
  exponent := nofun
  plain_whole := rfl

private theorem positionalNumeral_isPlain (hsuffix : IsZeros suffix)
    (hdigits : IsDigits (c :: tail)) (hc : c ≠ '0') (places : Int) :
    (positionalNumeral suffix (c :: tail) places).IsPlain := by
  rw [positionalNumeral]
  split
  · exact zero_positional_isPlain hdigits _
  obtain ⟨count, hcount⟩ : ∃ count, places.toNat = count + 1 := ⟨places.toNat - 1, by omega⟩
  have htail : ∀ x ∈ tail, x.isDigit = true := fun x hx =>
    hdigits.isDigit x (List.mem_cons_of_mem c hx)
  split
  · exact {
      whole := ⟨List.cons_ne_nil _ _, isDigit_append hdigits.isDigit (zeros_isDigit _)⟩
      fraction := by
        intro fraction hfraction
        obtain ⟨more, rfl⟩ := hsuffix fraction hfraction
        exact zeros_isDigits more
      exponent := nofun
      plain_whole := hasPlainWhole_cons hc _ _ _ }
  · rename_i hlength
    rw [hcount, List.take_succ_cons, List.drop_succ_cons]
    rw [hcount, List.length_cons] at hlength
    exact {
      whole := ⟨List.cons_ne_nil _ _, by
        intro x hx
        exact hdigits.isDigit x ((List.take_sublist (count + 1) (c :: tail)).subset hx)⟩
      fraction := by
        intro fraction hfraction
        cases hfraction
        exact ⟨by simp; omega, fun x hx => htail x (List.mem_of_mem_drop hx)⟩
      exponent := nofun
      plain_whole := hasPlainWhole_cons hc _ _ _ }

private theorem scientificNumeral_isPlain (hdigits : IsDigits (c :: tail)) (hc : c ≠ '0')
    (exponent : Int) : (scientificNumeral (c :: tail) exponent).IsPlain where
  whole := ⟨List.cons_ne_nil _ _, by
    intro x hx
    exact hdigits.isDigit x ((List.take_sublist 1 (c :: tail)).subset hx)⟩
  fraction := by
    intro fraction hfraction
    cases tail with
    | nil => cases hfraction
    | cons x rest =>
      cases hfraction
      exact ⟨List.cons_ne_nil _ _, fun y hy => hdigits.isDigit y (List.mem_cons_of_mem c hy)⟩
  exponent := by
    intro e he
    cases he
    exact toDigits_isDigits exponent.natAbs
  plain_whole := hasPlainWhole_cons hc _ _ _

private theorem valueOfDigits_append_zeros (digits : List Char) (count : Nat) :
    valueOfDigits (digits ++ List.replicate count '0') = valueOfDigits digits * 10 ^ count := by
  rw [valueOfDigits_eq, valueOfDigits_eq, Nat.ofDigitChars_append, Nat.ofDigitChars_replicate_zero,
    Nat.mul_comm]

private theorem decimal_eq (whole : List Char) (fraction : Option (List Char)) :
    decimal ⟨whole, fraction, none⟩ =
      ⟨valueOfDigits (whole ++ fraction.getD []), -(fraction.getD []).length⟩ := by
  rw [decimal, writtenExponent, Int.zero_sub]

private theorem extends_shifted (digits zeros : Nat) {exponent given : Int}
    (h : exponent = given - zeros) : Decimal.Extends ⟨digits * 10 ^ zeros, exponent⟩ ⟨digits, given⟩ :=
  ⟨zeros, by rw [h]⟩

private theorem extends_self (digits : Nat) {exponent given : Int} (h : exponent = given) :
    Decimal.Extends ⟨digits, exponent⟩ ⟨digits, given⟩ := by
  have hshifted : Decimal.Extends ⟨digits * 10 ^ 0, exponent⟩ ⟨digits, given⟩ :=
    extends_shifted digits 0 (by omega)
  rwa [Nat.pow_zero, Nat.mul_one] at hshifted

private theorem positionalNumeral_extends (hsuffix : IsZeros suffix) (digits : List Char)
    (places : Int) :
    (positionalNumeral suffix digits places).decimal.Extends
      ⟨valueOfDigits digits, places - digits.length⟩ := by
  rw [positionalNumeral]
  split
  · rw [decimal_eq, Option.getD_some, List.cons_append, List.nil_append, ← List.cons_append,
      ← List.replicate_succ, valueOfDigits_zeros_append, List.length_append, List.length_replicate]
    exact extends_self _ (by omega)
  split
  · rename_i hlength
    cases suffix with
    | none =>
      rw [decimal_eq, Option.getD_none, List.append_nil, valueOfDigits_append_zeros,
        List.length_nil]
      exact extends_shifted _ _ (by omega)
    | some zeros =>
      obtain ⟨more, rfl⟩ := hsuffix zeros rfl
      rw [decimal_eq, Option.getD_some, List.append_assoc,
        List.replicate_append_replicate, valueOfDigits_append_zeros, List.length_replicate]
      exact extends_shifted _ _ (by omega)
  · rw [decimal_eq, Option.getD_some, List.take_append_drop, List.length_drop]
    exact extends_self _ (by omega)

private theorem writtenExponent_scientific (digits : List Char) (exponent : Int) :
    (scientificNumeral digits exponent).writtenExponent = exponent := by
  rw [scientificNumeral, writtenExponent]
  dsimp only
  rw [valueOfDigits_toDigits]
  by_cases hnegative : exponent < 0
  · simp only [hnegative, decide_true, if_true]
    omega
  · simp only [hnegative, decide_false, Bool.false_eq_true, if_false]
    omega

private theorem scientificNumeral_extends (hne : digits ≠ []) (exponent : Int) :
    (scientificNumeral digits exponent).decimal.Extends
      ⟨valueOfDigits digits, exponent + 1 - digits.length⟩ := by
  have hfraction : (scientificNumeral digits exponent).fraction.getD [] = digits.drop 1 := by
    match digits with
    | [] | [_] | _ :: _ :: _ => rfl
  have hlength : 0 < digits.length := List.length_pos_iff.mpr hne
  have hwhole : (scientificNumeral digits exponent).whole = digits.take 1 := rfl
  rw [decimal, writtenExponent_scientific, hfraction, hwhole, List.take_append_drop, List.length_drop]
  exact extends_self _ (by omega)

variable (n : NumberLayout) {d : Decimal}

/-- A decimal other than zero is written as a plain numeral. -/
theorem numeral_isPlain (hsuffix : IsZeros suffix) (hdigits : 0 < d.digits) :
    (n.numeral suffix d).IsPlain := by
  obtain ⟨c, tail, htail, hc⟩ := toDigits_eq_cons hdigits
  have hisDigits := toDigits_isDigits d.digits
  rw [numeral]
  rw [htail] at hisDigits ⊢
  split
  · exact positionalNumeral_isPlain hsuffix hisDigits hc _
  · exact scientificNumeral_isPlain hisDigits hc _

/-- No more digits stand before the point than the positional range has places. -/
theorem length_whole_numeral_le (suffix : Option (List Char)) (d : Decimal) :
    (n.numeral suffix d).whole.length ≤ max 1 (n.greatestPositional + 1).toNat := by
  rw [numeral]
  split
  · rw [positionalNumeral]
    split
    · exact Nat.le_max_left _ _
    · split
      · rw [List.length_append, List.length_replicate]
        omega
      · rw [List.length_take]
        omega
  · rw [scientificNumeral, List.length_take]
    omega

/-- With a suffix for whole numbers no numeral is whole. -/
theorem isWhole_numeral (zeros : List Char) (d : Decimal) :
    (n.numeral (some zeros) d).isWhole = false := by
  rw [numeral]
  split
  · rw [positionalNumeral]
    split
    · rfl
    · split <;> rfl
  · exact Bool.and_false _

/-- The numeral of a decimal denotes it, whatever zeros are added. -/
theorem numeral_extends (hsuffix : IsZeros suffix) (d : Decimal) :
    (n.numeral suffix d).decimal.Extends d := by
  have hd : (⟨valueOfDigits (Nat.toDigits 10 d.digits),
      d.exponent + (Nat.toDigits 10 d.digits).length - 1 + 1 - (Nat.toDigits 10 d.digits).length⟩ :
      Decimal) = d := by
    rw [valueOfDigits_toDigits]
    congr 1
    omega
  rw [numeral]
  split
  · have h := positionalNumeral_extends hsuffix (Nat.toDigits 10 d.digits)
      (d.exponent + (Nat.toDigits 10 d.digits).length - 1 + 1)
    rwa [hd] at h
  · have h := scientificNumeral_extends (toDigits_isDigits d.digits).ne_nil
      (d.exponent + (Nat.toDigits 10 d.digits).length - 1)
    rwa [hd] at h

/-- The numeral of the shortest decimal of a finite magnitude reads back. -/
theorem magnitude_numeral (hsuffix : IsZeros suffix) {k : Nat} (hk : k < topMagnitude) :
    Binary64.magnitudeOfDecimal (n.numeral suffix (Decimal.shortest n.tie k)).decimal.digits
      (n.numeral suffix (Decimal.shortest n.tie k)).decimal.exponent = k := by
  rw [(n.numeral_extends hsuffix _).magnitude_eq, Decimal.magnitude_shortest n.tie hk]

end NumberLayout
end CartCriteria
