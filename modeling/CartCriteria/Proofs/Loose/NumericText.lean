import CartCriteria.Proofs.Loose.NumberForm
import CartCriteria.Proofs.Numeral.Grammar
import Mathlib.Tactic.SplitIfs

/-! Which texts denote a number. They are given by a grammar that says nothing of the order in which
alternatives are tried. What overflows denotes infinity, and is a number like any other here. -/
namespace CartCriteria.Loose

open Text Numeral

def digitOf (radix : Nat) (c : Char) : Nat :=
  (digitValue? radix c).getD 0

/-- The place of a rounded number with one more digit behind it, rounded again. -/
def placeBehind (radix k : Nat) (c : Char) : Nat :=
  nearestMagnitude (unitsOfMagnitude k * radix + digitOf radix c * unitsPerOne) 1

private def step? (radix : Nat) (k : Option Nat) (c : Char) : Option Nat := do
  let k ← k
  let d ← digitValue? radix c
  return nearestMagnitude (unitsOfMagnitude k * radix + d * unitsPerOne) 1

private theorem foldl_step?_none (radix : Nat) (digits : List Char) :
    digits.foldl (step? radix) none = none := by
  induction digits with
  | nil => rfl
  | cons c digits ih => exact ih

private theorem foldl_step? (radix k : Nat) (digits : List Char) :
    digits.foldl (step? radix) (some k) =
      if digits.all fun c => (digitValue? radix c).isSome then
        some (digits.foldl (placeBehind radix) k)
      else none := by
  induction digits generalizing k with
  | nil => rfl
  | cons c digits ih =>
    rw [List.foldl_cons, List.all_cons, List.foldl_cons]
    cases hc : digitValue? radix c with
    | none =>
      have hstep : step? radix (some k) c = none := by rw [step?, hc]; rfl
      rw [hstep, foldl_step?_none]
      rfl
    | some d =>
      have hstep : step? radix (some k) c = some (placeBehind radix k c) := by
        rw [step?, placeBehind, digitOf, hc]
        rfl
      rw [hstep, ih, Option.isSome_some, Bool.true_and]

/-- If all are digits they are taken one by one, each time with a rounding. -/
theorem radixNumber_eq (radix : Nat) {digits : List Char} (hne : digits ≠ []) :
    radixNumber radix digits =
      if digits.all fun c => (digitValue? radix c).isSome then
        .ofMagnitude false (digits.foldl (placeBehind radix) 0)
      else .nan := by
  have hfold := foldl_step? radix 0 digits
  unfold step? at hfold
  rw [radixNumber, if_neg (by simpa using hne), hfold]
  split_ifs <;> rfl

def IsRadixDigit (radix : Nat) (c : Char) : Prop :=
  match radix with
  | 2 => '0' ≤ c ∧ c ≤ '1'
  | 8 => '0' ≤ c ∧ c ≤ '7'
  | 16 => ('0' ≤ c ∧ c ≤ '9') ∨ ('a' ≤ c ∧ c ≤ 'f') ∨ ('A' ≤ c ∧ c ≤ 'F')
  | _ => False

private theorem between_iff (a b c : Char) :
    a ≤ c ∧ c ≤ b ↔ a.toNat ≤ c.toNat ∧ c.toNat ≤ b.toNat :=
  Iff.rfl

variable {mark : Char} {radix : Nat} {digits cs : List Char}

/-- The digits of a radix are the characters with a value in it. -/
theorem isSome_digitValue?_iff (hmark : radixOfMark? mark = some radix) (c : Char) :
    (digitValue? radix c).isSome = true ↔ IsRadixDigit radix c := by
  revert hmark
  fun_cases radixOfMark? mark <;> intro hmark <;> cases hmark
  all_goals
    simp only [digitValue?, IsRadixDigit, between_iff, Char.reduceToNat]
    split_ifs <;> simp <;> omega

private theorem radixNumber_ne_nan_iff (hmark : radixOfMark? mark = some radix) :
    radixNumber radix digits ≠ .nan ↔ digits ≠ [] ∧ ∀ c ∈ digits, IsRadixDigit radix c := by
  by_cases hne : digits = []
  · subst hne
    exact ⟨fun h => absurd rfl h, fun h => absurd rfl h.1⟩
  · have hall : (digits.all fun c => (digitValue? radix c).isSome) = true ↔
        ∀ c ∈ digits, IsRadixDigit radix c := by
      simp only [List.all_eq_true, isSome_digitValue?_iff hmark]
    rw [radixNumber_eq radix hne, ← hall]
    split_ifs with hdigits
    · exact ⟨fun _ => ⟨hne, hdigits⟩, fun _ => Binary64.ofMagnitude_ne_nan _ _⟩
    · exact ⟨fun h => absurd rfl h, fun h => absurd h.2 hdigits⟩

private theorem decimalNumber_ne_nan_iff {negative : Bool} :
    decimalNumber negative cs ≠ .nan ↔ ∃ n, scan cs = some (n, []) := by
  rw [decimalNumber]
  split
  · rename_i n hscan
    exact ⟨fun _ => ⟨n, hscan⟩, fun _ => Binary64.ofMagnitude_ne_nan _ _⟩
  · rename_i hother
    refine ⟨fun h => absurd rfl h, ?_⟩
    rintro ⟨n, hscan⟩
    exact absurd hscan (hother n)

/-- The texts that denote a number: nothing, infinity, digits behind a zero and the letter of their
radix, or a decimal literal. Infinity and decimal literals may have a sign. -/
inductive IsNumeric : List Char → Prop
  | blank : IsNumeric []
  | infinity (sign : Sign) : IsNumeric (sign.chars ++ "Infinity".toList)
  | radix {mark : Char} {radix : Nat} {digits : List Char} (hmark : radixOfMark? mark = some radix)
      (hne : digits ≠ []) (hdigits : ∀ c ∈ digits, IsRadixDigit radix c) :
      IsNumeric ('0' :: mark :: digits)
  | decimal (sign : Sign) {mantissa exponent : List Char} (hmantissa : IsMantissa mantissa)
      (hexponent : IsExponent exponent) : IsNumeric (sign.chars ++ (mantissa ++ exponent))

private theorem isNumeric_of_decimal (sign : Sign) {negative : Bool}
    (h : decimalNumber negative cs ≠ .nan) : IsNumeric (sign.chars ++ cs) := by
  obtain ⟨mantissa, exponent, rfl, hmantissa, hexponent⟩ :=
    exists_scan_iff.mp (decimalNumber_ne_nan_iff.mp h)
  exact .decimal sign hmantissa hexponent

private theorem isNumeric_of_signed (sign : Sign) {negative : Bool}
    (h : (if cs = "Infinity".toList then .infinite negative else decimalNumber negative cs) ≠
      Binary64.nan) : IsNumeric (sign.chars ++ cs) := by
  split at h
  · rename_i hinfinity
    exact hinfinity ▸ .infinity sign
  · exact isNumeric_of_decimal sign h

private theorem decimalNumber_zero_mark (hmark : radixOfMark? mark = some radix) :
    decimalNumber false ('0' :: mark :: cs) = .nan := by
  revert hmark
  fun_cases radixOfMark? mark <;> intro hmark <;> cases hmark <;> rfl

private theorem trimmedNumber_ne_nan_of_decimal (sign : Sign)
    (h : ∀ negative, decimalNumber negative cs ≠ .nan) : trimmedNumber (sign.chars ++ cs) ≠ .nan := by
  have hsigned (negative : Bool) : (if cs = "Infinity".toList then .infinite negative
      else decimalNumber negative cs) ≠ Binary64.nan := by
    split
    · exact Binary64.noConfusion
    · exact h negative
  cases sign with
  | plus => exact hsigned false
  | minus => exact hsigned true
  | none =>
    rw [Sign.chars, List.nil_append]
    cases cs with
    | nil => exact Binary64.ofNat_ne_nan 0
    | cons c rest =>
      -- A second sign and the letter of a radix are where no literal goes on.
      by_cases hplus : c = '+'
      · subst hplus
        exact absurd rfl (h false)
      by_cases hminus : c = '-'
      · subst hminus
        exact absurd rfl (h false)
      by_cases hzero : c = '0'
      · subst hzero
        cases rest with
        | nil => exact h false
        | cons mark rest =>
          rw [trimmedNumber_zero]
          cases hmark : radixOfMark? mark with
          | none => exact h false
          | some radix => exact absurd (decimalNumber_zero_mark hmark) (h false)
      · rw [trimmedNumber_unsigned hzero hplus hminus]
        exact hsigned false

private theorem trimmedNumber_ne_nan_iff : trimmedNumber cs ≠ .nan ↔ IsNumeric cs := by
  constructor
  · intro h
    obtain ⟨sign, rest, rfl, hrest⟩ := Sign.exists_chars_append cs
    cases sign with
    | plus => exact isNumeric_of_signed .plus h
    | minus => exact isNumeric_of_signed .minus h
    | none =>
      have hhead := hrest rfl
      rw [Sign.chars, List.nil_append] at h
      cases rest with
      | nil => exact .blank
      | cons c rest =>
        by_cases hzero : c = '0'
        · subst hzero
          cases rest with
          | nil => exact isNumeric_of_decimal .none h
          | cons mark rest =>
            rw [trimmedNumber_zero] at h
            cases hmark : radixOfMark? mark with
            | none =>
              rw [hmark] at h
              exact isNumeric_of_decimal .none h
            | some radix =>
              rw [hmark] at h
              obtain ⟨hne, hdigits⟩ := (radixNumber_ne_nan_iff hmark).mp h
              exact .radix hmark hne hdigits
        · rw [trimmedNumber_unsigned hzero (hhead c rfl).1 (hhead c rfl).2] at h
          exact isNumeric_of_signed .none h
  · intro h
    cases h with
    | blank => exact Binary64.ofNat_ne_nan 0
    | infinity sign => cases sign <;> decide
    | radix hmark hne hdigits =>
      rw [trimmedNumber_zero, hmark]
      exact (radixNumber_ne_nan_iff hmark).mpr ⟨hne, hdigits⟩
    | decimal sign hmantissa hexponent =>
      have hscan := exists_scan_iff.mpr ⟨_, _, rfl, hmantissa, hexponent⟩
      exact trimmedNumber_ne_nan_of_decimal sign fun _ => decimalNumber_ne_nan_iff.mpr hscan

/-- The texts that a reader of binary64 numbers takes: infinity and not-a-number by name, in upper or
lower case, and digits with a point anywhere among them and an exponent. -/
inductive IsFloat : List Char → Prop
  | named (sign : Sign) {name : List Char}
      (hname : name.map Char.toLower ∈ ["inf".toList, "infinity".toList, "nan".toList]) :
      IsFloat (sign.chars ++ name)
  | whole (sign : Sign) {digits exponent : List Char} (hdigits : IsDigits digits)
      (hexponent : IsExponent exponent) : IsFloat (sign.chars ++ (digits ++ exponent))
  | pointed (sign : Sign) {digits fraction exponent : List Char}
      (hdigits : ∀ c ∈ digits, c.isDigit = true) (hfraction : ∀ c ∈ fraction, c.isDigit = true)
      (hne : digits ≠ [] ∨ fraction ≠ []) (hexponent : IsExponent exponent) :
      IsFloat (sign.chars ++ (digits ++ '.' :: fraction ++ exponent))

/-- A text denotes a number exactly if the grammar has it, without the blanks at its ends. Every
decimal literal that the scanner uses up, behind any sign, is a text that a reader of binary64
numbers takes. -/
theorem textNumber_ne_nan_iff (s : String) :
    (textNumber s ≠ .nan ↔ IsNumeric (trimBoth isTrimmable s.toList)) ∧
    ∀ (sign : Sign) (n : Numeral) (cs : List Char), scan cs = some (n, []) →
      IsFloat (sign.chars ++ cs) := by
  refine ⟨trimmedNumber_ne_nan_iff, ?_⟩
  intro sign n cs hscan
  obtain ⟨mantissa, exponent, rfl, hmantissa, hexponent⟩ := exists_scan_iff.mp ⟨n, hscan⟩
  cases hmantissa with
  | whole hdigits => exact .whole sign hdigits hexponent
  | pointed hdigits hfraction =>
    exact .pointed sign hdigits.isDigit hfraction (.inl hdigits.ne_nil) hexponent
  | fraction hdigits =>
    exact .pointed sign (List.forall_mem_nil _) hdigits.isDigit (.inr hdigits.ne_nil) hexponent

/-- Overflow is no failure. The byte-order mark and the spaces are not part of the literal. -/
theorem textNumber_ne_nan_overflow :
    textNumber "\uFEFF -.5E+400 " ≠ .nan ∧ IsFloat "-.5E+400".toList := by
  obtain ⟨hnumeric, hfloat⟩ := textNumber_ne_nan_iff "\uFEFF -.5E+400 "
  have hscan : scan ".5E+400".toList =
      some (⟨[], some ['5'], some (false, ['4', '0', '0'])⟩, []) := by
    decide
  have hmantissa : IsMantissa ".5".toList := .fraction ⟨List.cons_ne_nil _ _, List.all_eq_true.mp rfl⟩
  have hexponent : IsExponent "E+400".toList :=
    .written (.inr rfl) .plus ⟨List.cons_ne_nil _ _, List.all_eq_true.mp rfl⟩
  exact ⟨hnumeric.mpr (.decimal .minus hmantissa hexponent), hfloat .minus _ _ hscan⟩

end CartCriteria.Loose
