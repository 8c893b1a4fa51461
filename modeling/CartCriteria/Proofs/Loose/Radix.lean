import CartCriteria.Proofs.Binary64.Binades
import CartCriteria.Proofs.Loose.Integers
import CartCriteria.Proofs.Loose.NumericText
import Mathlib.Data.List.Induction

/-! The numeric form of digits in another radix. They are rounded after each digit, which is not
correct rounding: a tie among the first digits goes down before the digits that would have decided it
are read. This is the only fault, and the number is then the next lower one. -/
namespace CartCriteria

private theorem Binary64.ofMagnitude_inj {negative : Bool} {j k : Nat} (hj : j ≤ topMagnitude)
    (hk : k ≤ topMagnitude) : ofMagnitude negative j = ofMagnitude negative k ↔ j = k := by
  constructor
  · intro h
    have hrank := rank?_ofMagnitude negative hj
    rw [h, rank?_ofMagnitude negative hk, Option.some.injEq] at hrank
    cases negative <;> simp at hrank <;> omega
  · rintro rfl
    rfl

namespace Loose

open Text Numeral

def valueIn (radix : Nat) (digits : List Char) : Nat :=
  digits.foldl (fun n c => n * radix + digitOf radix c) 0

variable {mark c : Char} {radix w n : Nat} {digits : List Char}

/-- All radices with a letter are powers of two. -/
theorem exists_eq_two_pow (hmark : radixOfMark? mark = some radix) : ∃ w, radix = 2 ^ w := by
  revert hmark
  fun_cases radixOfMark? mark <;> intro hmark <;> cases hmark
  case case1 | case2 => exact ⟨4, rfl⟩
  case case3 | case4 => exact ⟨3, rfl⟩
  case case5 | case6 => exact ⟨1, rfl⟩

private theorem digitOf_lt (hradix : 0 < radix) (c : Char) : digitOf radix c < radix := by
  simp only [digitOf, digitValue?]
  split_ifs <;> assumption

private theorem valueIn_concat (digits : List Char) (c : Char) :
    valueIn radix (digits ++ [c]) = valueIn radix digits * radix + digitOf radix c := by
  simp only [valueIn, List.foldl_append, List.foldl_cons, List.foldl_nil]

private theorem valueIn_append (kept dropped : List Char) : valueIn radix (kept ++ dropped) =
    valueIn radix kept * radix ^ dropped.length + valueIn radix dropped := by
  induction dropped using List.reverseRecOn with
  | nil => simp [valueIn]
  | append_singleton dropped c ih =>
    rw [← List.append_assoc, valueIn_concat, ih, valueIn_concat, List.length_append,
      List.length_singleton, Nat.pow_succ]
    ring

private theorem valueIn_lt (hradix : 0 < radix) (digits : List Char) :
    valueIn radix digits < radix ^ digits.length := by
  induction digits using List.reverseRecOn with
  | nil => exact Nat.one_pos
  | append_singleton digits c ih =>
    have hdigit := digitOf_lt hradix c
    have hmul := Nat.mul_le_mul_right radix (Nat.succ_le_of_lt ih)
    rw [valueIn_concat, List.length_append, List.length_singleton, Nat.pow_succ]
    rw [Nat.succ_mul] at hmul
    omega

private theorem valueIn_dropLast_le (hradix : 0 < radix) (digits : List Char) :
    valueIn radix digits.dropLast ≤ valueIn radix digits := by
  induction digits using List.reverseRecOn with
  | nil => exact Nat.le_refl _
  | append_singleton digits c _ =>
    rw [List.dropLast_concat, valueIn_concat]
    exact Nat.le_trans (Nat.le_mul_of_pos_right _ hradix) (Nat.le_add_right _ _)

/-- The place where the digits arrive, with a rounding after each. -/
def placeOfDigits (radix : Nat) (digits : List Char) : Nat :=
  digits.foldl (placeBehind radix) 0

private theorem placeOfDigits_concat (digits : List Char) (c : Char) :
    placeOfDigits radix (digits ++ [c]) = placeBehind radix (placeOfDigits radix digits) c := by
  rw [placeOfDigits, placeOfDigits, List.foldl_append, List.foldl_cons, List.foldl_nil]

/-- Up to `2^53` a digit is put behind without loss, and the sum is rounded once. -/
theorem placeBehind_exact (hn : n ≤ 2 ^ 53) (c : Char) :
    placeBehind radix (naturalPlace n) c = naturalPlace (n * radix + digitOf radix c) := by
  have hsum : n * unitsPerOne * radix + digitOf radix c * unitsPerOne =
      (n * radix + digitOf radix c) * unitsPerOne := by
    ring
  rw [placeBehind, units_naturalPlace hn, hsum, naturalPlace]

/-- Past `2^53` a digit is lost. -/
theorem placeBehind_rounded (hn : 2 ^ 53 ≤ n) (c : Char) :
    placeBehind (2 ^ w) (naturalPlace n) c = naturalPlace (n * 2 ^ w) := by
  rw [placeBehind, nearestMagnitude_rounded hn (digitOf_lt (Nat.two_pow_pos w) c)]

/-- Digits are rounded correctly as long as all but the last have not passed `2^53`. -/
theorem placeOfDigits_exact (hradix : 0 < radix) (h : valueIn radix digits.dropLast ≤ 2 ^ 53) :
    placeOfDigits radix digits = naturalPlace (valueIn radix digits) := by
  induction digits using List.reverseRecOn with
  | nil => exact naturalPlace_zero.symm
  | append_singleton digits c ih =>
    rw [List.dropLast_concat] at h
    rw [placeOfDigits_concat, ih (Nat.le_trans (valueIn_dropLast_le hradix digits) h),
      placeBehind_exact h, valueIn_concat]

/-- Behind `2^53` all further digits count as zeros. -/
theorem placeOfDigits_append {kept : List Char}
    (hdropLast : valueIn (2 ^ w) kept.dropLast ≤ 2 ^ 53) (hkept : 2 ^ 53 ≤ valueIn (2 ^ w) kept)
    (dropped : List Char) : placeOfDigits (2 ^ w) (kept ++ dropped) =
      naturalPlace (valueIn (2 ^ w) kept * (2 ^ w) ^ dropped.length) := by
  induction dropped using List.reverseRecOn with
  | nil =>
    rw [List.append_nil, List.length_nil, Nat.pow_zero, Nat.mul_one]
    exact placeOfDigits_exact (Nat.two_pow_pos w) hdropLast
  | append_singleton dropped c ih =>
    have hlarge : 2 ^ 53 ≤ valueIn (2 ^ w) kept * (2 ^ w) ^ dropped.length :=
      Nat.le_trans hkept (Nat.le_mul_of_pos_right _ (Nat.pow_pos (Nat.two_pow_pos w)))
    rw [← List.append_assoc, placeOfDigits_concat, ih, placeBehind_rounded hlarge,
      List.length_append, List.length_singleton, Nat.pow_succ, Nat.mul_assoc]

/-- The digits that first reach `2^53`, and those behind them. -/
structure Reaches (radix : Nat) (kept : List Char) : Prop where
  before : valueIn radix kept.dropLast < 2 ^ 53
  after : 2 ^ 53 ≤ valueIn radix kept

private theorem exists_reaches (h : 2 ^ 53 ≤ valueIn radix digits) :
    ∃ kept dropped, digits = kept ++ dropped ∧ Reaches radix kept := by
  induction digits using List.reverseRecOn with
  | nil => exact absurd h (Nat.not_le_of_lt (Nat.two_pow_pos 53))
  | append_singleton digits c ih =>
    rcases Nat.lt_or_ge (valueIn radix digits) (2 ^ 53) with hless | hmore
    · exact ⟨digits ++ [c], [], (List.append_nil _).symm, by rwa [List.dropLast_concat], h⟩
    · obtain ⟨kept, dropped, rfl, hreaches⟩ := ih hmore
      exact ⟨kept, dropped ++ [c], List.append_assoc _ _ _, hreaches⟩

/-- The first digits to reach `2^53` are a tie that goes down, but other digits than zeros follow,
short of infinity. -/
def LosesDigit (radix : Nat) (digits : List Char) : Prop :=
  ∃ kept dropped, digits = kept ++ dropped ∧ Reaches radix kept ∧ TiesDown (valueIn radix kept) ∧
    valueIn radix dropped ≠ 0 ∧ valueIn radix digits < 2 ^ 1024

private theorem Reaches.naturalPlace_append {kept : List Char} (h : Reaches (2 ^ w) kept)
    (dropped : List Char) :
    (¬ (valueIn (2 ^ w) dropped ≠ 0 ∧ TiesDown (valueIn (2 ^ w) kept) ∧
        valueIn (2 ^ w) (kept ++ dropped) < 2 ^ 1024) →
      naturalPlace (valueIn (2 ^ w) (kept ++ dropped)) = placeOfDigits (2 ^ w) (kept ++ dropped)) ∧
    (valueIn (2 ^ w) dropped ≠ 0 → TiesDown (valueIn (2 ^ w) kept) →
      valueIn (2 ^ w) (kept ++ dropped) < 2 ^ 1024 →
        naturalPlace (valueIn (2 ^ w) (kept ++ dropped)) =
          placeOfDigits (2 ^ w) (kept ++ dropped) + 1) := by
  have hdropped := valueIn_lt (Nat.two_pow_pos w) dropped
  rw [placeOfDigits_append (Nat.le_of_lt h.before) h.after, valueIn_append, ← Nat.pow_mul]
  rw [← Nat.pow_mul] at hdropped
  exact naturalPlace_digits_behind h.after hdropped

/-- Rounding after each digit is rounding once, unless a digit is lost, and then it ends one place
too low. -/
theorem naturalPlace_valueIn (hradix : ∃ w, radix = 2 ^ w) (digits : List Char) :
    (¬ LosesDigit radix digits →
      naturalPlace (valueIn radix digits) = placeOfDigits radix digits) ∧
    (LosesDigit radix digits →
      naturalPlace (valueIn radix digits) = placeOfDigits radix digits + 1) := by
  obtain ⟨w, rfl⟩ := hradix
  constructor
  · intro hnot
    rcases Nat.lt_or_ge (valueIn (2 ^ w) digits) (2 ^ 53) with hless | hmore
    · have hdropLast := valueIn_dropLast_le (Nat.two_pow_pos w) digits
      exact (placeOfDigits_exact (Nat.two_pow_pos w) (Nat.le_trans hdropLast (Nat.le_of_lt hless))).symm
    · obtain ⟨kept, dropped, rfl, hreaches⟩ := exists_reaches hmore
      apply (hreaches.naturalPlace_append dropped).1
      rintro ⟨hne, htie, hfinite⟩
      exact hnot ⟨kept, dropped, rfl, hreaches, htie, hne, hfinite⟩
  · rintro ⟨kept, dropped, rfl, hreaches, htie, hne, hfinite⟩
    exact (hreaches.naturalPlace_append dropped).2 hne htie hfinite

private theorem textNumber_decimal (n : Nat) :
    textNumber (toString n) = .ofMagnitude false (naturalPlace n) := by
  have hchars : (toString n).toList = (Sign.ofNegative false).chars ++ (Numeral.ofNat n).chars := by
    rw [Nat.toString_eq_ofList_toDigits, String.toList_ofList, Numeral.ofNat_chars]
    rfl
  rw [textNumber_numeral (Numeral.ofNat_isPlain n) hchars, Numeral.toBinary64_ofNat]

private theorem textNumber_radix {s : String}
    (hs : trimBoth isTrimmable s.toList = '0' :: mark :: digits)
    (hmark : radixOfMark? mark = some radix) (hne : digits ≠ [])
    (hdigits : ∀ c ∈ digits, IsRadixDigit radix c) :
    textNumber s = .ofMagnitude false (placeOfDigits radix digits) := by
  have hall : (digits.all fun c => (digitValue? radix c).isSome) = true := by
    rw [List.all_eq_true]
    exact fun c hc => (isSome_digitValue?_iff hmark c).mpr (hdigits c hc)
  rw [textNumber, hs, trimmedNumber_zero, hmark, Option.elim_some, radixNumber_eq radix hne,
    if_pos hall, placeOfDigits]

private theorem placeOfDigits_le (radix : Nat) (digits : List Char) :
    placeOfDigits radix digits ≤ topMagnitude := by
  induction digits using List.reverseRecOn with
  | nil => exact Nat.zero_le _
  | append_singleton digits c _ =>
    rw [placeOfDigits_concat]
    exact nearestMagnitude_le _ _

/-- The digits of an integer in another radix are read as the number nearest to it, as its decimal
digits are, exactly if no digit is lost; otherwise the next lower number is read. -/
theorem radix_nearest_iff {s : String}
    (hs : trimBoth isTrimmable s.toList = '0' :: mark :: digits)
    (hmark : radixOfMark? mark = some radix) (hne : digits ≠ [])
    (hdigits : ∀ c ∈ digits, IsRadixDigit radix c) :
    ∃ k, IsNearest (valueIn radix digits * unitsPerOne) 1 k ∧
      textNumber (toString (valueIn radix digits)) = .ofMagnitude false k ∧
      (textNumber s = .ofMagnitude false k ↔ ¬ LosesDigit radix digits) ∧
      (LosesDigit radix digits → ∃ j, j + 1 = k ∧ textNumber s = .ofMagnitude false j) := by
  obtain ⟨hkept, hlost⟩ := naturalPlace_valueIn (exists_eq_two_pow hmark) digits
  refine ⟨naturalPlace (valueIn radix digits), isNearest_nearestMagnitude _ Nat.one_pos,
    textNumber_decimal _, ?_⟩
  rw [textNumber_radix hs hmark hne hdigits,
    Binary64.ofMagnitude_inj (placeOfDigits_le _ _) (naturalPlace_le _)]
  refine ⟨⟨?_, fun hnot => (hkept hnot).symm⟩, fun hloses => ⟨_, (hlost hloses).symm, rfl⟩⟩
  intro heq hloses
  have := hlost hloses
  omega

/-- Behind `2^53 + 1`, which is a tie, the last digit is lost. -/
theorem radix_nearest_iff_tie : ∃ j k, j + 1 = k ∧
    textNumber "0x200000000000011" = .ofMagnitude false j ∧
    textNumber "144115188075855889" = .ofMagnitude false k := by
  have hloses : LosesDigit 16 "200000000000011".toList := by
    have htie : TiesDown (valueIn 16 "20000000000001".toList) :=
      ⟨1076 * binadeSize, by decide, by decide +kernel⟩
    exact ⟨"20000000000001".toList, ['1'], rfl, ⟨by decide +kernel, by decide +kernel⟩, htie,
      by decide, by decide +kernel⟩
  have hvalued : ("200000000000011".toList.all fun c => (digitValue? 16 c).isSome) = true := by
    decide +kernel
  have hmark : radixOfMark? 'x' = some 16 := rfl
  have hdigits : ∀ c ∈ "200000000000011".toList, IsRadixDigit 16 c := fun c hc =>
    (isSome_digitValue?_iff hmark c).mp (List.all_eq_true.mp hvalued c hc)
  have hs : trimBoth isTrimmable "0x200000000000011".toList =
      '0' :: 'x' :: "200000000000011".toList := rfl
  obtain ⟨k, -, hdecimal, -, hlost⟩ := radix_nearest_iff hs hmark (by decide) hdigits
  obtain ⟨j, hj, hplace⟩ := hlost hloses
  have hvalue : toString (valueIn 16 "200000000000011".toList) = "144115188075855889" := by
    decide +kernel
  exact ⟨j, k, hj, hplace, hvalue ▸ hdecimal⟩

/-- The hexadecimal digits and the decimal digits of one integer are different numbers. -/
theorem hexadecimal_not_nearest :
    valueIn 16 "200000000000011".toList = 144115188075855889 ∧
    textNumber "144115188075855889" = .ofNat 144115188075855889 ∧
    textNumber "0x200000000000011" ≠ .ofNat 144115188075855889 := by
  decide +kernel

end Loose
end CartCriteria
