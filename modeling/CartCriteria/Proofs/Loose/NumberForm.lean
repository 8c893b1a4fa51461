import CartCriteria.Proofs.Json.NumberText
import CartCriteria.Proofs.Loose.Order

/-! The numeric form of text that spells a number, and so of the string form of every number. The
string form is read back to the same number; only the sign of zero is not written. -/
namespace CartCriteria

namespace Text

/-- Nothing is trimmed where no character may be. -/
theorem trimBoth_eq_self {p : Char → Bool} {cs : List Char} (h : ∀ c ∈ cs, p c = false) :
    trimBoth p cs = cs := by
  have hkept {cs : List Char} (h : ∀ c ∈ cs, p c = false) : cs.dropWhile p = cs := by
    cases cs with
    | nil => rfl
    | cons c rest => exact List.dropWhile_cons_of_neg (by simp [h c List.mem_cons_self])
  rw [trimBoth, hkept h, hkept (fun c hc => h c (List.mem_reverse.mp hc)), List.reverse_reverse]

private theorem not_isTrimmable_of_isVisible {c : Char} (hc : Numeral.IsVisible c) :
    isTrimmable c = false := by
  obtain ⟨hlow, hhigh⟩ := hc
  rw [Bool.eq_false_iff]
  intro hblank
  simp only [isTrimmable, isWhiteSpace, Bool.or_eq_true, Bool.and_eq_true, decide_eq_true_eq,
    beq_iff_eq] at hblank
  rcases hblank with hspace | rfl
  · omega
  · exact absurd hhigh (by decide)

end Text

namespace Binary64

/-- The number with both zeros taken for the positive one. -/
def plainZero : Binary64 → Binary64
  | finite x => if x.isZero then finite ⟨false, x.magnitude, x.isFinite⟩ else finite x
  | x => x

/-- Both zeros stand at one place among all numbers. -/
theorem rank?_plainZero (x : Binary64) : x.plainZero.rank? = x.rank? := by
  cases x with
  | nan => rfl
  | infinite negative => rfl
  | finite x =>
    rw [plainZero]
    split
    · rename_i hzero
      have hzero : x.magnitude = 0 := beq_iff_eq.mp hzero
      simp [rank?, hzero]
    · rfl

private theorem plainZero_ofMagnitude (k : Nat) :
    (ofMagnitude false k).plainZero = ofMagnitude false k := by
  rw [ofMagnitude]
  split
  · rw [plainZero, ite_self]
  · rfl

private theorem plainZero_ofMagnitude_of_pos {k : Nat} (hk : 0 < k) (negative : Bool) :
    (ofMagnitude negative k).plainZero = ofMagnitude negative k := by
  rw [ofMagnitude]
  split
  · rw [plainZero, if_neg (by simpa [FiniteBinary64.isZero] using Nat.ne_of_gt hk)]
  · rfl

/-- An integer is never rounded to the negative zero. -/
theorem plainZero_ofInt (n : Int) : (ofInt n).plainZero = ofInt n := by
  rw [ofInt_eq]
  by_cases hnegative : n < 0
  · exact plainZero_ofMagnitude_of_pos (naturalPlace_pos (by omega)) _
  · rw [decide_eq_false hnegative]
    exact plainZero_ofMagnitude _

end Binary64

namespace Loose

open Text

/-- The radix that a letter behind a leading zero stands for. -/
def radixOfMark? : Char → Option Nat
  | 'x' | 'X' => some 16
  | 'o' | 'O' => some 8
  | 'b' | 'B' => some 2
  | _ => none

/-- Behind a leading zero the letter of a radix decides how the rest is read. -/
theorem trimmedNumber_zero (mark : Char) (rest : List Char) :
    trimmedNumber ('0' :: mark :: rest) =
      (radixOfMark? mark).elim (decimalNumber false ('0' :: mark :: rest))
        fun radix => radixNumber radix rest := by
  fun_cases radixOfMark? mark
  case case7 hx hX ho hO hb hB =>
    rw [trimmedNumber]
    · exact if_neg (by simp)
    all_goals simp_all
  all_goals rfl

/-- Without a leading zero or sign a text is infinity or a decimal numeral. -/
theorem trimmedNumber_unsigned {c : Char} (hzero : c ≠ '0') (hplus : c ≠ '+') (hminus : c ≠ '-')
    (rest : List Char) :
    trimmedNumber (c :: rest) =
      if c :: rest = "Infinity".toList then .infinite false
      else decimalNumber false (c :: rest) := by
  rw [trimmedNumber]
  all_goals simp_all

variable {n : Numeral} {negative : Bool}

private theorem ne_infinity {c : Char} {rest : List Char} (hc : c.isDigit = true) :
    c :: rest ≠ "Infinity".toList := by
  intro h
  cases (List.cons.inj h).1
  cases hc

/-- A plain numeral behind its sign is read as one, whatever it starts with. -/
theorem trimmedNumber_numeral (hn : n.IsPlain) :
    trimmedNumber ((Sign.ofNegative negative).chars ++ n.chars) = n.toBinary64 negative := by
  obtain ⟨c, tail, hchars, hc⟩ := hn.chars_eq_cons
  have hscan : Numeral.scan (c :: tail) = some (n, []) := by
    rw [← hchars, ← List.append_nil n.chars]
    exact Numeral.scan_chars hn nofun
  have hdecimal (negative : Bool) : decimalNumber negative (c :: tail) = n.toBinary64 negative := by
    rw [decimalNumber, hscan]
  cases negative with
  | true =>
    rw [hchars]
    exact (if_neg (ne_infinity hc)).trans (hdecimal true)
  | false =>
    rw [hchars, ← hdecimal false]
    change trimmedNumber (c :: tail) = _
    by_cases hzero : c = '0'
    · cases tail with
      | nil =>
        rw [hzero]
        rfl
      | cons x rest =>
        subst hzero
        rw [trimmedNumber_zero]
        rcases hn.chars_zero hchars x rfl with rfl | rfl <;> rfl
    · rw [trimmedNumber_unsigned hzero, if_neg (ne_infinity hc)]
      all_goals
        rintro rfl
        cases hc

/-- A plain numeral, with or without a sign, is read as its number. -/
theorem textNumber_numeral (hn : n.IsPlain) {s : String}
    (hs : s.toList = (Sign.ofNegative negative).chars ++ n.chars) :
    textNumber s = n.toBinary64 negative := by
  have hvisible : ∀ c ∈ s.toList, Numeral.IsVisible c := by
    rw [hs, List.forall_mem_append]
    refine ⟨?_, hn.isVisible⟩
    cases negative with
    | true => exact List.forall_mem_singleton.mpr (by decide)
    | false => exact List.forall_mem_nil _
  rw [textNumber, trimBoth_eq_self fun c hc => not_isTrimmable_of_isVisible (hvisible c hc), hs,
    trimmedNumber_numeral hn]

def isSigned : JsonNumber → Bool
  | .integer n _ => decide (n < 0)
  | .binary x => x.negative && !x.isZero

def looseNumeral : JsonNumber → Numeral
  | .integer n _ => .ofNat n.natAbs
  | .binary x =>
    if x.isZero then .ofNat 0
    else numberLayout.numeral none (Decimal.shortest numberLayout.tie x.magnitude)

private theorem looseNumeral_isPlain (n : JsonNumber) : (looseNumeral n).IsPlain := by
  cases n with
  | integer n _ => exact Numeral.ofNat_isPlain _
  | binary x =>
    rw [looseNumeral]
    split
    · exact Numeral.ofNat_isPlain 0
    · rename_i hzero
      have hne : x.magnitude ≠ 0 := by simpa [FiniteBinary64.isZero] using hzero
      exact NumberLayout.numeral_isPlain _ NumberLayout.isZeros_none
        (Decimal.shortest_digits_pos _ x.isFinite hne)

/-- The string form of a number is a sign, unless it is zero, and a plain numeral. -/
theorem toList_numberString (n : JsonNumber) :
    (numberString n).toList = (Sign.ofNegative (isSigned n)).chars ++ (looseNumeral n).chars := by
  cases n with
  | integer n hn => exact JsonNumber.toList_numberText (.integer n hn)
  | binary x =>
    rw [numberString, NumberLayout.render, isSigned, looseNumeral]
    split
    · rename_i hzero
      rw [hzero, Bool.not_true, Bool.and_false, Numeral.ofNat_chars]
      cases x.negative <;> rfl
    · rename_i hzero
      rw [String.toList_append, NumberLayout.toList_renderMagnitude _ none rfl,
        Bool.eq_false_iff.mpr hzero]
      cases x.negative <;> rfl

/-- The numeral denotes the number, with one zero for both. -/
theorem toBinary64_looseNumeral (n : JsonNumber) :
    (looseNumeral n).toBinary64 (isSigned n) = n.toBinary64.plainZero := by
  cases n with
  | integer n _ =>
    rw [JsonNumber.toBinary64, Binary64.plainZero_ofInt, Binary64.ofInt_eq]
    exact Numeral.toBinary64_ofNat _ _
  | binary x =>
    rw [looseNumeral, isSigned, JsonNumber.toBinary64, Binary64.plainZero]
    split
    · rename_i hzero
      rw [hzero, Bool.not_true, Bool.and_false, Numeral.toBinary64_ofNat, naturalPlace_zero,
        Binary64.ofMagnitude, dif_pos (by decide)]
      congr 2
      exact (beq_iff_eq.mp hzero).symm
    · rename_i hzero
      have hmagnitude := numberLayout.magnitude_numeral NumberLayout.isZeros_none x.isFinite
      rw [Numeral.toBinary64_eq, hmagnitude, Binary64.ofMagnitude, dif_pos x.isFinite,
        Bool.eq_false_iff.mpr hzero, Bool.not_false, Bool.and_true]

/-- A number is read back from its string form, a negative zero as zero. -/
theorem textNumber_numberString (n : JsonNumber) :
    textNumber (numberString n) = n.toBinary64.plainZero := by
  rw [textNumber_numeral (looseNumeral_isPlain n) (toList_numberString n),
    toBinary64_looseNumeral]

/-- A number and its own string form have one place in the order. -/
theorem compare?_numberString (n : JsonNumber) :
    compare? (some (.number n)) (some (.string (numberString n))) = some .eq := by
  obtain ⟨i, hi⟩ := exists_rank?_of_isScalar (a := some (.number n)) rfl
  have htext : (numberOf (some (.string (numberString n)))).rank? = some i := by
    rw [← hi, ← Binary64.rank?_plainZero (numberOf (some (.number n)))]
    exact congrArg Binary64.rank? (textNumber_numberString n)
  rw [compare?_of_not_isTextual (by simp [isTextual]), Binary64.compare?_of_rank? hi htext,
    compare_eq_iff_eq.mpr rfl]

/-- The string form of a number is that number again, with the positive zero for the negative, and
equal to it in the order. So of a number and a text that are loosely equal `gte` and `lte` hold both
ways, and `gt` and `lt` fail. -/
theorem number_equals_stringForm (n : JsonNumber) :
    numberOf (some (.string (stringForm (.number n)))) =
      (numberOf (some (.number n))).plainZero ∧
    compare? (some (.number n)) (some (.string (stringForm (.number n)))) = some .eq ∧
    ∀ s : String, equal (some (.number n)) (some (.string s)) = true → ∀ op : Comparison,
      ((Condition.compare op (.string s)).holdsOf (some (.number n)) = true ↔
        op = .gte ∨ op = .lte) ∧
      ((Condition.compare op (.number n)).holdsOf (some (.string s)) = true ↔
        op = .gte ∨ op = .lte) := by
  refine ⟨textNumber_numberString n, compare?_numberString n, ?_⟩
  intro s hequal op
  obtain rfl : numberString n = s := beq_iff_eq.mp hequal
  have hswap := compare?_swap (some (.number n)) (some (.string (numberString n)))
  rw [Condition.holdsOf_compare, Condition.holdsOf_compare, Comparison.relates, Comparison.relates,
    hswap, compare?_numberString]
  cases op <;> decide

private def minusSextillion : JsonNumber :=
  .binary ⟨true, 0x444B1AE4D6E2EF50, by decide⟩

/-- A number of 22 digits, in front of whose string form a minus stands. -/
theorem number_equals_stringForm_exponent :
    equal (some (.number minusSextillion)) (some (.string "-1e+21")) = true ∧
    (Condition.compare .gte (.string "-1e+21")).holdsOf (some (.number minusSextillion)) = true ∧
    ¬ (Condition.compare .lt (.number minusSextillion)).holdsOf (some (.string "-1e+21")) = true := by
  have hequal : equal (some (.number minusSextillion)) (some (.string "-1e+21")) = true := by
    decide +kernel
  obtain ⟨-, -, hcomparisons⟩ := number_equals_stringForm minusSextillion
  refine ⟨hequal, (hcomparisons _ hequal .gte).1.mpr (.inl rfl), ?_⟩
  rw [(hcomparisons _ hequal .lt).2]
  decide

end Loose
end CartCriteria
