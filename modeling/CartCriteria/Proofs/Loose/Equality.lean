import CartCriteria.Proofs.Binary64.Whole
import CartCriteria.Proofs.Json.CompactReading
import CartCriteria.Proofs.Loose.Leaves
import CartCriteria.Proofs.Loose.NumberForm

/-! Loose equality of integers. As JSON integers they are equal if they are the same, however large, and
equal to their decimal text alone. Up to `2^53` on either side of zero the binary64 number of the same
value is equal to them too; past it such a number may be written with zeros for its last digits. -/
namespace CartCriteria.Loose

private theorem toString_cancel {m n : Int}
    (hm : -0x8000000000000000 ≤ m ∧ m < 0x10000000000000000)
    (hn : -0x8000000000000000 ≤ n ∧ n < 0x10000000000000000) (h : toString m = toString n) : m = n := by
  -- The string form of an integer is its JSON text.
  have htext : Json.numberText (.integer m hm) = Json.numberText (.integer n hn) := h
  have hsame := Json.numberText_cancel Numeral.ends_nil Numeral.ends_nil
    (congrArg (fun text => text.toList ++ []) htext)
  exact JsonNumber.integer.inj hsame.1

-- The unit is a variable here and in the next lemma, for arithmetic would compute it.
private theorem natAbs_of_units {u unit : Nat} {n : Int} {negative : Bool}
    (h : (if negative then -(u : Int) else u) = n * unit) : u = n.natAbs * unit := by
  rw [← Int.natAbs_natCast unit, ← Int.natAbs_mul, ← h]
  cases negative with
  | true => exact (Int.natAbs_neg u).symm
  | false => rfl

private theorem negative_of_units {u unit : Nat} {n : Int} {negative : Bool} (hu : 0 < u)
    (h : (if negative then -(u : Int) else u) = n * unit) : negative = decide (n < 0) := by
  have hunit := Int.natCast_nonneg unit
  cases negative with
  | true =>
    symm
    rw [decide_eq_true_eq]
    by_contra hn
    have hproduct := Int.mul_nonneg (Int.not_lt.mp hn) hunit
    rw [← h, if_pos rfl] at hproduct
    omega
  | false =>
    symm
    rw [decide_eq_false_iff_not]
    intro hn
    have hproduct := Int.mul_nonpos_of_nonpos_of_nonneg (Int.le_of_lt hn) hunit
    rw [← h, if_neg Bool.false_ne_true] at hproduct
    omega

private theorem numeral_of_units {m k : Nat} (hk : k < topMagnitude) (hpos : 0 < m)
    (hm : m ≤ 2 ^ 53) (hunits : unitsOfMagnitude k = m * unitsPerOne) :
    numberLayout.numeral none (Decimal.shortest numberLayout.tie k) = .ofNat m := by
  have hcount : Binary64.digitCount m ≤ 16 :=
    (Binary64.digitCount_le_iff (by decide)).mpr (Nat.lt_of_le_of_lt hm (by decide))
  exact numberLayout.numeral_whole none hpos (Decimal.shortest_whole hk hpos hm hunits) (by decide)
    (Int.le_trans (Int.ofNat_le.mpr hcount) (by decide))

variable {n : Int} {x : FiniteBinary64}

/-- Up to `2^53` a whole binary64 number has the string form of the integer; a zero has no sign. -/
theorem numberString_whole (hn : n.natAbs ≤ 2 ^ 53) (hx : x.units = n * unitsPerOne)
    (hrange : -0x8000000000000000 ≤ n ∧ n < 0x10000000000000000) :
    numberString (.binary x) = numberString (.integer n hrange) := by
  have hunits := natAbs_of_units hx
  have hform : isSigned (.binary x) = isSigned (.integer n hrange) ∧
      looseNumeral (.binary x) = looseNumeral (.integer n hrange) := by
    rw [isSigned, isSigned, looseNumeral, looseNumeral]
    cases hzero : x.isZero with
    | true =>
      have hnone : n.natAbs * unitsPerOne = 0 := by
        rw [← hunits, beq_iff_eq.mp hzero]
        rfl
      have hzero : n.natAbs = 0 :=
        (Nat.mul_eq_zero.mp hnone).resolve_right (Nat.ne_of_gt unitsPerOne_pos)
      obtain rfl := Int.natAbs_eq_zero.mp hzero
      exact ⟨Bool.and_false _, rfl⟩
    | false =>
      have hne : x.magnitude ≠ 0 := by simpa [FiniteBinary64.isZero] using hzero
      have hpos := unitsOfMagnitude_pos (Nat.pos_of_ne_zero hne)
      rw [Bool.not_false, Bool.and_true, if_neg Bool.false_ne_true]
      refine ⟨negative_of_units hpos hx, numeral_of_units x.isFinite ?_ hn hunits⟩
      rw [hunits] at hpos
      exact Nat.pos_of_mul_pos_right hpos
  rw [← String.toList_inj, toList_numberString, toList_numberString, hform.1, hform.2]

/-- Up to `2^53` an integer is a binary64 number. -/
theorem exists_whole (hn : n.natAbs ≤ 2 ^ 53) :
    ∃ x, Binary64.ofInt n = .finite x ∧ x.units = n * unitsPerOne := by
  have hfinite : naturalPlace n.natAbs < topMagnitude :=
    Nat.lt_of_le_of_lt (naturalPlace_mono (Nat.le_trans hn (by decide))) Binary64.nearestMagnitude_size
  refine ⟨⟨decide (n < 0), naturalPlace n.natAbs, hfinite⟩, dif_pos hfinite, ?_⟩
  rw [FiniteBinary64.units, units_naturalPlace hn, Int.natCast_mul]
  by_cases hnegative : n < 0
  · rw [if_pos (decide_eq_true hnegative), ← Int.neg_mul, Int.ofNat_natAbs_of_nonpos (Int.le_of_lt hnegative),
      Int.neg_neg]
  · rw [if_neg (by simpa using hnegative), Int.natAbs_of_nonneg (Int.not_lt.mp hnegative)]

/-- The values that an integer may be given as: an exact number, a binary64 number of its value, which
for zero may have either sign, and its decimal text. -/
inductive StandsFor (n : Int) : Json → Prop
  | integer (hrange : -0x8000000000000000 ≤ n ∧ n < 0x10000000000000000) :
      StandsFor n (.number (.integer n hrange))
  | binary {x : FiniteBinary64} (hx : x.units = n * unitsPerOne) : StandsFor n (.number (.binary x))
  | text : StandsFor n (.string (toString n))

private theorem StandsFor.stringForm_eq {v : Json} (h : StandsFor n v) (hn : n.natAbs ≤ 2 ^ 53) :
    stringForm v = toString n := by
  cases h with
  | integer hrange => rfl
  | binary hx => exact numberString_whole hn hx (by omega)
  | text => rfl

/-- Exact numbers are equal if they are the same integer, and equal to a text if it is the decimal text
of theirs. Up to `2^53` on either side of zero all that stands for one integer is equal. -/
theorem integers_equal :
    (∀ m n hm hn,
      equal (some (.number (.integer m hm))) (some (.number (.integer n hn))) = true ↔ m = n) ∧
    (∀ n hn s,
      (equal (some (.number (.integer n hn))) (some (.string s)) = true ↔ s = toString n) ∧
      (equal (some (.string s)) (some (.number (.integer n hn))) = true ↔ s = toString n)) ∧
    ∀ n : Int, n.natAbs ≤ 2 ^ 53 →
      (∃ x, Binary64.ofInt n = .finite x ∧ StandsFor n (.number (.binary x))) ∧
      ∀ v w, StandsFor n v → StandsFor n w → equal (some v) (some w) = true := by
  refine ⟨?_, ?_, ?_⟩
  · intro m n hm hn
    exact equal_iff.trans ⟨toString_cancel hm hn, fun h => h ▸ rfl⟩
  · intro n hn s
    exact ⟨equal_iff.trans eq_comm, equal_iff⟩
  · intro n hn
    obtain ⟨x, hfinite, hx⟩ := exists_whole hn
    refine ⟨⟨x, hfinite, .binary hx⟩, ?_⟩
    intro v w hv hw
    exact equal_iff.mpr ((hv.stringForm_eq hn).trans (hw.stringForm_eq hn).symm)

private def topWhole : FiniteBinary64 := ⟨false, 0x4340000000000000, by decide⟩

private theorem topWhole_units : topWhole.units = 2 ^ 53 * unitsPerOne := by
  decide +kernel

private def minusZero : FiniteBinary64 := ⟨true, 0, by decide⟩

private theorem minusZero_units : minusZero.units = 0 * unitsPerOne := by
  rw [Int.zero_mul]
  rfl

/-- The last of them, which is a power of two, and a zero with a sign. -/
theorem integers_equal_ends :
    ((2 ^ 53 : Int).natAbs ≤ 2 ^ 53 ∧ (0 : Int).natAbs ≤ 2 ^ 53) ∧
    (StandsFor (2 ^ 53) (.number (.binary topWhole)) ∧
      equal (some (.number (.binary topWhole))) (some (.string "9007199254740992")) = true) ∧
    StandsFor 0 (.number (.binary minusZero)) ∧
      equal (some (.number (.binary minusZero))) (some (.number (.integer 0 (by decide)))) = true :=
  ⟨⟨by decide, by decide⟩,
    ⟨.binary topWhole_units,
      (integers_equal.2.2 (2 ^ 53) (by decide)).2 _ _ (.binary topWhole_units) .text⟩,
    .binary minusZero_units,
    (integers_equal.2.2 0 (by decide)).2 _ _ (.binary minusZero_units) (.integer (by decide))⟩

end CartCriteria.Loose
