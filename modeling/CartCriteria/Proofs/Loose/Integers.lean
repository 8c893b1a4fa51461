import CartCriteria.Proofs.Binary64.Nearest
import CartCriteria.Proofs.Loose.Order

/-! The loose order of integers. They are compared by the binary64 numbers nearest to them, so no
order is inverted, but large neighbours may be equal in it. Equality of string forms is exact, and
nothing is said about it here. -/
namespace CartCriteria

namespace Binary64

/-- Numbers are ranked by their magnitude, with the sign; infinity comes last. -/
theorem rank?_ofMagnitude (negative : Bool) {k : Nat} (hk : k ≤ topMagnitude) :
    (ofMagnitude negative k).rank? = some (if negative then -(k : Int) else k) := by
  rw [ofMagnitude]
  split
  · rfl
  · obtain rfl : k = topMagnitude := by omega
    rfl

def integerRank (n : Int) : Int :=
  if n < 0 then -(naturalPlace n.natAbs : Int) else naturalPlace n.natAbs

private theorem rank?_ofInt (n : Int) : (ofInt n).rank? = some (integerRank n) := by
  rw [ofInt_eq, rank?_ofMagnitude _ (naturalPlace_le _), integerRank]
  simp only [decide_eq_true_eq]

/-- Rounding inverts no order, on either side of zero and across it. -/
theorem integerRank_mono {a b : Int} (h : a ≤ b) : integerRank a ≤ integerRank b := by
  rw [integerRank, integerRank]
  split <;> split
  · have := naturalPlace_mono (m := b.natAbs) (n := a.natAbs) (by omega)
    omega
  · omega
  · omega
  · have := naturalPlace_mono (m := a.natAbs) (n := b.natAbs) (by omega)
    omega

/-- Up to `2^53` on either side of zero rounding keeps integers apart. -/
theorem integerRank_lt {a b : Int} (h : a < b) (ha : a.natAbs ≤ 2 ^ 53) (hb : b.natAbs ≤ 2 ^ 53) :
    integerRank a < integerRank b := by
  rw [integerRank, integerRank]
  split <;> split
  · have := naturalPlace_lt (m := b.natAbs) (n := a.natAbs) (by omega) ha
    omega
  · have := naturalPlace_lt (m := 0) (n := a.natAbs) (by omega) ha
    omega
  · omega
  · have := naturalPlace_lt (m := a.natAbs) (n := b.natAbs) (by omega) hb
    omega

private theorem compare_integerRank {a b : Int} (ha : a.natAbs ≤ 2 ^ 53) (hb : b.natAbs ≤ 2 ^ 53) :
    compare (integerRank a) (integerRank b) = compare a b := by
  rcases Int.lt_trichotomy a b with h | rfl | h
  · rw [compare_lt_iff_lt.mpr h, compare_lt_iff_lt.mpr (integerRank_lt h ha hb)]
  · rw [compare_eq_iff_eq.mpr rfl, compare_eq_iff_eq.mpr rfl]
  · rw [compare_gt_iff_gt.mpr h, compare_gt_iff_gt.mpr (integerRank_lt h hb ha)]

end Binary64

namespace Comparison

/-- The relation of integers that a comparison stands for. -/
def OnIntegers : Comparison → Int → Int → Prop
  | gt, i, j => j < i
  | lt, i, j => i < j
  | gte, i, j => j ≤ i
  | lte, i, j => i ≤ j

private theorem holds_compare (op : Comparison) (i j : Int) :
    op.holds (some (compare i j)) = true ↔ op.OnIntegers i j := by
  rcases Int.lt_trichotomy i j with h | rfl | h
  · rw [compare_lt_iff_lt.mpr h]
    cases op <;> simp [holds, OnIntegers, h, Int.le_of_lt h]
  · rw [compare_eq_iff_eq.mpr rfl]
    cases op <;> simp [holds, OnIntegers]
  · rw [compare_gt_iff_gt.mpr h]
    cases op <;> simp [holds, OnIntegers, h, Int.le_of_lt h]

end Comparison

namespace Loose

open Binary64 (integerRank integerRank_mono)

variable {a b : Int} (ha : -0x8000000000000000 ≤ a ∧ a < 0x10000000000000000)
  (hb : -0x8000000000000000 ≤ b ∧ b < 0x10000000000000000)

private theorem compare?_integer :
    compare? (some (.number (.integer a ha))) (some (.number (.integer b hb))) =
      some (compare (integerRank a) (integerRank b)) := by
  rw [compare?_of_not_isTextual (by simp [isTextual])]
  exact Binary64.compare?_of_rank? (Binary64.rank?_ofInt a) (Binary64.rank?_ofInt b)

/-- Integers are compared by the binary64 numbers nearest to them, ties to even. So `gt` and `lt`
hold only of integers in that order, `gte` and `lte` of all that are, and the order is exact up to
`2^53` on either side of zero. -/
theorem integers_ordered :
    (∃ k, numberOf (some (.number (.integer a ha))) = .ofMagnitude (decide (a < 0)) k ∧
      IsNearest (a.natAbs * unitsPerOne) 1 k) ∧
    ((Condition.compare .gt (.number (.integer b hb))).holdsOf (some (.number (.integer a ha))) =
      true → b < a) ∧
    (b < a →
      (Condition.compare .gte (.number (.integer b hb))).holdsOf (some (.number (.integer a ha))) =
        true) ∧
    ((Condition.compare .lt (.number (.integer b hb))).holdsOf (some (.number (.integer a ha))) =
      true → a < b) ∧
    (a < b →
      (Condition.compare .lte (.number (.integer b hb))).holdsOf (some (.number (.integer a ha))) =
        true) ∧
    (a.natAbs ≤ 2 ^ 53 → b.natAbs ≤ 2 ^ 53 →
      compare? (some (.number (.integer a ha))) (some (.number (.integer b hb))) =
        some (compare a b)) := by
  refine ⟨⟨_, rfl, isNearest_nearestMagnitude _ Nat.one_pos⟩, ?_⟩
  simp only [Condition.holdsOf_compare, Comparison.relates, compare?_integer,
    Comparison.holds_compare, Comparison.OnIntegers]
  refine ⟨?_, fun h => integerRank_mono (Int.le_of_lt h), ?_,
    fun h => integerRank_mono (Int.le_of_lt h), ?_⟩
  · contrapose!
    exact integerRank_mono
  · contrapose!
    exact integerRank_mono
  · intro hexact hexact'
    rw [Binary64.compare_integerRank hexact hexact']

/-- The integers next to each other past `2^53` are one number, and `gte` holds of them both ways. -/
theorem integers_ordered_neighbours :
    (Condition.compare .gte (.number (.integer 9007199254740992 (by decide)))).holdsOf
      (some (.number (.integer 9007199254740993 (by decide)))) = true ∧
    (Condition.compare .gte (.number (.integer 9007199254740993 (by decide)))).holdsOf
      (some (.number (.integer 9007199254740992 (by decide)))) = true ∧
    (Condition.compare .lt (.number (.integer 9007199254740991 (by decide)))).holdsOf
      (some (.number (.integer (-9007199254740992) (by decide)))) = true ∧
    (-9007199254740992 : Int) < 9007199254740991 ∧
    compare? (some (.number (.integer (-9007199254740992) (by decide))))
      (some (.number (.integer 9007199254740991 (by decide)))) = some .lt := by
  obtain ⟨-, -, hgte, -⟩ := integers_ordered (a := 9007199254740993) (b := 9007199254740992)
    (by decide) (by decide)
  obtain ⟨-, -, -, hlt, -, hexact⟩ := integers_ordered (a := -9007199254740992)
    (b := 9007199254740991) (by decide) (by decide)
  have hbelow : (Condition.compare .lt (.number (.integer 9007199254740991 (by decide)))).holdsOf
      (some (.number (.integer (-9007199254740992) (by decide)))) = true := by
    decide +kernel
  exact ⟨hgte (by decide), by decide +kernel, hbelow, hlt hbelow, hexact (by decide) (by decide)⟩

end Loose
end CartCriteria
