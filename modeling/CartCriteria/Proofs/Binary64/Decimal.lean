import CartCriteria.Binary64.Shortest
import CartCriteria.Proofs.Binary64.Nearest
import CartCriteria.Proofs.Numeral.Spelling

/-! Decimals and the magnitudes nearest to them. A decimal and its value with zeros at the end are
nearest to the same magnitude; the exact value of a magnitude, and the shortest decimal chosen for
it, are nearest to that magnitude again. -/
namespace CartCriteria

namespace Binary64

/-- A number has so many digits if it is below that power of ten. -/
theorem digitCount_le_iff {n k : Nat} (hk : 0 < k) : digitCount n ≤ k ↔ n < 10 ^ k :=
  Nat.length_toDigits_le_iff (by decide) hk

/-- Zeros at the end count as digits. -/
theorem digitCount_mul_pow {n : Nat} (hn : 0 < n) (j : Nat) :
    digitCount (n * 10 ^ j) = digitCount n + j := by
  rw [digitCount, Numeral.toDigits_mul_pow hn, List.length_append, List.length_replicate]
  rfl

private theorem tenPower_pos (n : Nat) : 0 < Nat.pow 10 n :=
  Nat.pow_pos (by decide)

-- The unit is a variable here and below: with the number in its place a step that compares
-- products would count it down.
private theorem shifted_quotient (digits j unit : Nat) (exponent : Int) :
    digits * 10 ^ j * Nat.pow 10 (exponent - j).toNat * unit * Nat.pow 10 (-exponent).toNat =
      digits * Nat.pow 10 exponent.toNat * unit * Nat.pow 10 (-(exponent - j)).toNat := by
  have hpow : 10 ^ j * 10 ^ (exponent - j).toNat * 10 ^ (-exponent).toNat =
      10 ^ exponent.toNat * 10 ^ (-(exponent - j)).toNat := by
    rw [← Nat.pow_add, ← Nat.pow_add, ← Nat.pow_add]
    congr 1
    omega
  simp only [Nat.pow_eq]
  calc digits * 10 ^ j * 10 ^ (exponent - j).toNat * unit * 10 ^ (-exponent).toNat
    _ = digits * unit * (10 ^ j * 10 ^ (exponent - j).toNat * 10 ^ (-exponent).toNat) := by ring
    _ = digits * unit * (10 ^ exponent.toNat * 10 ^ (-(exponent - j)).toNat) := by rw [hpow]
    _ = digits * 10 ^ exponent.toNat * unit * 10 ^ (-(exponent - j)).toNat := by ring

/-- Without digits there is nothing to round, whatever the exponent. -/
theorem magnitudeOfDecimal_zero (exponent : Int) : magnitudeOfDecimal 0 exponent = 0 := by
  rw [magnitudeOfDecimal, if_pos (.inl rfl)]

/-- Zeros at the end that the exponent makes up for change nothing. -/
theorem magnitudeOfDecimal_shift (digits j : Nat) (exponent : Int) :
    magnitudeOfDecimal (digits * 10 ^ j) (exponent - j) = magnitudeOfDecimal digits exponent := by
  rcases Nat.eq_zero_or_pos digits with rfl | hpos
  · rw [Nat.zero_mul, magnitudeOfDecimal_zero, magnitudeOfDecimal_zero]
  have hne : digits * 10 ^ j ≠ 0 := Nat.ne_of_gt (Nat.mul_pos hpos (Nat.pow_pos (by decide)))
  have hleading : ((digitCount digits + j : Nat) : Int) + (exponent - j) =
      digitCount digits + exponent := by omega
  have hround := nearestMagnitude_congr (tenPower_pos _) (tenPower_pos _)
    (shifted_quotient digits j unitsPerOne exponent)
  simp only [magnitudeOfDecimal, hne, Nat.ne_of_gt hpos, digitCount_mul_pow hpos, hleading, hround]

/-- No integer that has a type of its own overflows. -/
theorem nearestMagnitude_size : nearestMagnitude (UInt64.size * unitsPerOne) 1 < topMagnitude := by
  decide +kernel

private theorem top_le_tenPower : 2 ^ 1024 ≤ 10 ^ 309 := by
  decide +kernel

/-- The digits of a natural number are rounded as the number is. -/
theorem magnitudeOfDecimal_natural (n : Nat) : magnitudeOfDecimal n 0 = naturalPlace n := by
  have hcount : 0 < digitCount n := List.length_pos_iff.mpr Nat.toDigits_ne_nil
  rcases Nat.eq_zero_or_pos n with rfl | hpos
  · rw [magnitudeOfDecimal_zero, naturalPlace_zero]
  rw [magnitudeOfDecimal, if_neg (by omega)]
  split
  · have hlarge : 10 ^ 309 ≤ n := by
      rw [← Nat.not_lt, ← digitCount_le_iff (by decide)]
      omega
    exact (naturalPlace_of_large (Nat.le_trans top_le_tenPower hlarge)).symm
  · have hone : Nat.pow 10 0 = 1 := rfl
    rw [naturalPlace, Int.neg_zero, Int.toNat_zero, hone, Nat.mul_one]

/-- The natural numbers of 64 bits are far from infinity. -/
theorem magnitudeOfDecimal_natural_lt_top {n : Nat} (h : n < UInt64.size) :
    magnitudeOfDecimal n 0 < topMagnitude := by
  rw [magnitudeOfDecimal_natural]
  exact Nat.lt_of_le_of_lt (naturalPlace_mono (Nat.le_of_lt h)) nearestMagnitude_size

private theorem magnitudeOfDecimal_one {exponent : Nat} (h : exponent < 309) :
    magnitudeOfDecimal 1 exponent = nearestMagnitude (1 * Nat.pow 10 exponent * unitsPerOne) 1 := by
  have hcount : digitCount 1 = 1 := by decide
  have hnone : (-(exponent : Int)).toNat = 0 := by omega
  rw [magnitudeOfDecimal, hcount, if_neg (by omega), if_neg (by omega), hnone, Int.toNat_natCast]

private theorem tenPower_mul_le {a b : Nat} (h : a ≤ b) (unit : Nat) :
    1 * Nat.pow 10 a * unit * 1 ≤ 1 * Nat.pow 10 b * unit * 1 := by
  simp only [Nat.one_mul, Nat.mul_one]
  exact Nat.mul_le_mul_right unit (Nat.pow_le_pow_right (by decide) h)

/-- The magnitudes of powers of ten ascend. -/
theorem magnitudeOfDecimal_tenPower_mono {a b : Nat} (h : a ≤ b) (hb : b < 309) :
    magnitudeOfDecimal 1 a ≤ magnitudeOfDecimal 1 b := by
  rw [magnitudeOfDecimal_one hb, magnitudeOfDecimal_one (Nat.lt_of_le_of_lt h hb)]
  exact nearestMagnitude_mono Nat.one_pos Nat.one_pos (tenPower_mul_le h _)

private theorem mul_unit_lt {digits unit count places : Nat} (hunit : unit ≤ 10 ^ count)
    (hdigits : digits < 10 ^ places) : digits * unit < 10 ^ (places + count) := by
  rw [Nat.pow_add]
  exact Nat.lt_of_le_of_lt (Nat.mul_le_mul_left digits hunit)
    (Nat.mul_lt_mul_of_pos_right hdigits (Nat.pow_pos (by decide)))

private theorem unitsPerOne_le : unitsPerOne ≤ 10 ^ 324 := by decide +kernel

private theorem tiny_lt {digits : Nat} {exponent : Int}
    (hsmall : digitCount digits + exponent < -323) :
    digits * Nat.pow 10 exponent.toNat * unitsPerOne < Nat.pow 10 (-exponent).toNat := by
  have hcount : 0 < digitCount digits := List.length_pos_iff.mpr Nat.toDigits_ne_nil
  have hzero : exponent.toNat = 0 := by omega
  have hone : Nat.pow 10 0 = 1 := rfl
  have hdigits : digits < 10 ^ digitCount digits := (digitCount_le_iff hcount).mp (Nat.le_refl _)
  rw [hzero, hone, Nat.mul_one]
  exact Nat.lt_of_lt_of_le (mul_unit_lt unitsPerOne_le hdigits)
    (Nat.pow_le_pow_right (by decide) (by omega))

/-- A decimal that is rounded to less than a magnitude is less than it. -/
theorem lt_units_of_magnitude_lt {digits : Nat} {exponent : Int} {k : Nat} (hk : k ≤ topMagnitude)
    (h : magnitudeOfDecimal digits exponent < k) :
    digits * Nat.pow 10 exponent.toNat * unitsPerOne <
      unitsOfMagnitude k * Nat.pow 10 (-exponent).toNat := by
  have hunits : 0 < unitsOfMagnitude k := unitsOfMagnitude_pos (Nat.zero_lt_of_lt h)
  rw [magnitudeOfDecimal] at h
  by_cases hne : digits = 0
  · rw [hne, Nat.zero_mul, Nat.zero_mul]
    exact Nat.mul_pos hunits (tenPower_pos _)
  by_cases hsmall : (digitCount digits : Int) + exponent < -323
  · exact Nat.lt_of_lt_of_le (tiny_lt hsmall) (Nat.le_mul_of_pos_left _ hunits)
  rw [if_neg (by simp [hne, hsmall])] at h
  split at h
  · exact absurd h (Nat.not_lt.mpr hk)
  · by_contra hge
    have hmono := nearestMagnitude_mono (tenPower_pos _) (tenPower_pos _)
      (Nat.mul_le_mul_right (Nat.pow 10 (-exponent).toNat) (Nat.not_lt.mp hge))
    rw [nearestMagnitude_units hk (tenPower_pos _)] at hmono
    exact absurd h (Nat.not_lt.mpr hmono)

end Binary64

/-- The magnitudes below the end of a binade are below the power of two there, in units. -/
theorem unitsOfMagnitude_lt {k n : Nat} (hk : k < (n + 1) * binadeSize) :
    unitsOfMagnitude k < 2 ^ (n + 52) := by
  rw [Nat.succ_mul, Nat.add_comm] at hk
  calc unitsOfMagnitude k
    _ < unitsOfMagnitude (binadeSize + n * binadeSize) := unitsOfMagnitude_strictMono hk
    _ = 2 ^ 52 * 2 ^ n := unitsOfMagnitude_place (by decide) (.inr (Nat.le_refl _))
    _ = 2 ^ (n + 52) := by rw [Nat.add_comm, Nat.pow_add]

namespace Decimal

private theorem nearestMagnitude_exact {k : Nat} (hk : k < topMagnitude) (n : Nat) :
    nearestMagnitude (unitsOfMagnitude k * Nat.pow 5 n * Nat.pow 10 0 * 1 <<< n) (Nat.pow 10 n) =
      k := by
  have hten : Nat.pow 5 n * 2 ^ n = 10 ^ n := (Nat.mul_pow 5 2 n).symm
  have hzero : Nat.pow 10 0 = 1 := rfl
  rw [hzero, Nat.mul_one, Nat.one_shiftLeft, Nat.mul_assoc, hten]
  exact nearestMagnitude_units (Nat.le_of_lt hk) (Nat.pow_pos (by decide))

private theorem digitCount_exact_le {k : Nat} (hk : k < topMagnitude) :
    Binary64.digitCount (unitsOfMagnitude k * Nat.pow 5 1074) ≤ 1074 + 309 := by
  rw [Binary64.digitCount_le_iff (by decide)]
  have hpow : 2 ^ (2046 + 52) * Nat.pow 5 1074 < 10 ^ (1074 + 309) := by decide +kernel
  exact Nat.lt_of_le_of_lt (Nat.mul_le_mul_right _ (Nat.le_of_lt (unitsOfMagnitude_lt hk))) hpow

private theorem le_digitCount_exact {k : Nat} (hk : unitsOfMagnitude k ≠ 0) :
    1074 ≤ Binary64.digitCount (unitsOfMagnitude k * Nat.pow 5 1074) + 323 := by
  by_contra hlt
  have hle : Binary64.digitCount (unitsOfMagnitude k * Nat.pow 5 1074) ≤ 750 := by omega
  rw [Binary64.digitCount_le_iff (by decide)] at hle
  have hpow : 10 ^ 750 ≤ Nat.pow 5 1074 := by decide +kernel
  have hmul := Nat.mul_le_mul_right (Nat.pow 5 1074) (Nat.pos_of_ne_zero hk)
  omega

-- The number of places is a variable, for the powers are too large to be looked at.
private theorem magnitude_of_places {k n : Nat} (hk : k < topMagnitude) (hn : unitsPerOne = 1 <<< n)
    (hlow : unitsOfMagnitude k ≠ 0 →
      n ≤ Binary64.digitCount (unitsOfMagnitude k * Nat.pow 5 n) + 323)
    (hhigh : Binary64.digitCount (unitsOfMagnitude k * Nat.pow 5 n) ≤ n + 309) :
    Binary64.magnitudeOfDecimal (unitsOfMagnitude k * Nat.pow 5 n) (-n) = k := by
  by_cases hzero : unitsOfMagnitude k = 0
  · have hunits := nearestMagnitude_units (Nat.le_of_lt hk) Nat.one_pos
    rw [hzero] at hunits ⊢
    rw [Nat.zero_mul, Binary64.magnitudeOfDecimal_zero, ← hunits]
    decide
  · have hlow := hlow hzero
    have hdigits : unitsOfMagnitude k * Nat.pow 5 n ≠ 0 :=
      Nat.mul_ne_zero hzero (Nat.ne_of_gt (Nat.pow_pos (by decide)))
    have hnone : (-(n : Int)).toNat = 0 := by omega
    have hall : (- -(n : Int)).toNat = n := by omega
    rw [Binary64.magnitudeOfDecimal, if_neg (by omega), if_neg (by omega), hnone, hall, hn]
    exact nearestMagnitude_exact hk n

/-- The exact value of a finite magnitude reads back. -/
theorem magnitude_exact {k : Nat} (hk : k < topMagnitude) :
    Binary64.magnitudeOfDecimal (ofMagnitude k).digits (ofMagnitude k).exponent = k :=
  magnitude_of_places (n := 1074) hk unitsPerOne.eq_1 le_digitCount_exact (digitCount_exact_le hk)

/-- The neighbour of the exact value from below on the grid that drops so many digits, or the exact
value itself if it is on the grid. -/
def below (k drop : Nat) : Decimal :=
  ⟨(ofMagnitude k).digits / Nat.pow 10 drop, (ofMagnitude k).exponent + drop⟩

def above (k drop : Nat) : Decimal :=
  ⟨(ofMagnitude k).digits / Nat.pow 10 drop + 1, (ofMagnitude k).exponent + drop⟩

private def nearer? (lowIsNearer : Bool) (k : Nat) (low high : Decimal) : Option Decimal :=
  match low.readsBackAs k, high.readsBackAs k with
  | true, true => some (if lowIsNearer then low else high)
  | true, false => some low
  | false, true => some high
  | false, false => none

private theorem lowIsNearer_of_exact {rest step : Nat} {tied : Bool} (hstep : 0 < step)
    (hrest : rest = 0) : (decide (2 * rest < step) || tied) = true := by
  rw [hrest, Nat.mul_zero, decide_eq_true hstep, Bool.true_or]

private theorem onGrid?_eq (tie : TieRule) (k drop : Nat) :
    ∃ lowIsNearer low high, onGrid? tie k drop = nearer? lowIsNearer k low high ∧
      low = below k drop ∧ high = above k drop ∧
      ((ofMagnitude k).digits % Nat.pow 10 drop = 0 → lowIsNearer = true) :=
  -- By unification: rewriting with the definition would have the digits of the exact value computed.
  ⟨_, _, _, Eq.refl _, rfl, rfl, lowIsNearer_of_exact (Binary64.tenPower_pos _)⟩

/-- What is found on a grid reads back and is one of the neighbours there: that from below, if it is
the exact value and reads back. -/
theorem neighbour_of_onGrid? {tie : TieRule} {k drop : Nat} {d : Decimal}
    (h : onGrid? tie k drop = some d) :
    d.readsBackAs k = true ∧ (d = below k drop ∨ d = above k drop ∧
      ((below k drop).readsBackAs k = true → (ofMagnitude k).digits % Nat.pow 10 drop ≠ 0)) := by
  obtain ⟨lowIsNearer, low, high, he, rfl, rfl, hexact⟩ := onGrid?_eq tie k drop
  rw [he, nearer?] at h
  split at h
  · cases lowIsNearer with
    | true =>
      cases h
      exact ⟨‹_›, .inl rfl⟩
    | false =>
      cases h
      exact ⟨‹_›, .inr ⟨rfl, fun _ hrest => Bool.noConfusion (hexact hrest)⟩⟩
  · cases h
    exact ⟨‹_›, .inl rfl⟩
  · rename_i hlow hhigh
    cases h
    refine ⟨hhigh, .inr ⟨rfl, fun hreads => ?_⟩⟩
    rw [hreads] at hlow
    cases hlow
  · cases h

private theorem dropZeros_magnitude (fuel : Nat) (d : Decimal) :
    Binary64.magnitudeOfDecimal (dropZeros fuel d).digits (dropZeros fuel d).exponent =
      Binary64.magnitudeOfDecimal d.digits d.exponent := by
  induction fuel generalizing d with
  | zero => rfl
  | succ fuel ih =>
    rw [dropZeros]
    split
    · rename_i hzero
      have hdigits : d.digits / 10 * 10 ^ 1 = d.digits := by omega
      have hshift := Binary64.magnitudeOfDecimal_shift (d.digits / 10) 1 (d.exponent + 1)
      rw [hdigits, Nat.cast_one, Int.add_sub_cancel] at hshift
      rw [ih, hshift]
    · rfl

/-- The shortest decimal of a finite magnitude reads back, whichever way ties go. -/
theorem magnitude_shortest (tie : TieRule) {k : Nat} (hk : k < topMagnitude) :
    Binary64.magnitudeOfDecimal (shortest tie k).digits (shortest tie k).exponent = k := by
  rw [shortest, dropZeros_magnitude]
  cases hfound : (List.range 17).findSome? fun i =>
      onGrid? tie k (Binary64.digitCount (ofMagnitude k).digits - (i + 1)) with
  | none => exact magnitude_exact hk
  | some d =>
    obtain ⟨i, -, hi⟩ := List.exists_of_findSome?_eq_some hfound
    exact beq_iff_eq.mp (neighbour_of_onGrid? hi).1

/-- The shortest decimal of a magnitude other than zero is not zero. -/
theorem shortest_digits_pos (tie : TieRule) {k : Nat} (hk : k < topMagnitude) (hne : k ≠ 0) :
    0 < (shortest tie k).digits := by
  apply Nat.pos_of_ne_zero
  intro hzero
  have hback := magnitude_shortest tie hk
  rw [hzero, Binary64.magnitudeOfDecimal_zero] at hback
  exact hne hback.symm

end Decimal
end CartCriteria
