import CartCriteria.Proofs.Binary64.Rounding
import Mathlib.Data.Nat.Dist

/-! What rounding chooses, said by distances, and the natural numbers that it keeps apart. Up to
`2^53` each has a magnitude of its own; past it the zeros that follow a number in binary do not
change how it is rounded, but another digit behind it decides a tie. -/
namespace CartCriteria

/-- No magnitude is nearer to the quotient, and if another is as near the place is even. -/
structure IsNearest (num den k : Nat) : Prop where
  place_le : k ≤ topMagnitude
  closest : ∀ j ≤ topMagnitude,
    Nat.dist num (unitsOfMagnitude k * den) ≤ Nat.dist num (unitsOfMagnitude j * den)
  even_of_tie : ∀ j ≤ topMagnitude, j ≠ k →
    Nat.dist num (unitsOfMagnitude j * den) = Nat.dist num (unitsOfMagnitude k * den) → k % 2 = 0

variable {num den : Nat}

/-- A finite quotient lies between two neighbouring magnitudes. -/
theorem exists_neighbours (h : num < unitsOfMagnitude topMagnitude * den) :
    ∃ j < topMagnitude, unitsOfMagnitude j * den ≤ num ∧ num < unitsOfMagnitude (j + 1) * den := by
  have hex : ∃ k, num < unitsOfMagnitude k * den := ⟨topMagnitude, h⟩
  obtain ⟨j, hj⟩ : ∃ j, Nat.find hex = j + 1 := by
    apply Nat.exists_eq_succ_of_ne_zero
    intro hzero
    have hbelow := Nat.find_spec hex
    rw [hzero, unitsOfMagnitude, if_pos (by decide), Nat.zero_mul] at hbelow
    exact Nat.not_lt_zero num hbelow
  have hleast : j < Nat.find hex := by omega
  refine ⟨j, ?_, Nat.not_lt.mp (Nat.find_min hex hleast), hj ▸ Nat.find_spec hex⟩
  exact Nat.lt_of_lt_of_le hleast (Nat.find_min' hex h)

/-- What is not less than infinity in units is rounded to it. -/
theorem nearestMagnitude_of_top_le (hd : 0 < den) (h : unitsOfMagnitude topMagnitude * den ≤ num) :
    nearestMagnitude num den = topMagnitude := by
  have hmono := nearestMagnitude_mono hd hd (Nat.mul_le_mul_right den h)
  rw [nearestMagnitude_units (Nat.le_refl _) hd] at hmono
  exact Nat.le_antisymm (nearestMagnitude_le num den) hmono

private theorem isNearest_of_neighbours {j k : Nat} (hd : 0 < den) (hk : k ≤ topMagnitude)
    (hlow : unitsOfMagnitude j * den ≤ num) (hhigh : num < unitsOfMagnitude (j + 1) * den)
    (hpair : k = j ∨ k = j + 1)
    (hclosest : Nat.dist num (unitsOfMagnitude k * den) ≤ Nat.dist num (unitsOfMagnitude j * den) ∧
      Nat.dist num (unitsOfMagnitude k * den) ≤ Nat.dist num (unitsOfMagnitude (j + 1) * den))
    (htie : Nat.dist num (unitsOfMagnitude j * den) =
      Nat.dist num (unitsOfMagnitude (j + 1) * den) → k % 2 = 0) : IsNearest num den k := by
  -- All others lie behind one of the two neighbours.
  have hbehind {i : Nat} (hj : i ≠ j) (hj' : i ≠ j + 1) :
      Nat.dist num (unitsOfMagnitude k * den) < Nat.dist num (unitsOfMagnitude i * den) := by
    have hsides : unitsOfMagnitude i * den < unitsOfMagnitude j * den ∨
        unitsOfMagnitude (j + 1) * den < unitsOfMagnitude i * den := by
      rcases Nat.lt_or_ge i j with hi | hi
      · exact .inl (Nat.mul_lt_mul_of_pos_right (unitsOfMagnitude_strictMono hi) hd)
      · exact .inr (Nat.mul_lt_mul_of_pos_right (unitsOfMagnitude_strictMono (by omega)) hd)
    simp only [Nat.dist] at hclosest ⊢
    omega
  constructor
  case place_le => exact hk
  case closest =>
    intro i _
    by_cases hj : i = j
    · exact hj ▸ hclosest.1
    by_cases hj' : i = j + 1
    · exact hj' ▸ hclosest.2
    exact Nat.le_of_lt (hbehind hj hj')
  case even_of_tie =>
    intro i _ hne heq
    by_cases hother : i ≠ j ∧ i ≠ j + 1
    · exact absurd heq (Nat.ne_of_gt (hbehind hother.1 hother.2))
    · apply htie
      obtain ⟨rfl, rfl⟩ | ⟨rfl, rfl⟩ : i = j ∧ k = j + 1 ∨ i = j + 1 ∧ k = j := by omega
      · exact heq
      · exact heq.symm

/-- Rounding is to nearest, with ties to even. -/
theorem isNearest_nearestMagnitude (num : Nat) {den : Nat} (hd : 0 < den) :
    IsNearest num den (nearestMagnitude num den) := by
  rcases Nat.lt_or_ge num (unitsOfMagnitude topMagnitude * den) with hfinite | hinfinite
  · obtain ⟨j, hj, hlow, hhigh⟩ := exists_neighbours hfinite
    rw [nearestMagnitude_between hd hj hlow (Nat.le_of_lt hhigh), Nat.add_mul]
    split
    · rename_i hdown
      apply isNearest_of_neighbours hd (Nat.le_of_lt hj) hlow hhigh (.inl rfl)
      all_goals
        simp only [Nat.dist]
        omega
    · rename_i hup
      apply isNearest_of_neighbours (k := j + 1) hd hj hlow hhigh (.inr rfl)
      all_goals
        simp only [Nat.dist]
        omega
  · rw [nearestMagnitude_of_top_le hd hinfinite]
    refine ⟨Nat.le_refl _, ?_, fun _ _ _ _ => by decide⟩
    intro j hj
    have hmono := Nat.mul_le_mul_right den (unitsOfMagnitude_strictMono.monotone hj)
    simp only [Nat.dist]
    omega

def naturalPlace (n : Nat) : Nat :=
  nearestMagnitude (n * unitsPerOne) 1

/-- An integer is rounded by its absolute value, and keeps its sign. -/
theorem Binary64.ofInt_eq (n : Int) :
    ofInt n = ofMagnitude (decide (n < 0)) (naturalPlace n.natAbs) :=
  rfl

theorem naturalPlace_le (n : Nat) : naturalPlace n ≤ topMagnitude :=
  nearestMagnitude_le _ _

/-- Rounding keeps the order of natural numbers. -/
theorem naturalPlace_mono {m n : Nat} (h : m ≤ n) : naturalPlace m ≤ naturalPlace n :=
  nearestMagnitude_mono Nat.one_pos Nat.one_pos
    (Nat.mul_le_mul_right 1 (Nat.mul_le_mul_right unitsPerOne h))

theorem naturalPlace_zero : naturalPlace 0 = 0 :=
  nearestMagnitude_units (Nat.zero_le _) Nat.one_pos

/-- The exponent of the unit is a variable below, for its power is too large to be looked at. -/
theorem exists_unitsPerOne : ∃ p, 52 ≤ p ∧ p ≤ 2045 ∧ unitsPerOne = 1 <<< p :=
  ⟨1074, by decide, by decide, unitsPerOne.eq_1⟩

private theorem exists_significand {n p : Nat} (hpos : 0 < n) (hn : n ≤ 2 ^ 53) (hp : 52 ≤ p) :
    ∃ m s, binadeSize ≤ m ∧ m ≤ 2 * binadeSize ∧ s ≤ p ∧ n * 2 ^ p = m * 2 ^ s := by
  have hlow := Nat.log2_self_le (Nat.ne_of_gt hpos)
  have hhigh : n < 2 ^ (Nat.log2 n + 1) := Nat.lt_log2_self
  refine ⟨n * 2 ^ (52 - Nat.log2 n), p - (52 - Nat.log2 n), ?_, ?_, Nat.sub_le _ _, ?_⟩
  · calc 2 ^ 52
      _ ≤ 2 ^ (Nat.log2 n + (52 - Nat.log2 n)) := Nat.pow_le_pow_right (by decide) (by omega)
      _ = 2 ^ Nat.log2 n * 2 ^ (52 - Nat.log2 n) := Nat.pow_add _ _ _
      _ ≤ n * 2 ^ (52 - Nat.log2 n) := Nat.mul_le_mul_right _ hlow
  · rcases Nat.lt_or_ge 52 (Nat.log2 n) with hlog | hlog
    · rw [Nat.sub_eq_zero_of_le (Nat.le_of_lt hlog), Nat.pow_zero, Nat.mul_one]
      exact hn
    · calc n * 2 ^ (52 - Nat.log2 n)
        _ ≤ 2 ^ (Nat.log2 n + 1) * 2 ^ (52 - Nat.log2 n) :=
          Nat.mul_le_mul_right _ (Nat.le_of_lt hhigh)
        _ = 2 ^ 53 := by
          rw [← Nat.pow_add]
          congr 1
          omega
  · rw [Nat.mul_assoc, ← Nat.pow_add]
    congr 2
    omega

/-- Up to `2^53` a natural number is a magnitude. -/
theorem exists_units_eq {n : Nat} (h : n ≤ 2 ^ 53) :
    ∃ k ≤ topMagnitude, unitsOfMagnitude k = n * unitsPerOne := by
  obtain ⟨p, hlow, hhigh, hunit⟩ := exists_unitsPerOne
  rcases Nat.eq_zero_or_pos n with rfl | hpos
  · exact ⟨0, Nat.zero_le _, (Nat.zero_mul _).symm⟩
  · obtain ⟨m, s, hm, hm', hs, heq⟩ := exists_significand hpos h hlow
    refine ⟨m + s * binadeSize, ?_, ?_⟩
    · have hbinades := Nat.mul_le_mul_right binadeSize (Nat.le_trans hs hhigh)
      calc m + s * binadeSize
        _ ≤ 2 * binadeSize + 2045 * binadeSize := Nat.add_le_add hm' hbinades
        _ = topMagnitude := by decide
    · rw [unitsOfMagnitude_place hm' (.inr hm), hunit, Nat.one_shiftLeft, heq]

/-- Up to `2^53` rounding changes no natural number. -/
theorem units_naturalPlace {n : Nat} (h : n ≤ 2 ^ 53) :
    unitsOfMagnitude (naturalPlace n) = n * unitsPerOne := by
  obtain ⟨k, hk, hunits⟩ := exists_units_eq h
  have hround := nearestMagnitude_units hk Nat.one_pos
  rw [hunits, Nat.mul_one] at hround
  rw [naturalPlace, hround, hunits]

/-- Up to `2^53` rounding keeps natural numbers apart. -/
theorem naturalPlace_lt {m n : Nat} (h : m < n) (hn : n ≤ 2 ^ 53) :
    naturalPlace m < naturalPlace n := by
  rw [← unitsOfMagnitude_strictMono.lt_iff_lt, units_naturalPlace hn,
    units_naturalPlace (Nat.le_of_lt (Nat.lt_of_lt_of_le h hn))]
  exact Nat.mul_lt_mul_of_pos_right h unitsPerOne_pos

private theorem naturalPlace_above : naturalPlace (2 ^ 53) < naturalPlace (2 ^ 53 + 2) := by
  decide +kernel

/-- Past `2^53` rounding keeps the even numbers apart from what is up to there. -/
theorem naturalPlace_lt_of_even {m n : Nat} (h : m < n) (hm : m ≤ 2 ^ 53) (heven : n % 2 = 0) :
    naturalPlace m < naturalPlace n := by
  rcases Nat.lt_or_ge (2 ^ 53) n with hlarge | hsmall
  · calc naturalPlace m
      _ ≤ naturalPlace (2 ^ 53) := naturalPlace_mono hm
      _ < naturalPlace (2 ^ 53 + 2) := naturalPlace_above
      _ ≤ naturalPlace n := naturalPlace_mono (by omega)
  · exact naturalPlace_lt h hsmall

/-- No number but zero is rounded to zero. -/
theorem naturalPlace_pos {n : Nat} (h : 0 < n) : 0 < naturalPlace n := by
  have hone : naturalPlace 0 < naturalPlace 1 := naturalPlace_lt Nat.one_pos (by decide)
  exact Nat.lt_of_lt_of_le (Nat.zero_lt_of_lt hone) (naturalPlace_mono h)

/-- The first magnitude that is not finite would be `2^1024`. -/
theorem unitsOfMagnitude_top : unitsOfMagnitude topMagnitude = 2 ^ 1024 * unitsPerOne := by
  decide +kernel

/-- From `2^1024` on rounding is to infinity. -/
theorem naturalPlace_of_large {n : Nat} (h : 2 ^ 1024 ≤ n) : naturalPlace n = topMagnitude := by
  apply nearestMagnitude_of_top_le Nat.one_pos
  rw [unitsOfMagnitude_top, Nat.mul_one]
  exact Nat.mul_le_mul_right _ h

end CartCriteria
