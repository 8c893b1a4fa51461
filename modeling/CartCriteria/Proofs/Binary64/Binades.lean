import CartCriteria.Proofs.Binary64.Nearest

/-! Rounding past `2^53`, where all magnitudes are even integers. A factor of two moves a number up by
one binade and nothing else, so zeros behind a number in binary leave its rounding as it is; other
digits behind it matter only where they decide a tie. -/
namespace CartCriteria

/-- From the second binade on the values repeat, doubled from each binade to the next. -/
theorem unitsOfMagnitude_add_binades {k : Nat} (hk : binadeSize ≤ k) (t : Nat) :
    unitsOfMagnitude (k + t * binadeSize) = unitsOfMagnitude k * 2 ^ t := by
  obtain ⟨m, s, rfl, hm, hs⟩ := exists_place k
  have hsignificand : binadeSize ≤ m := by
    rcases hs with rfl | hs
    · simpa using hk
    · exact hs
  rw [Nat.add_assoc, ← Nat.add_mul, unitsOfMagnitude_place (Nat.le_of_lt hm) (.inr hsignificand),
    unitsOfMagnitude_place (Nat.le_of_lt hm) hs, Nat.pow_add, Nat.mul_assoc]

private theorem binadeSize_le {k : Nat} (hk : 2 ^ 53 * unitsPerOne ≤ unitsOfMagnitude k) :
    binadeSize ≤ k := by
  by_contra hsmall
  have hunits : unitsOfMagnitude k = k := if_pos (by omega)
  have hone : 2 ^ 53 * 1 ≤ 2 ^ 53 * unitsPerOne := Nat.mul_le_mul_left _ unitsPerOne_pos
  rw [hunits] at hk
  unfold binadeSize at hsmall
  omega

/-- What is as large as `2^53` has no digits below two. -/
theorem exists_units_eq_even {k : Nat} (hk : 2 ^ 53 * unitsPerOne ≤ unitsOfMagnitude k) :
    ∃ half, unitsOfMagnitude k = 2 * half * unitsPerOne := by
  obtain ⟨p, -, -, hunit⟩ := exists_unitsPerOne
  rw [hunit, Nat.one_shiftLeft] at hk ⊢
  obtain ⟨m, s, rfl, hm, hs⟩ := exists_place k
  rw [unitsOfMagnitude_place (Nat.le_of_lt hm) hs] at hk ⊢
  have hpow : 2 ^ p < 2 ^ s := by
    by_contra hle
    have hmul := Nat.mul_lt_mul_of_lt_of_le hm (Nat.le_of_not_lt hle) (Nat.two_pow_pos p)
    exact absurd hk (Nat.not_le_of_lt hmul)
  have hs : s = p + 1 + (s - (p + 1)) := by
    have := (Nat.pow_lt_pow_iff_right (by decide : 1 < 2)).mp hpow
    omega
  refine ⟨m * 2 ^ (s - (p + 1)), ?_⟩
  conv_lhs => rw [hs, Nat.pow_add, Nat.pow_succ]
  ring

/-- Neighbouring magnitudes past `2^53`, by the halves of the even integers that they are. -/
structure Neighbours (j low high : Nat) : Prop where
  binade : binadeSize ≤ j
  lower : unitsOfMagnitude j = 2 * low * unitsPerOne
  upper : unitsOfMagnitude (j + 1) = 2 * high * unitsPerOne

/-- A finite natural number from `2^53` on lies between such neighbours. -/
theorem exists_neighbours_even {n : Nat} (hn : 2 ^ 53 ≤ n) (hfinite : n < 2 ^ 1024) :
    ∃ j low high, Neighbours j low high ∧ 2 * low ≤ n ∧ n < 2 * high := by
  have hbelow : n * unitsPerOne < unitsOfMagnitude topMagnitude * 1 := by
    rw [unitsOfMagnitude_top, Nat.mul_one]
    exact Nat.mul_lt_mul_of_pos_right hfinite unitsPerOne_pos
  obtain ⟨j, -, hlow, hhigh⟩ := exists_neighbours hbelow
  rw [Nat.mul_one] at hlow hhigh
  have hstart : 2 ^ 53 * unitsPerOne ≤ unitsOfMagnitude j := by
    obtain ⟨k, -, hk⟩ := exists_units_eq (Nat.le_refl (2 ^ 53))
    have hfloor : unitsOfMagnitude k < unitsOfMagnitude (j + 1) := by
      rw [hk]
      exact Nat.lt_of_le_of_lt (Nat.mul_le_mul_right _ hn) hhigh
    rw [← hk, unitsOfMagnitude_strictMono.le_iff_le]
    exact Nat.le_of_lt_succ (unitsOfMagnitude_strictMono.lt_iff_lt.mp hfloor)
  obtain ⟨low, hlower⟩ := exists_units_eq_even hstart
  obtain ⟨high, hupper⟩ := exists_units_eq_even
    (Nat.le_trans hstart (Nat.le_of_lt (unitsOfMagnitude_strictMono (Nat.lt_succ_self j))))
  refine ⟨j, low, high, ⟨binadeSize_le hstart, hlower, hupper⟩, ?_, ?_⟩
  · rw [hlower] at hlow
    exact Nat.le_of_mul_le_mul_right hlow unitsPerOne_pos
  · rw [hupper] at hhigh
    exact Nat.lt_of_mul_lt_mul_right hhigh

namespace Neighbours

variable {j low high n t : Nat}

/-- Between neighbours, and as many binades up between the neighbours there, the nearer one is taken,
and from halfway the even one. -/
theorem naturalPlace_eq (h : Neighbours j low high) (hj : j + t * binadeSize < topMagnitude)
    (hlow : 2 * low * 2 ^ t ≤ n) (hhigh : n ≤ 2 * high * 2 ^ t) :
    naturalPlace n =
      if n < (low + high) * 2 ^ t ∨ (n = (low + high) * 2 ^ t ∧ j % 2 = 0) then j + t * binadeSize
      else j + t * binadeSize + 1 := by
  have hlower : unitsOfMagnitude (j + t * binadeSize) = 2 * low * 2 ^ t * unitsPerOne := by
    rw [unitsOfMagnitude_add_binades h.binade, h.lower]
    ring
  have hupper : unitsOfMagnitude (j + t * binadeSize + 1) = 2 * high * 2 ^ t * unitsPerOne := by
    rw [Nat.add_right_comm, unitsOfMagnitude_add_binades (Nat.le_succ_of_le h.binade), h.upper]
    ring
  have hhalf : 2 * low * 2 ^ t * unitsPerOne + 2 * high * 2 ^ t * unitsPerOne =
      2 * ((low + high) * 2 ^ t * unitsPerOne) := by
    ring
  have hparity : (j + t * binadeSize) % 2 = j % 2 := by
    unfold binadeSize
    omega
  have hbelow : unitsOfMagnitude (j + t * binadeSize) * 1 ≤ n * unitsPerOne := by
    rw [hlower, Nat.mul_one]
    exact Nat.mul_le_mul_right _ hlow
  have habove : n * unitsPerOne ≤ unitsOfMagnitude (j + t * binadeSize + 1) * 1 := by
    rw [hupper, Nat.mul_one]
    exact Nat.mul_le_mul_right _ hhigh
  rw [naturalPlace, nearestMagnitude_between Nat.one_pos hj hbelow habove, hlower, hupper, hhalf,
    hparity, Nat.mul_one]
  simp only [Nat.mul_lt_mul_left Nat.two_pos, Nat.mul_right_inj (Nat.ne_of_gt Nat.two_pos),
    Nat.mul_lt_mul_right unitsPerOne_pos, Nat.mul_left_inj (Nat.ne_of_gt unitsPerOne_pos)]

end Neighbours

private theorem place_lt_top {k n : Nat} (hk : unitsOfMagnitude k ≤ n * unitsPerOne)
    (hn : n < 2 ^ 1024) : k < topMagnitude := by
  rw [← unitsOfMagnitude_strictMono.lt_iff_lt, unitsOfMagnitude_top]
  exact Nat.lt_of_le_of_lt hk (Nat.mul_lt_mul_of_pos_right hn unitsPerOne_pos)

/-- Each factor of two raises the place by a binade, up to that of infinity. -/
theorem naturalPlace_mul_pow {n : Nat} (hn : 2 ^ 53 ≤ n) (t : Nat) :
    naturalPlace (n * 2 ^ t) = min (naturalPlace n + t * binadeSize) topMagnitude := by
  rcases Nat.lt_or_ge n (2 ^ 1024) with hfinite | hlarge
  · obtain ⟨j, low, high, h, hlow, hhigh⟩ := exists_neighbours_even hn hfinite
    have hlower : unitsOfMagnitude j ≤ n * unitsPerOne := by
      rw [h.lower]
      exact Nat.mul_le_mul_right _ hlow
    -- The number itself is between the same neighbours, no binade up.
    have hplace : naturalPlace n = if n < low + high ∨ (n = low + high ∧ j % 2 = 0) then j
        else j + 1 := by
      have hhere := h.naturalPlace_eq (t := 0) (n := n)
      simp only [Nat.zero_mul, Nat.add_zero, Nat.pow_zero, Nat.mul_one] at hhere
      exact hhere (place_lt_top hlower hfinite) hlow (Nat.le_of_lt hhigh)
    rcases Nat.lt_or_ge (j + t * binadeSize) topMagnitude with hj | hj
    · rw [h.naturalPlace_eq hj (Nat.mul_le_mul_right _ hlow)
        (Nat.mul_le_mul_right _ (Nat.le_of_lt hhigh)), hplace]
      simp only [Nat.mul_lt_mul_right (Nat.two_pow_pos t),
        Nat.mul_left_inj (Nat.ne_of_gt (Nat.two_pow_pos t))]
      split
      · exact (Nat.min_eq_left (Nat.le_of_lt hj)).symm
      · rw [Nat.add_right_comm j 1]
        exact (Nat.min_eq_left hj).symm
    · have htop : unitsOfMagnitude topMagnitude * 1 ≤ n * 2 ^ t * unitsPerOne := by
        rw [Nat.mul_one, Nat.mul_right_comm]
        calc unitsOfMagnitude topMagnitude
          _ ≤ unitsOfMagnitude (j + t * binadeSize) := unitsOfMagnitude_strictMono.monotone hj
          _ = unitsOfMagnitude j * 2 ^ t := unitsOfMagnitude_add_binades h.binade t
          _ ≤ n * unitsPerOne * 2 ^ t := Nat.mul_le_mul_right _ hlower
      rw [naturalPlace, nearestMagnitude_of_top_le Nat.one_pos htop, hplace]
      apply (Nat.min_eq_right _).symm
      split
      · exact hj
      · exact Nat.le_trans hj (Nat.add_le_add_right (Nat.le_succ j) _)
  · have hmore : 2 ^ 1024 ≤ n * 2 ^ t :=
      Nat.le_trans hlarge (Nat.le_mul_of_pos_right n (Nat.two_pow_pos t))
    rw [naturalPlace_of_large hlarge, naturalPlace_of_large hmore]
    exact (Nat.min_eq_right (Nat.le_add_right _ _)).symm

/-- Halfway between two magnitudes, of which the one below has the even place. -/
def TiesDown (n : Nat) : Prop :=
  ∃ j, j % 2 = 0 ∧ 2 * (n * unitsPerOne) = unitsOfMagnitude j + unitsOfMagnitude (j + 1)

private theorem Neighbours.tiesDown_iff {j low high n : Nat} (h : Neighbours j low high)
    (hlow : 2 * low ≤ n) (hhigh : n < 2 * high) : TiesDown n ↔ n = low + high ∧ j % 2 = 0 := by
  have hhalf : unitsOfMagnitude j + unitsOfMagnitude (j + 1) = 2 * ((low + high) * unitsPerOne) := by
    rw [h.lower, h.upper]
    ring
  constructor
  · rintro ⟨i, heven, htie⟩
    have hbelow := unitsOfMagnitude_strictMono (Nat.lt_add_one i)
    have hstart : unitsOfMagnitude j ≤ n * unitsPerOne := by
      rw [h.lower]
      exact Nat.mul_le_mul_right _ hlow
    have hend : n * unitsPerOne < unitsOfMagnitude (j + 1) := by
      rw [h.upper]
      exact Nat.mul_lt_mul_of_pos_right hhigh unitsPerOne_pos
    have hnot : i < j + 1 := unitsOfMagnitude_strictMono.lt_iff_lt.mp (by omega)
    have hnot' : j < i + 1 := unitsOfMagnitude_strictMono.lt_iff_lt.mp (by omega)
    obtain rfl : i = j := by omega
    rw [hhalf] at htie
    exact ⟨Nat.eq_of_mul_eq_mul_right unitsPerOne_pos (Nat.eq_of_mul_eq_mul_left Nat.two_pos htie),
      heven⟩
  · rintro ⟨rfl, heven⟩
    exact ⟨j, heven, hhalf.symm⟩

/-- No magnitude is halfway between two. -/
theorem not_tiesDown_of_units {n k : Nat} (hk : unitsOfMagnitude k = n * unitsPerOne) :
    ¬ TiesDown n := by
  rintro ⟨j, -, htie⟩
  rw [← hk] at htie
  have hnext := unitsOfMagnitude_strictMono (Nat.lt_add_one j)
  have hbelow : j < k := unitsOfMagnitude_strictMono.lt_iff_lt.mp (by omega)
  have habove : k < j + 1 := unitsOfMagnitude_strictMono.lt_iff_lt.mp (by omega)
  omega

private theorem ite_digits_behind {n half v step j : Nat} (even : Prop) [Decidable even]
    (hv : v < step) :
    (if n * step + v < half * step ∨ (n * step + v = half * step ∧ even) then j else j + 1) =
      (if n * step < half * step ∨ (n * step = half * step ∧ even) then j else j + 1) +
        if v ≠ 0 ∧ n = half ∧ even then 1 else 0 := by
  rcases Nat.lt_trichotomy n half with hlt | rfl | hgt
  · have hnext : (n + 1) * step ≤ half * step := Nat.mul_le_mul_right step hlt
    rw [Nat.add_mul, Nat.one_mul] at hnext
    rw [if_pos (.inl (by omega)), if_pos (.inl (by omega)), if_neg (by omega), Nat.add_zero]
  · by_cases hzero : v = 0
    · simp [hzero]
    · by_cases heven : even
      · rw [if_neg (by omega), if_pos (.inr ⟨rfl, heven⟩), if_pos ⟨hzero, rfl, heven⟩]
      · rw [if_neg (by omega), if_neg (by simp [heven]), if_neg (fun h => heven h.2.2)]
  · have hnext : (half + 1) * step ≤ n * step := Nat.mul_le_mul_right step hgt
    rw [Nat.add_mul, Nat.one_mul] at hnext
    rw [if_neg (by omega), if_neg (by omega), if_neg (by omega), Nat.add_zero]

private theorem two_pow_le_of_digits_behind {n v t e : Nat} (hpos : 0 < n) (hv : v < 2 ^ t)
    (h : 2 ^ e ≤ n * 2 ^ t + v) : 2 ^ e ≤ n * 2 ^ t := by
  rcases Nat.le_total t e with hle | hle
  · have hpow : 2 ^ e = 2 ^ (e - t) * 2 ^ t := by
      rw [← Nat.pow_add, Nat.sub_add_cancel hle]
    rw [hpow] at h ⊢
    apply Nat.mul_le_mul_right
    by_contra hless
    have hnext : (n + 1) * 2 ^ t ≤ 2 ^ (e - t) * 2 ^ t :=
      Nat.mul_le_mul_right _ (Nat.lt_of_not_le hless)
    rw [Nat.add_mul, Nat.one_mul] at hnext
    omega
  · exact Nat.le_trans (Nat.pow_le_pow_right Nat.two_pos hle) (Nat.le_mul_of_pos_left _ hpos)

/-- Digits behind a number lift it to the next place exactly if they decide a tie, short of
infinity. -/
theorem naturalPlace_digits_behind {n v t : Nat} (hn : 2 ^ 53 ≤ n) (hv : v < 2 ^ t) :
    (¬ (v ≠ 0 ∧ TiesDown n ∧ n * 2 ^ t + v < 2 ^ 1024) →
      naturalPlace (n * 2 ^ t + v) = naturalPlace (n * 2 ^ t)) ∧
    (v ≠ 0 → TiesDown n → n * 2 ^ t + v < 2 ^ 1024 →
      naturalPlace (n * 2 ^ t + v) = naturalPlace (n * 2 ^ t) + 1) := by
  have hpos : 0 < n := Nat.lt_of_lt_of_le (Nat.two_pow_pos 53) hn
  rcases Nat.lt_or_ge (n * 2 ^ t + v) (2 ^ 1024) with hfinite | hlarge
  · have hless : n < 2 ^ 1024 := Nat.lt_of_le_of_lt
      (Nat.le_trans (Nat.le_mul_of_pos_right n (Nat.two_pow_pos t)) (Nat.le_add_right _ v)) hfinite
    -- With and without the digits the number is between one pair of neighbours, and the bounds and
    -- the halfway point between them end in as many zeros as there are digits.
    obtain ⟨j, low, high, h, hlow, hhigh⟩ := exists_neighbours_even hn hless
    have hscaled : 2 * low * 2 ^ t ≤ n * 2 ^ t := Nat.mul_le_mul_right _ hlow
    have hscaled' : (n + 1) * 2 ^ t ≤ 2 * high * 2 ^ t := Nat.mul_le_mul_right _ hhigh
    rw [Nat.add_mul, Nat.one_mul] at hscaled'
    have hj : j + t * binadeSize < topMagnitude := by
      apply place_lt_top _ hfinite
      rw [unitsOfMagnitude_add_binades h.binade, h.lower, Nat.mul_right_comm]
      exact Nat.mul_le_mul_right _ (Nat.le_trans hscaled (Nat.le_add_right _ v))
    have hsum : naturalPlace (n * 2 ^ t + v) = naturalPlace (n * 2 ^ t) +
        if v ≠ 0 ∧ n = low + high ∧ j % 2 = 0 then 1 else 0 := by
      rw [h.naturalPlace_eq hj (Nat.le_trans hscaled (Nat.le_add_right _ v)) (by omega),
        h.naturalPlace_eq hj hscaled (by omega)]
      exact ite_digits_behind _ hv
    rw [hsum, h.tiesDown_iff hlow hhigh]
    constructor
    · intro hnot
      rw [if_neg fun htie => hnot ⟨htie.1, htie.2, hfinite⟩, Nat.add_zero]
    · intro hne htie _
      rw [if_pos ⟨hne, htie⟩]
  · rw [naturalPlace_of_large hlarge, naturalPlace_of_large (two_pow_le_of_digits_behind hpos hv hlarge)]
    exact ⟨fun _ => rfl, fun _ _ hfinite => absurd hfinite (Nat.not_lt_of_le hlarge)⟩

/-- What was rounded once is no tie, so that fewer digits than were dropped change it no more. -/
theorem nearestMagnitude_rounded {n d w : Nat} (hn : 2 ^ 53 ≤ n) (hd : d < 2 ^ w) :
    nearestMagnitude (unitsOfMagnitude (naturalPlace n) * 2 ^ w + d * unitsPerOne) 1 =
      naturalPlace (n * 2 ^ w) := by
  have hstart : 2 ^ 53 * unitsPerOne ≤ unitsOfMagnitude (naturalPlace n) := by
    have hexact := units_naturalPlace (Nat.le_refl (2 ^ 53))
    exact hexact ▸ unitsOfMagnitude_strictMono.monotone (naturalPlace_mono hn)
  obtain ⟨half, hhalf⟩ := exists_units_eq_even hstart
  have hlarge : 2 ^ 53 ≤ 2 * half := by
    rw [hhalf] at hstart
    exact Nat.le_of_mul_le_mul_right hstart unitsPerOne_pos
  have hplace : naturalPlace (2 * half) = naturalPlace n := by
    have hround := nearestMagnitude_units (naturalPlace_le n) Nat.one_pos
    rwa [Nat.mul_one, hhalf] at hround
  have hsum : unitsOfMagnitude (naturalPlace n) * 2 ^ w + d * unitsPerOne =
      (2 * half * 2 ^ w + d) * unitsPerOne := by
    rw [hhalf]
    ring
  calc nearestMagnitude (unitsOfMagnitude (naturalPlace n) * 2 ^ w + d * unitsPerOne) 1
    _ = naturalPlace (2 * half * 2 ^ w + d) := by rw [hsum, naturalPlace]
    _ = naturalPlace (2 * half * 2 ^ w) :=
      (naturalPlace_digits_behind hlarge hd).1 fun h => not_tiesDown_of_units hhalf h.2.1
    _ = naturalPlace (n * 2 ^ w) := by
      rw [naturalPlace_mul_pow hlarge, naturalPlace_mul_pow hn, hplace]

end CartCriteria
