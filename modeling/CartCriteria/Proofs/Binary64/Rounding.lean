import CartCriteria.Binary64.Basic
import Mathlib.Algebra.Order.Ring.Nat
import Mathlib.Order.Monotone.Basic
import Mathlib.Tactic.Ring

/-! Rounding of exact quotients to binary64 magnitudes. It depends on the quotient alone, keeps the
order, and gives every magnitude back from its own value. -/
namespace CartCriteria

/-- An exact quotient is its own nearest integer. -/
theorem divNearestEven_mul (q : Nat) {d : Nat} (hd : 0 < d) : divNearestEven (q * d) d = q := by
  simp only [divNearestEven, Nat.mul_div_cancel q hd, Nat.mul_mod_left]
  rw [if_pos (.inl (by omega))]

private theorem divNearestEven_between {a b q : Nat} (hlow : q * b ≤ a) (hhigh : a < (q + 1) * b) :
    divNearestEven a b =
      if 2 * a < (2 * q + 1) * b ∨ (2 * a = (2 * q + 1) * b ∧ q % 2 = 0) then q else q + 1 := by
  have hquot : a / b = q := Nat.div_eq_of_lt_le hlow hhigh
  have hrest := Nat.mod_add_div' a b
  have hhalf : (2 * q + 1) * b = 2 * (q * b) + b := by ring
  have hlt : 2 * (a % b) < b ↔ 2 * a < (2 * q + 1) * b := by
    rw [hquot] at hrest
    omega
  have heq : 2 * (a % b) = b ↔ 2 * a = (2 * q + 1) * b := by
    rw [hquot] at hrest
    omega
  simp only [divNearestEven, hquot, hlt, heq]

private theorem divNearestEven_scale (a b : Nat) {c : Nat} (hc : 0 < c) :
    divNearestEven (a * c) (b * c) = divNearestEven a b := by
  have hlt : 2 * (a % b * c) < b * c ↔ 2 * (a % b) < b := by
    rw [← Nat.mul_assoc]
    exact Nat.mul_lt_mul_right hc
  have heq : 2 * (a % b * c) = b * c ↔ 2 * (a % b) = b := by
    rw [← Nat.mul_assoc]
    exact Nat.mul_left_inj (Nat.ne_of_gt hc)
  simp only [divNearestEven, Nat.mul_div_mul_right a b hc, Nat.mul_mod_mul_right, hlt, heq]

private theorem divNearestEven_mono_left {a c : Nat} (b : Nat) (h : a ≤ c) :
    divNearestEven a b ≤ divNearestEven c b := by
  have hq : a / b ≤ c / b := Nat.div_le_div_right h
  have ha := Nat.div_add_mod a b
  have hc := Nat.div_add_mod c b
  rcases Nat.lt_or_eq_of_le hq with hq | hq
  · simp only [divNearestEven]
    split <;> split <;> omega
  · rw [← hq] at hc
    simp only [divNearestEven, ← hq]
    split <;> split <;> omega

private theorem divNearestEven_mono {a b c d : Nat} (hb : 0 < b) (hd : 0 < d) (h : a * d ≤ c * b) :
    divNearestEven a b ≤ divNearestEven c d := by
  rw [← divNearestEven_scale a b hd, ← divNearestEven_scale c d hb, Nat.mul_comm d b]
  exact divNearestEven_mono_left _ h

private theorem divNearestEven_le {a b n : Nat} (hb : 0 < b) (h : a ≤ n * b) :
    divNearestEven a b ≤ n := by
  have := divNearestEven_mono_left b h
  rwa [divNearestEven_mul n hb] at this

private theorem le_divNearestEven {a b n : Nat} (hb : 0 < b) (h : n * b ≤ a) :
    n ≤ divNearestEven a b := by
  have := divNearestEven_mono_left b h
  rwa [divNearestEven_mul n hb] at this

private theorem log2_mono {m n : Nat} (h : m ≤ n) : Nat.log2 m ≤ Nat.log2 n := by
  rcases Nat.eq_zero_or_pos m with rfl | hm
  · rw [Nat.log2_zero]
    exact Nat.zero_le _
  · exact (Nat.le_log2 (by omega)).mpr (Nat.le_trans (Nat.log2_self_le (by omega)) h)

private def shiftOf (num den : Nat) : Nat :=
  Nat.log2 (num / den) - 52

private theorem nearestMagnitude_eq (num den : Nat) :
    nearestMagnitude num den =
      min (divNearestEven num (den <<< shiftOf num den) + shiftOf num den * binadeSize)
        topMagnitude :=
  rfl

private theorem shiftLeft_pos {den : Nat} (hd : 0 < den) (s : Nat) : 0 < den <<< s := by
  rw [Nat.shiftLeft_eq]
  exact Nat.mul_pos hd (Nat.two_pow_pos s)

theorem unitsPerOne_pos : 0 < unitsPerOne :=
  shiftLeft_pos Nat.one_pos 1074

private theorem quotient_lt (num den : Nat) :
    num / den < 2 * binadeSize * 2 ^ shiftOf num den := by
  have hlog : num / den < 2 ^ (Nat.log2 (num / den) + 1) := Nat.lt_log2_self
  have hpow : 2 ^ (Nat.log2 (num / den) + 1) ≤ 2 ^ (53 + shiftOf num den) :=
    Nat.pow_le_pow_right (by decide) (by unfold shiftOf; omega)
  have hsplit : 2 ^ (53 + shiftOf num den) = 2 * binadeSize * 2 ^ shiftOf num den := by
    rw [Nat.pow_add]
    rfl
  exact hsplit ▸ Nat.lt_of_lt_of_le hlog hpow

private theorem le_quotient {num den : Nat} (h : 0 < shiftOf num den) :
    binadeSize * 2 ^ shiftOf num den ≤ num / den := by
  have hshift : Nat.log2 (num / den) = 52 + shiftOf num den := by
    unfold shiftOf at h ⊢
    omega
  have hne : num / den ≠ 0 := by
    intro h0
    rw [h0, Nat.log2_zero] at hshift
    omega
  have hlog := Nat.log2_self_le hne
  rw [hshift, Nat.pow_add] at hlog
  exact hlog

private theorem significand_le (num : Nat) {den : Nat} (hd : 0 < den) :
    divNearestEven num (den <<< shiftOf num den) ≤ 2 * binadeSize := by
  apply divNearestEven_le (shiftLeft_pos hd _)
  rw [Nat.shiftLeft_eq, ← Nat.mul_assoc, Nat.mul_right_comm]
  exact Nat.le_of_lt ((Nat.div_lt_iff_lt_mul hd).mp (quotient_lt num den))

private theorem le_significand (num : Nat) {den : Nat} (hd : 0 < den) (h : 0 < shiftOf num den) :
    binadeSize ≤ divNearestEven num (den <<< shiftOf num den) := by
  apply le_divNearestEven (shiftLeft_pos hd _)
  rw [Nat.shiftLeft_eq, ← Nat.mul_assoc, Nat.mul_right_comm]
  exact (Nat.le_div_iff_mul_le hd).mp (le_quotient h)

/-- Rounding keeps the order of quotients. Where the binary digits that are dropped differ in
number, whole binades lie between the results. -/
theorem nearestMagnitude_mono {a b c d : Nat} (hb : 0 < b) (hd : 0 < d) (h : a * d ≤ c * b) :
    nearestMagnitude a b ≤ nearestMagnitude c d := by
  rw [nearestMagnitude_eq, nearestMagnitude_eq]
  have hq : a / b ≤ c / d := by
    rw [Nat.le_div_iff_mul_le hd]
    calc a / b * d = d * (a / b) := Nat.mul_comm _ _
      _ ≤ d * a / b := Nat.mul_div_le_mul_div_assoc d a b
      _ ≤ c * b / b := Nat.div_le_div_right (by rwa [Nat.mul_comm d a])
      _ = c := Nat.mul_div_cancel c hb
  have hs : shiftOf a b ≤ shiftOf c d := Nat.sub_le_sub_right (log2_mono hq) 52
  apply min_le_min_right
  rcases Nat.lt_or_eq_of_le hs with hs | hs
  · have hlow := significand_le a hb
    have hhigh := le_significand c hd (Nat.zero_lt_of_lt hs)
    have hbinades : (shiftOf a b + 1) * binadeSize ≤ shiftOf c d * binadeSize :=
      Nat.mul_le_mul_right _ hs
    calc divNearestEven a (b <<< shiftOf a b) + shiftOf a b * binadeSize
      _ ≤ 2 * binadeSize + shiftOf a b * binadeSize := Nat.add_le_add_right hlow _
      _ = binadeSize + (shiftOf a b + 1) * binadeSize := by ring
      _ ≤ divNearestEven c (d <<< shiftOf c d) + shiftOf c d * binadeSize :=
        Nat.add_le_add hhigh hbinades
  · have hmono : divNearestEven a (b <<< shiftOf a b) ≤ divNearestEven c (d <<< shiftOf a b) := by
      apply divNearestEven_mono (shiftLeft_pos hb _) (shiftLeft_pos hd _)
      rw [Nat.shiftLeft_eq, Nat.shiftLeft_eq, ← Nat.mul_assoc, ← Nat.mul_assoc]
      exact Nat.mul_le_mul_right _ h
    rw [← hs]
    exact Nat.add_le_add_right hmono _

/-- Rounding depends on the quotient alone. -/
theorem nearestMagnitude_congr {a b c d : Nat} (hb : 0 < b) (hd : 0 < d) (h : a * d = c * b) :
    nearestMagnitude a b = nearestMagnitude c d :=
  Nat.le_antisymm (nearestMagnitude_mono hb hd (Nat.le_of_eq h))
    (nearestMagnitude_mono hd hb (Nat.le_of_eq h.symm))

private theorem shiftOf_eq_zero {num den : Nat} (h : num / den < 2 * binadeSize) :
    shiftOf num den = 0 := by
  rcases Nat.eq_zero_or_pos (num / den) with h0 | hpos
  · rw [shiftOf, h0, Nat.log2_zero]
  · have : Nat.log2 (num / den) < 53 := (Nat.log2_lt (by omega)).mpr h
    rw [shiftOf]
    omega

private theorem shiftOf_eq {num den s : Nat} (hlow : binadeSize * 2 ^ s ≤ num / den)
    (hhigh : num / den < 2 * binadeSize * 2 ^ s) : shiftOf num den = s := by
  have hpos : 0 < binadeSize * 2 ^ s := Nat.mul_pos (by decide) (Nat.two_pow_pos s)
  have hlog : Nat.log2 (num / den) = 52 + s := by
    rw [Nat.log2_eq_iff (by omega), Nat.pow_succ, Nat.pow_add]
    refine ⟨hlow, ?_⟩
    rwa [Nat.mul_comm, ← Nat.mul_assoc]
  rw [shiftOf, hlog, Nat.add_sub_cancel_left]

/-- Every place is a significand behind whole binades. Only below the second binade is there none. -/
theorem exists_place (k : Nat) :
    ∃ m s, k = m + s * binadeSize ∧ m < 2 * binadeSize ∧ (s = 0 ∨ binadeSize ≤ m) := by
  by_cases hsmall : k < 2 * binadeSize
  · exact ⟨k, 0, by omega, hsmall, .inl rfl⟩
  · have hplace := Nat.mod_add_div' k binadeSize
    have hrest : k % binadeSize < binadeSize := Nat.mod_lt k (by decide)
    have hbinade : 2 ≤ k / binadeSize :=
      (Nat.le_div_iff_mul_le (by decide)).mpr (Nat.le_of_not_lt hsmall)
    obtain ⟨s, hs⟩ : ∃ s, k / binadeSize = s + 1 := ⟨k / binadeSize - 1, by omega⟩
    rw [hs, Nat.succ_mul] at hplace
    exact ⟨binadeSize + k % binadeSize, s, by omega, by omega, .inr (Nat.le_add_right _ _)⟩

/-- The value at a place is its significand, doubled for each binade in front. A significand of two
binades stands for the first of the next. -/
theorem unitsOfMagnitude_place {m s : Nat} (hm : m ≤ 2 * binadeSize) (hs : s = 0 ∨ binadeSize ≤ m) :
    unitsOfMagnitude (m + s * binadeSize) = m * 2 ^ s := by
  by_cases hsmall : m + s * binadeSize < 2 * binadeSize
  · have hnone : s = 0 := by
      rcases hs with hs | hs
      · exact hs
      · have hone : s * binadeSize < 1 * binadeSize := by omega
        exact Nat.lt_one_iff.mp (Nat.lt_of_mul_lt_mul_right hone)
    rw [unitsOfMagnitude, if_pos hsmall, hnone, Nat.zero_mul, Nat.add_zero, Nat.pow_zero,
      Nat.mul_one]
  obtain ⟨r, rfl⟩ : ∃ r, m = binadeSize + r := by
    apply Nat.exists_eq_add_of_le
    rcases hs with rfl | hs <;> omega
  have hplace : binadeSize + r + s * binadeSize = r + (s + 1) * binadeSize := by
    rw [Nat.succ_mul]
    omega
  rw [unitsOfMagnitude, if_neg hsmall, Nat.shiftLeft_eq, hplace, Nat.add_mul_mod_self_right,
    Nat.add_mul_div_right r _ (by decide)]
  rcases Nat.lt_or_eq_of_le (Nat.le_of_add_le_add_left (Nat.two_mul binadeSize ▸ hm)) with hr | hr
  · rw [Nat.mod_eq_of_lt hr, Nat.div_eq_of_lt hr, Nat.zero_add, Nat.add_sub_cancel]
  · rw [hr, Nat.mod_self, Nat.div_self (by decide), Nat.add_sub_cancel_left, Nat.pow_succ]
    ring

/-- The values of magnitudes ascend with their places. -/
theorem unitsOfMagnitude_strictMono : StrictMono unitsOfMagnitude := by
  apply strictMono_nat_of_lt_succ
  intro k
  obtain ⟨m, s, rfl, hm, hs⟩ := exists_place k
  rw [Nat.add_right_comm, unitsOfMagnitude_place (Nat.le_of_lt hm) hs,
    unitsOfMagnitude_place hm (hs.imp_right Nat.le_succ_of_le)]
  exact Nat.mul_lt_mul_of_pos_right (Nat.lt_succ_self m) (Nat.two_pow_pos s)

/-- Every magnitude but the first has some units. -/
theorem unitsOfMagnitude_pos {k : Nat} (hk : 0 < k) : 0 < unitsOfMagnitude k :=
  Nat.zero_lt_of_lt (unitsOfMagnitude_strictMono hk)

private theorem shiftOf_place {num den m s : Nat} (hd : 0 < den) (hm : m < 2 * binadeSize)
    (hs : s = 0 ∨ binadeSize ≤ m) (hlow : m * 2 ^ s * den ≤ num)
    (hhigh : num < (m + 1) * 2 ^ s * den) : shiftOf num den = s := by
  have hfloor : m * 2 ^ s ≤ num / den := (Nat.le_div_iff_mul_le hd).mpr hlow
  have hnext : num / den < (m + 1) * 2 ^ s := (Nat.div_lt_iff_lt_mul hd).mpr hhigh
  have hbinade : num / den < 2 * binadeSize * 2 ^ s :=
    Nat.lt_of_lt_of_le hnext (Nat.mul_le_mul_right _ hm)
  rcases hs with rfl | hs
  · rw [Nat.pow_zero, Nat.mul_one] at hbinade
    exact shiftOf_eq_zero hbinade
  · exact shiftOf_eq (Nat.le_trans (Nat.mul_le_mul_right _ hs) hfloor) hbinade

/-- A magnitude is the rounding of its own value. -/
theorem nearestMagnitude_units {k : Nat} (hk : k ≤ topMagnitude) {c : Nat} (hc : 0 < c) :
    nearestMagnitude (unitsOfMagnitude k * c) c = k := by
  obtain ⟨m, s, rfl, hm, hs⟩ := exists_place k
  have hpos : 0 < 2 ^ s * c := Nat.mul_pos (Nat.two_pow_pos s) hc
  have hshift : shiftOf (m * 2 ^ s * c) c = s := by
    apply shiftOf_place hc hm hs (Nat.le_refl _)
    rw [Nat.mul_assoc, Nat.mul_assoc]
    exact Nat.mul_lt_mul_of_pos_right (Nat.lt_succ_self m) hpos
  rw [unitsOfMagnitude_place (Nat.le_of_lt hm) hs, nearestMagnitude_eq, hshift, Nat.shiftLeft_eq,
    Nat.mul_comm c, Nat.mul_assoc, divNearestEven_mul m hpos, Nat.min_eq_left hk]

/-- Between two neighbouring magnitudes a quotient goes to the nearer one, and from halfway to the
one whose place is even. -/
theorem nearestMagnitude_between {num den j : Nat} (hd : 0 < den) (hj : j < topMagnitude)
    (hlow : unitsOfMagnitude j * den ≤ num) (hhigh : num ≤ unitsOfMagnitude (j + 1) * den) :
    nearestMagnitude num den =
      if 2 * num < (unitsOfMagnitude j + unitsOfMagnitude (j + 1)) * den ∨
          (2 * num = (unitsOfMagnitude j + unitsOfMagnitude (j + 1)) * den ∧ j % 2 = 0) then j
      else j + 1 := by
  rcases Nat.lt_or_eq_of_le hhigh with hhigh | hhigh
  · obtain ⟨m, s, rfl, hm, hs⟩ := exists_place j
    rw [Nat.add_right_comm] at hhigh ⊢
    rw [unitsOfMagnitude_place (Nat.le_of_lt hm) hs] at hlow ⊢
    rw [unitsOfMagnitude_place hm (hs.imp_right Nat.le_succ_of_le)] at hhigh ⊢
    have hparity : (m + s * binadeSize) % 2 = m % 2 := by
      unfold binadeSize
      omega
    have hcomm (n : Nat) : n * (den * 2 ^ s) = n * 2 ^ s * den := by ring
    have hhalf : (m * 2 ^ s + (m + 1) * 2 ^ s) * den = (2 * m + 1) * (den * 2 ^ s) := by ring
    have hround := divNearestEven_between (a := num) (b := den * 2 ^ s) (q := m)
      (by rwa [hcomm]) (by rwa [hcomm])
    rw [nearestMagnitude_eq, shiftOf_place hd hm hs hlow hhigh, Nat.shiftLeft_eq, hparity, hhalf,
      hround]
    split
    · exact Nat.min_eq_left (Nat.le_of_lt hj)
    · rw [Nat.min_eq_left (by omega), Nat.add_right_comm]
  · have hbelow : unitsOfMagnitude j * den < unitsOfMagnitude (j + 1) * den :=
      Nat.mul_lt_mul_of_pos_right (unitsOfMagnitude_strictMono (Nat.lt_succ_self j)) hd
    rw [hhigh, nearestMagnitude_units hj hd, Nat.add_mul, if_neg (by omega)]

/-- No rounding is past infinity. -/
theorem nearestMagnitude_le (num den : Nat) : nearestMagnitude num den ≤ topMagnitude :=
  Nat.min_le_right _ _

end CartCriteria
