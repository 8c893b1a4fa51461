import CartCriteria.Proofs.Binary64.Layout

/-! Whole numbers up to `2^53`, written positionally. No decimal with fewer digits is rounded to one of
them, so that the shortest decimal has all of its digits but the zeros at the end, which the layout puts
back. Past `2^53` this fails: digits that are not needed are replaced by zeros. -/
namespace CartCriteria

private theorem naturalPlace_neighbours_ne {n j : Nat} (hn : n ≤ 2 ^ 53)
    (hrest : n % 10 ^ j ≠ 0) : naturalPlace (n / 10 ^ j * 10 ^ j) ≠ naturalPlace n ∧
      naturalPlace ((n / 10 ^ j + 1) * 10 ^ j) ≠ naturalPlace n := by
  have hsplit := Nat.div_add_mod' n (10 ^ j)
  have hlow : n / 10 ^ j * 10 ^ j < n := by omega
  have hhigh : n < (n / 10 ^ j + 1) * 10 ^ j := by
    have hmod := Nat.mod_lt n (Nat.pow_pos (n := j) (by decide : 0 < 10))
    rw [Nat.succ_mul]
    omega
  have heven : (n / 10 ^ j + 1) * 10 ^ j % 2 = 0 := by
    cases j with
    | zero => exact absurd (Nat.mod_one n) hrest
    | succ j =>
      rw [Nat.pow_succ, ← Nat.mul_assoc]
      omega
  exact ⟨Nat.ne_of_lt (naturalPlace_lt hlow hn),
    Nat.ne_of_gt (naturalPlace_lt_of_even hhigh hn heven)⟩

namespace Decimal

theorem Extends.refl (d : Decimal) : d.Extends d :=
  ⟨0, by rw [Nat.pow_zero, Nat.mul_one, Nat.cast_zero, Int.sub_zero]⟩

theorem Extends.trans {a b c : Decimal} (hab : a.Extends b) (hbc : b.Extends c) : a.Extends c := by
  obtain ⟨i, rfl⟩ := hab
  obtain ⟨j, rfl⟩ := hbc
  refine ⟨i + j, ?_⟩
  congr 1
  · rw [Nat.mul_assoc, ← Nat.pow_add, Nat.add_comm]
  · rw [Int.sub_sub, Int.natCast_add, Int.add_comm]

private theorem extends_dropZeros (fuel : Nat) (d : Decimal) : d.Extends (dropZeros fuel d) := by
  induction fuel generalizing d with
  | zero => exact .refl d
  | succ fuel ih =>
    rw [dropZeros]
    split
    · rename_i hzero
      have hshorter : d.Extends ⟨d.digits / 10, d.exponent + 1⟩ := by
        refine ⟨1, ?_⟩
        rw [Nat.pow_one, Nat.div_mul_cancel (Nat.dvd_of_mod_eq_zero hzero), Nat.cast_one,
          Int.add_sub_cancel]
      exact hshorter.trans (ih _)
    · exact .refl d

/-- With fuel for all digits no zero stays at the end. -/
theorem dropZeros_mod_ten {fuel : Nat} {d : Decimal} (hpos : 0 < d.digits)
    (hfuel : d.digits < 10 ^ fuel) : (dropZeros fuel d).digits % 10 ≠ 0 := by
  induction fuel generalizing d with
  | zero => omega
  | succ fuel ih =>
    rw [dropZeros]
    split
    · rename_i hzero
      rw [Nat.pow_succ] at hfuel
      exact ih (d := ⟨_, _⟩) (by dsimp only; omega) (by dsimp only; omega)
    · assumption

variable {tie : TieRule} {n k drop : Nat} {d : Decimal}

private theorem exists_exact (hunits : unitsOfMagnitude k = n * unitsPerOne) :
    ∃ p : Nat, ofMagnitude k = ⟨n * 10 ^ p, -p⟩ := by
  -- The number of places is hidden, for a power with so many zeros must not be computed.
  obtain ⟨p, hone, hexact⟩ : ∃ p : Nat, unitsPerOne = 1 <<< p ∧
      ofMagnitude k = ⟨unitsOfMagnitude k * Nat.pow 5 p, -p⟩ :=
    ⟨1074, unitsPerOne.eq_1, ofMagnitude.eq_1 k⟩
  have hpower : 2 ^ p * Nat.pow 5 p = 10 ^ p := (Nat.mul_pow 2 5 p).symm
  refine ⟨p, ?_⟩
  rw [hexact, hunits, hone, Nat.one_shiftLeft, Nat.mul_assoc, hpower]

private theorem readsBackAs_whole {a j : Nat} (h : (⟨a, j⟩ : Decimal).readsBackAs k = true) :
    naturalPlace (a * 10 ^ j) = k := by
  have hshift := Binary64.magnitudeOfDecimal_shift a j j
  rw [Int.sub_self, Binary64.magnitudeOfDecimal_natural] at hshift
  exact hshift.trans (beq_iff_eq.mp h)

private theorem extends_below (hrest : (ofMagnitude k).digits % Nat.pow 10 drop = 0) :
    (ofMagnitude k).Extends (below k drop) := by
  have hdigits := Nat.div_mul_cancel (Nat.dvd_of_mod_eq_zero hrest)
  refine ⟨drop, ?_⟩
  rw [below, Int.add_sub_cancel]
  exact congrArg (Decimal.mk · (ofMagnitude k).exponent) hdigits.symm

private theorem exists_drop {p : Nat} (hexact : ofMagnitude k = ⟨n * 10 ^ p, -p⟩)
    (hrest : (ofMagnitude k).digits % Nat.pow 10 drop ≠ 0) :
    ∃ j : Nat, n % 10 ^ j ≠ 0 ∧ below k drop = ⟨n / 10 ^ j, j⟩ ∧ above k drop = ⟨n / 10 ^ j + 1, j⟩ := by
  rw [hexact] at hrest
  obtain ⟨j, rfl⟩ : ∃ j, drop = j + p := by
    refine ⟨drop - p, ?_⟩
    by_contra hle
    have hdvd : 10 ^ drop ∣ n * 10 ^ p := Nat.dvd_mul_left_of_dvd (Nat.pow_dvd_pow 10 (by omega)) n
    exact hrest (Nat.mod_eq_zero_of_dvd hdvd)
  have hpow : Nat.pow 10 (j + p) = 10 ^ j * 10 ^ p := Nat.pow_add 10 j p
  have hten : 0 < 10 ^ p := Nat.pow_pos (by decide)
  have hquotient : n * 10 ^ p / Nat.pow 10 (j + p) = n / 10 ^ j := by
    rw [hpow, Nat.mul_div_mul_right _ _ hten]
  have hexponent : -(p : Int) + ((j + p : Nat) : Int) = j := by omega
  refine ⟨j, ?_, ?_, ?_⟩
  · intro hzero
    apply hrest
    rw [hpow, Nat.mul_mod_mul_right, hzero, Nat.zero_mul]
  · rw [below, hexact, hquotient, hexponent]
  · rw [above, hexact, hquotient, hexponent]

private theorem extends_of_onGrid? (hk : k < topMagnitude) (hn : n ≤ 2 ^ 53)
    (hunits : unitsOfMagnitude k = n * unitsPerOne) (h : onGrid? tie k drop = some d) :
    (ofMagnitude k).Extends d := by
  obtain ⟨hreads, hneighbour⟩ := neighbour_of_onGrid? h
  by_cases hrest : (ofMagnitude k).digits % Nat.pow 10 drop = 0
  · have hextends := extends_below hrest
    have hbelow : (below k drop).readsBackAs k = true :=
      beq_iff_eq.mpr (hextends.magnitude_eq.symm.trans (magnitude_exact hk))
    rcases hneighbour with rfl | ⟨-, hnot⟩
    · exact hextends
    · exact absurd hrest (hnot hbelow)
  · have hplace : naturalPlace n = k := by
      have hround := nearestMagnitude_units (Nat.le_of_lt hk) Nat.one_pos
      rwa [hunits, Nat.mul_one] at hround
    obtain ⟨p, hexact⟩ := exists_exact hunits
    obtain ⟨j, hj, hbelow, habove⟩ := exists_drop hexact hrest
    obtain ⟨hlow, hhigh⟩ := naturalPlace_neighbours_ne hn hj
    rw [hplace] at hlow hhigh
    rcases hneighbour with rfl | ⟨rfl, -⟩
    · rw [hbelow] at hreads
      exact absurd (readsBackAs_whole hreads) hlow
    · rw [habove] at hreads
      exact absurd (readsBackAs_whole hreads) hhigh

private theorem extends_whole {p : Nat} (h : Extends ⟨n * 10 ^ p, -p⟩ d) (hd : d.digits % 10 ≠ 0) :
    Extends ⟨n, 0⟩ d := by
  obtain ⟨zeros, h⟩ := h
  have hdigits : n * 10 ^ p = d.digits * 10 ^ zeros := congrArg digits h
  have hexponent : -(p : Int) = d.exponent - zeros := congrArg exponent h
  obtain ⟨z, rfl⟩ : ∃ z, zeros = z + p := by
    refine ⟨zeros - p, ?_⟩
    by_contra hle
    obtain ⟨more, rfl⟩ : ∃ more, p = more + 1 + zeros := ⟨p - zeros - 1, by omega⟩
    rw [Nat.pow_add, ← Nat.mul_assoc] at hdigits
    have hten := Nat.eq_of_mul_eq_mul_right (Nat.pow_pos (by decide)) hdigits
    apply hd
    rw [← hten, Nat.pow_succ, ← Nat.mul_assoc, Nat.mul_mod_left]
  rw [Nat.pow_add, ← Nat.mul_assoc] at hdigits
  refine ⟨z, ?_⟩
  rw [Nat.eq_of_mul_eq_mul_right (Nat.pow_pos (by decide)) hdigits]
  congr 1
  omega

variable (tie) in
private theorem exists_found (hk : k < topMagnitude) (hn : n ≤ 2 ^ 53)
    (hunits : unitsOfMagnitude k = n * unitsPerOne) : ∃ found, (ofMagnitude k).Extends found ∧
      shortest tie k = dropZeros (Binary64.digitCount (ofMagnitude k).digits) found := by
  refine ⟨_, ?_, shortest.eq_1 tie k⟩
  cases hfound : (List.range 17).findSome? fun i =>
      onGrid? tie k (Binary64.digitCount (ofMagnitude k).digits - (i + 1)) with
  -- Where nothing is found the exact value is taken.
  | none => exact .refl _
  | some d =>
    obtain ⟨i, -, hi⟩ := List.exists_of_findSome?_eq_some hfound
    exact extends_of_onGrid? hk hn hunits hi

private theorem dropZeros_of_extends {exact found : Decimal} (hpos : 0 < exact.digits)
    (h : exact.Extends found) :
    (dropZeros (Binary64.digitCount exact.digits) found).digits % 10 ≠ 0 := by
  obtain ⟨zeros, hzeros⟩ := h
  have hdigits : exact.digits = found.digits * 10 ^ zeros := congrArg digits hzeros
  have hcount : exact.digits < 10 ^ Binary64.digitCount exact.digits :=
    (Binary64.digitCount_le_iff (List.length_pos_iff.mpr Nat.toDigits_ne_nil)).mp (Nat.le_refl _)
  have hfewer : found.digits ≤ exact.digits := by
    rw [hdigits]
    exact Nat.le_mul_of_pos_right _ (Nat.pow_pos (by decide))
  rw [hdigits] at hpos
  exact dropZeros_mod_ten (Nat.pos_of_mul_pos_right hpos) (Nat.lt_of_le_of_lt hfewer hcount)

/-- The shortest decimal of a whole number up to `2^53` is that number without the zeros at its end. -/
theorem shortest_whole (hk : k < topMagnitude) (hpos : 0 < n) (hn : n ≤ 2 ^ 53)
    (hunits : unitsOfMagnitude k = n * unitsPerOne) : Extends ⟨n, 0⟩ (shortest tie k) := by
  obtain ⟨p, hexact⟩ := exists_exact hunits
  obtain ⟨found, hfound, hshortest⟩ := exists_found tie hk hn hunits
  rw [hexact] at hfound hshortest
  rw [hshortest]
  refine extends_whole (hfound.trans (extends_dropZeros _ found)) ?_
  exact dropZeros_of_extends (Nat.mul_pos hpos (Nat.pow_pos (by decide))) hfound

end Decimal

namespace NumberLayout

open Numeral

/-- A layout that writes a whole number positionally writes all of its digits. -/
theorem numeral_whole (layout : NumberLayout) (suffix : Option (List Char)) {n : Nat} {d : Decimal}
    (hpos : 0 < n) (hd : Decimal.Extends ⟨n, 0⟩ d) (hleast : layout.leastPositional ≤ 0)
    (hgreatest : Binary64.digitCount n ≤ layout.greatestPositional + 1) :
    layout.numeral suffix d = ⟨Nat.toDigits 10 n, suffix, none⟩ := by
  obtain ⟨zeros, h⟩ := hd
  have hdigits : n = d.digits * 10 ^ zeros := congrArg Decimal.digits h
  have hexponent : (0 : Int) = d.exponent - zeros := congrArg Decimal.exponent h
  have hpositive : 0 < d.digits := by
    rw [hdigits] at hpos
    exact Nat.pos_of_mul_pos_right hpos
  have hspelled : Nat.toDigits 10 n = Nat.toDigits 10 d.digits ++ List.replicate zeros '0' := by
    rw [hdigits, toDigits_mul_pow hpositive]
  have hlength : 0 < (Nat.toDigits 10 d.digits).length := Nat.length_toDigits_pos
  have hcount : Binary64.digitCount n = (Nat.toDigits 10 d.digits).length + zeros := by
    rw [Binary64.digitCount, hspelled, List.length_append, List.length_replicate]
  have hplaces : d.exponent + (Nat.toDigits 10 d.digits).length - 1 + 1 =
      ((Nat.toDigits 10 d.digits).length + zeros : Nat) := by omega
  rw [numeral]
  rw [if_pos (by omega), hplaces, positionalNumeral, if_neg (by omega), Int.toNat_natCast,
    if_pos (Nat.le_add_right _ _), Nat.add_sub_cancel_left, ← hspelled]

end NumberLayout
end CartCriteria
