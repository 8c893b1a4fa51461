import CartCriteria.Proofs.Json.Written

/-! The strict reading of printed binary64 numbers. It rounds twice and so is not always exact, but it
never fails: only decimals between the two greatest finite numbers and infinity are scaled past
them, and the texts of those two are not. -/
namespace CartCriteria.Strict

open Numeral

private theorem le_ofDigitChars (digits : List Char) (kept : Nat) :
    kept ≤ Nat.ofDigitChars 10 digits kept := by
  rw [Nat.ofDigitChars_eq_ofDigitChars_zero]
  have := Nat.le_mul_of_pos_left kept (Nat.pow_pos (by decide : 0 < 10) (n := digits.length))
  omega

private theorem keepDigits_all {digits : List Char} : ∀ {kept : Nat},
    Nat.ofDigitChars 10 digits kept < UInt64.size →
      keepDigits kept digits = (Nat.ofDigitChars 10 digits kept, []) := by
  induction digits with
  | nil =>
    intro kept _
    rw [keepDigits, Nat.ofDigitChars_nil]
  | cons c rest ih =>
    intro kept h
    rw [Nat.ofDigitChars_cons, Nat.mul_comm] at h ⊢
    have hnext : kept * 10 + (c.toNat - 0x30) < UInt64.size :=
      Nat.lt_of_le_of_lt (le_ofDigitChars rest _) h
    rw [keepDigits, if_pos hnext]
    exact ih h

private theorem keepDigits_take (digits : List Char) : ∀ {kept : Nat}, kept < UInt64.size →
    ∃ taken left, digits = taken ++ left ∧
      keepDigits kept digits = (Nat.ofDigitChars 10 taken kept, left) ∧
        Nat.ofDigitChars 10 taken kept < UInt64.size := by
  induction digits with
  | nil =>
    intro kept hkept
    exact ⟨[], [], rfl, by rw [keepDigits, Nat.ofDigitChars_nil], by rwa [Nat.ofDigitChars_nil]⟩
  | cons c rest ih =>
    intro kept hkept
    by_cases hnext : kept * 10 + (c.toNat - 0x30) < UInt64.size
    · obtain ⟨taken, left, hrest, hkeep, hfits⟩ := ih hnext
      rw [Nat.mul_comm kept 10] at hkeep hfits hnext
      refine ⟨c :: taken, left, by rw [hrest, List.cons_append], ?_, ?_⟩
      · rw [keepDigits, Nat.mul_comm kept 10, if_pos hnext, hkeep, Nat.ofDigitChars_cons]
        rfl
      · rwa [Nat.ofDigitChars_cons]
    · exact ⟨[], c :: rest, rfl, by rw [keepDigits, if_neg hnext, Nat.ofDigitChars_nil],
        by rwa [Nat.ofDigitChars_nil]⟩

private theorem magnitude?_eq {n : Numeral} (hwhole : valueOfDigits n.whole < UInt64.size) :
    ∃ kept dropped : Nat, kept < UInt64.size ∧ kept * 10 ^ dropped ≤ n.decimal.digits ∧
      magnitude? n = scaleMagnitude? (nearestMagnitude (kept * unitsPerOne) 1)
        (n.decimal.exponent + dropped) := by
  rw [valueOfDigits_eq] at hwhole
  obtain ⟨taken, left, hfraction, hkeep, hfits⟩ := keepDigits_take (n.fraction.getD []) hwhole
  refine ⟨Nat.ofDigitChars 10 taken (Nat.ofDigitChars 10 n.whole 0), left.length, hfits, ?_, ?_⟩
  · rw [decimal, valueOfDigits_eq, hfraction, Nat.ofDigitChars_append, Nat.ofDigitChars_append,
      Nat.ofDigitChars_eq_ofDigitChars_zero (l := left), Nat.mul_comm]
    exact Nat.le_add_right _ _
  · rw [magnitude?, keepDigits_all hwhole]
    dsimp only
    rw [hkeep, decimal, hfraction]
    dsimp only
    rw [List.length_append, List.length_nil]
    congr 1
    omega

private def lastSafe : Nat := topMagnitude - 2

/-- The greatest number of 64 bits whose product with a power of ten does not pass a magnitude. -/
private def mostKept (k exponent : Nat) : Nat :=
  min UInt64.size (unitsOfMagnitude k / unitsPerOne / 10 ^ exponent)

private theorem unitsPerOne_le_one :
    unitsPerOne ≤ unitsOfMagnitude (Binary64.magnitudeOfDecimal 1 (0 : Nat)) := by
  decide +kernel

private theorem units_lastSafe_le : unitsOfMagnitude lastSafe ≤ 10 ^ 309 * unitsPerOne := by
  decide +kernel

private theorem size_le_mostKept : UInt64.size ≤ mostKept lastSafe (288 + 0) := by
  decide +kernel

private theorem units_mostKept : ∀ more < 21,
    unitsOfMagnitude (nearestMagnitude (mostKept lastSafe (288 + more) * unitsPerOne) 1) *
      unitsOfMagnitude (Binary64.magnitudeOfDecimal 1 (288 + more : Nat)) ≤
        unitsOfMagnitude (topMagnitude - 1) * unitsPerOne := by
  decide +kernel

private theorem mulMagnitude_lt_top_of_units {a b c d : Nat} (hac : a ≤ c) (hbd : b ≤ d)
    (hunits : unitsOfMagnitude c * unitsOfMagnitude d ≤
      unitsOfMagnitude (topMagnitude - 1) * unitsPerOne) : mulMagnitude a b < topMagnitude := by
  have hfactors := Nat.mul_le_mul (unitsOfMagnitude_strictMono.monotone hac)
    (unitsOfMagnitude_strictMono.monotone hbd)
  have hmono := nearestMagnitude_mono unitsPerOne_pos unitsPerOne_pos
    (Nat.mul_le_mul_right unitsPerOne (Nat.le_trans hfactors hunits))
  rw [nearestMagnitude_units (Nat.sub_le _ _) unitsPerOne_pos] at hmono
  exact Nat.lt_of_le_of_lt hmono (by decide)

private theorem divMagnitude_le {a b : Nat} (ha : a ≤ topMagnitude)
    (hb : unitsPerOne ≤ unitsOfMagnitude b) : divMagnitude a b ≤ a := by
  have hmono := nearestMagnitude_mono (Nat.lt_of_lt_of_le unitsPerOne_pos hb) unitsPerOne_pos
    (Nat.mul_le_mul_left (unitsOfMagnitude a * unitsPerOne) hb)
  rw [nearestMagnitude_units ha unitsPerOne_pos] at hmono
  exact hmono

private theorem unitsPerOne_le_tenPower (size : Nat) (h : size < 309) :
    unitsPerOne ≤ unitsOfMagnitude (Binary64.magnitudeOfDecimal 1 size) :=
  Nat.le_trans unitsPerOne_le_one
    (unitsOfMagnitude_strictMono.monotone
      (Binary64.magnitudeOfDecimal_tenPower_mono (Nat.zero_le size) h))

private theorem divideTimes_le {k : Nat} (hk : k ≤ topMagnitude) (times : Nat) :
    divideTimes times k ≤ k := by
  induction times generalizing k with
  | zero => exact Nat.le_refl k
  | succ times ih =>
    rw [divideTimes]
    split
    · exact Nat.zero_le k
    · have hstep := divMagnitude_le hk (unitsPerOne_le_tenPower 308 (by decide))
      exact Nat.le_trans (ih (Nat.le_trans hstep hk)) hstep

private theorem mulMagnitude_lt_top {kept exponent : Nat} (hkept : kept < UInt64.size)
    (hexponent : exponent < 309)
    (hbelow : kept * 10 ^ exponent * unitsPerOne < unitsOfMagnitude lastSafe) :
    mulMagnitude (nearestMagnitude (kept * unitsPerOne) 1)
      (Binary64.magnitudeOfDecimal 1 exponent) < topMagnitude := by
  obtain ⟨more, hmore, hmost, hpower⟩ : ∃ more < 21,
      kept ≤ mostKept lastSafe (288 + more) ∧ exponent ≤ 288 + more := by
    rcases Nat.le_total exponent 288 with hlow | hhigh
    · exact ⟨0, by decide, Nat.le_trans (Nat.le_of_lt hkept) size_le_mostKept, hlow⟩
    · obtain ⟨more, rfl⟩ := Nat.exists_eq_add_of_le hhigh
      refine ⟨more, by omega, Nat.le_min.mpr ⟨Nat.le_of_lt hkept, ?_⟩, Nat.le_refl _⟩
      rw [Nat.le_div_iff_mul_le (Nat.pow_pos (by decide)), Nat.le_div_iff_mul_le unitsPerOne_pos]
      exact Nat.le_of_lt hbelow
  exact mulMagnitude_lt_top_of_units (naturalPlace_mono hmost)
    (Binary64.magnitudeOfDecimal_tenPower_mono hpower (by omega)) (units_mostKept more hmore)

private theorem exponent_lt {kept exponent : Nat} (hkept : 0 < kept)
    (hbelow : kept * 10 ^ exponent * unitsPerOne < unitsOfMagnitude lastSafe) : exponent < 309 := by
  by_contra hge
  have hpow : 10 ^ 309 ≤ kept * 10 ^ exponent :=
    Nat.le_trans (Nat.pow_le_pow_right (by decide) (Nat.not_lt.mp hge))
      (Nat.le_mul_of_pos_left _ hkept)
  have hunits := Nat.mul_le_mul_right unitsPerOne hpow
  exact absurd hbelow (Nat.not_lt.mpr (Nat.le_trans units_lastSafe_le hunits))

private theorem scaleMagnitude?_lt_top {kept : Nat} {exponent : Int} (hkept : kept < UInt64.size)
    (hbelow : 0 ≤ exponent →
      kept * 10 ^ exponent.toNat * unitsPerOne < unitsOfMagnitude lastSafe) :
    ∃ k, scaleMagnitude? (nearestMagnitude (kept * unitsPerOne) 1) exponent = some k ∧
      k < topMagnitude := by
  rw [scaleMagnitude?]
  split
  · rename_i hexponent
    have hbelow := hbelow hexponent
    obtain ⟨exponent, rfl⟩ := Int.eq_ofNat_of_zero_le hexponent
    rw [Int.toNat_natCast] at hbelow
    split
    · exact ⟨0, rfl, by decide⟩
    · rename_i hne
      have hpos : 0 < kept := by
        apply Nat.pos_of_ne_zero
        rintro rfl
        rw [Nat.zero_mul] at hne
        exact hne (by decide)
      have hexponent := exponent_lt hpos hbelow
      have hproduct := mulMagnitude_lt_top hkept hexponent hbelow
      rw [if_neg (by omega)]
      dsimp only
      rw [if_pos hproduct]
      exact ⟨_, rfl, hproduct⟩
  · have hstart := naturalPlace_mono (Nat.le_of_lt hkept)
    have htimes := divideTimes_le (nearestMagnitude_le (kept * unitsPerOne) 1)
      (((-exponent).toNat - 1) / 308)
    have hquotient := divMagnitude_le (Nat.le_trans htimes (nearestMagnitude_le _ 1))
      (unitsPerOne_le_tenPower ((-exponent).toNat - 308 * (((-exponent).toNat - 1) / 308))
        (by omega))
    exact ⟨_, rfl, Nat.lt_of_le_of_lt (Nat.le_trans hquotient (Nat.le_trans htimes hstart))
      Binary64.nearestMagnitude_size⟩

-- The unit is a variable, for it is too large to be looked at.
private theorem kept_lt {kept dropped digits unit bound : Nat} {exponent : Int}
    (hkept : kept * 10 ^ dropped ≤ digits) (hexponent : 0 ≤ exponent + dropped)
    (hbelow : digits * Nat.pow 10 exponent.toNat * unit < bound * Nat.pow 10 (-exponent).toNat) :
    kept * 10 ^ (exponent + dropped).toNat * unit < bound := by
  have hpow : 10 ^ (exponent + dropped).toNat * 10 ^ (-exponent).toNat =
      10 ^ dropped * 10 ^ exponent.toNat := by
    rw [← Nat.pow_add, ← Nat.pow_add]
    congr 1
    omega
  simp only [Nat.pow_eq] at hbelow
  apply Nat.lt_of_mul_lt_mul_right (a := 10 ^ (-exponent).toNat)
  calc kept * 10 ^ (exponent + dropped).toNat * unit * 10 ^ (-exponent).toNat
    _ = kept * (10 ^ (exponent + dropped).toNat * 10 ^ (-exponent).toNat) * unit := by ring
    _ = kept * 10 ^ dropped * 10 ^ exponent.toNat * unit := by rw [hpow, ← Nat.mul_assoc]
    _ ≤ digits * 10 ^ exponent.toNat * unit :=
      Nat.mul_le_mul_right _ (Nat.mul_le_mul_right _ hkept)
    _ < bound * 10 ^ (-exponent).toNat := hbelow

private theorem magnitude?_lt_top {n : Numeral} (hwhole : valueOfDigits n.whole < UInt64.size)
    (hsafe : Binary64.magnitudeOfDecimal n.decimal.digits n.decimal.exponent < lastSafe) :
    ∃ k, magnitude? n = some k ∧ k < topMagnitude := by
  obtain ⟨kept, dropped, hfits, hkept, heq⟩ := magnitude?_eq hwhole
  have hbelow := Binary64.lt_units_of_magnitude_lt (Nat.sub_le _ _) hsafe
  rw [heq]
  exact scaleMagnitude?_lt_top hfits fun hexponent => kept_lt hkept hexponent hbelow

private theorem whole_lt (x : FiniteBinary64) :
    valueOfDigits (JsonNumber.binary x).numeral.whole < UInt64.size := by
  have hlength : (JsonNumber.binary x).numeral.whole.length ≤ 16 := by
    rw [JsonNumber.numeral]
    split
    · decide
    · exact NumberLayout.length_whole_numeral_le _ _ _
  calc valueOfDigits (JsonNumber.binary x).numeral.whole
    _ < 10 ^ (JsonNumber.binary x).numeral.whole.length :=
      valueOfDigits_lt (JsonNumber.binary x).numeral_isPlain.whole.isDigit
    _ ≤ 10 ^ 16 := Nat.pow_le_pow_right (by decide) hlength
    _ ≤ UInt64.size := by decide

private theorem shortest_greatest : ∀ below < 2,
    Decimal.shortest .even (lastSafe + below) = ⟨17976931348623155 + 2 * below, 292⟩ := by
  decide +kernel

private theorem magnitude?_greatest : ∀ below < 2,
    (magnitude? (Json.numberLayout.numeral (some ['0'])
      ⟨17976931348623155 + 2 * below, 292⟩)).any (· < topMagnitude) = true := by
  decide +kernel

private theorem magnitude?_numeral_lt_top (x : FiniteBinary64) :
    ∃ k, magnitude? (JsonNumber.binary x).numeral = some k ∧ k < topMagnitude := by
  rcases Nat.lt_or_ge x.magnitude lastSafe with hsafe | hlarge
  · rw [← JsonNumber.magnitude_numeral x] at hsafe
    exact magnitude?_lt_top (whole_lt x) hsafe
  · obtain ⟨below, hbelow⟩ := Nat.exists_eq_add_of_le hlarge
    have hfinite := x.isFinite
    have htwo : below < 2 := by
      unfold lastSafe at hbelow
      omega
    have hgreatest := magnitude?_greatest below htwo
    have hne : ¬ x.isZero = true := by
      intro hzero
      rw [beq_iff_eq.mp hzero] at hlarge
      exact absurd hlarge (by decide)
    obtain ⟨k, hk, hlt⟩ := (Option.any_eq_true _ _).mp hgreatest
    refine ⟨k, ?_, of_decide_eq_true hlt⟩
    rw [JsonNumber.numeral, if_neg hne, hbelow, shortest_greatest below htwo, hk]

/-- The text of every binary64 number is read as one, not always the same one. -/
theorem number?_binary_isSome (x : FiniteBinary64) :
    ∃ y, number? (JsonNumber.binary x).spelling = some (.binary y) := by
  obtain ⟨k, hk, hfinite⟩ := magnitude?_numeral_lt_top x
  have hinteger : ∀ sign, integer? sign (JsonNumber.binary x).numeral = none := by
    intro sign
    rw [integer?, if_neg (by rw [JsonNumber.isWhole_binary]; decide)]
  rw [JsonNumber.spelling, number?, hinteger, hk]
  dsimp only [Option.bind_eq_bind, Option.bind_some]
  rw [Binary64.ofMagnitude, dif_pos hfinite]
  exact ⟨_, rfl⟩

/-- Integers are read again as they are. -/
theorem keeps_integer {n : Int} (hn : -0x8000000000000000 ≤ n ∧ n < 0x10000000000000000) :
    Document.keeps reading (.integer n hn) = true := by
  rw [Document.keeps_iff]
  change (number? (JsonNumber.integer n hn).spelling).map Json.number = _
  rw [number?_integer]
  rfl

/-- Every number is read again as a number. -/
theorem rereads_eq : Document.rereads reading = fun _ => true := by
  funext n
  change ((number? n.spelling).map Json.number).isSome = true
  cases n with
  | integer n hn =>
    rw [number?_integer]
    rfl
  | binary x =>
    obtain ⟨y, hy⟩ := number?_binary_isSome x
    rw [hy]
    rfl

end CartCriteria.Strict
