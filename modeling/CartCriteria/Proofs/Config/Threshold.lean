import CartCriteria.Proofs.Config.Reload
import CartCriteria.Proofs.Json.StrictTokens
import CartCriteria.Proofs.Numeral.Grammar
import CartCriteria.Proofs.Text.Natural

/-! The thresholds that numbers give. In a strict document these are the numbers that may be typed
as a threshold; a relaxed one has the same and more, but none that is not a binary number first. -/
namespace CartCriteria.Config

private theorem strict_threshold_signed (n : Numeral) :
    strictKind.threshold (.decimal .minus n) = none := by
  rw [strictKind]
  dsimp only
  split
  · rename_i i hi hinteger
    rw [Strict.integer?] at hinteger
    dsimp only at hinteger
    split at hinteger
    · split at hinteger
      · cases hinteger
      · rw [JsonNumber.ofInt?] at hinteger
        split at hinteger
        · cases hinteger
          rw [if_neg (by omega)]
        · cases hinteger
    · cases hinteger
  · rfl

private theorem inRange_iff (v : Nat) :
    (-0x8000000000000000 ≤ (v : Int) ∧ (v : Int) < 0x10000000000000000) ↔ v < UInt64.size := by
  rw [UInt64.size]
  omega

private theorem integer?_digits {sign : Sign} {n : Numeral} (hsign : sign ≠ .minus)
    (hn : n.isWhole = true) :
    Strict.integer? sign n = JsonNumber.ofInt? (Numeral.valueOfDigits n.whole) := by
  rw [Strict.integer?, if_pos hn]
  cases sign with
  | minus => exact absurd rfl hsign
  | none | plus => rfl

private theorem strict_threshold_digits {sign : Sign} {n : Numeral} (hsign : sign ≠ .minus)
    (hn : n.isWhole = true) :
    strictKind.threshold (.decimal sign n) =
      if Numeral.valueOfDigits n.whole < UInt64.size then some (Numeral.valueOfDigits n.whole)
      else none := by
  rw [strictKind]
  dsimp only
  rw [integer?_digits hsign hn, JsonNumber.ofInt?]
  by_cases hfits : Numeral.valueOfDigits n.whole < UInt64.size
  · rw [if_pos hfits, dif_pos ((inRange_iff _).mpr hfits)]
    exact if_pos (Int.natCast_nonneg _)
  · rw [if_neg hfits, dif_neg (mt (inRange_iff _).mp hfits)]

private theorem strict_threshold_not_whole (sign : Sign) {n : Numeral} (hn : n.isWhole = false) :
    strictKind.threshold (.decimal sign n) = none := by
  rw [strictKind]
  dsimp only
  rw [Strict.integer?, if_neg (by simp [hn])]

/-- A number of a strict document is a threshold exactly when it may be typed as one, and the same
one. -/
theorem strict_threshold_eq {text : String} {n : WrittenNumber}
    (h : Strict.scanNumber text.toList = some (n, [])) :
    strictKind.threshold n = (Text.natural text).toOption := by
  obtain ⟨negative, c, tail, numeral, htext, hc, hscan, -, rfl⟩ := Strict.scanNumber_cases h
  -- A minus sign is refused by both, in front of zero too.
  cases negative with
  | true =>
    have hhead : text.toList = '-' :: c :: tail := htext
    rw [Text.natural_of_head hhead (by decide), Text.naturalFrom_of_not_digit rfl]
    exact strict_threshold_signed numeral
  | false =>
    have hhead : text.toList = c :: tail := htext
    rw [Text.natural_of_head hhead (isDigit_ne hc (by decide))]
    have hwhole := Numeral.isWhole_of_scan hscan
    cases hall : (c :: tail).all Char.isDigit with
    | true =>
      rw [hall] at hwhole
      have hdigits := List.all_eq_true.mp hall
      have hvalue : numeral.whole = c :: tail := by
        rw [Numeral.whole_of_scan hscan, List.takeWhile_eq_self_iff]
        exact hdigits
      rw [Text.naturalFrom_of_digits hdigits (by decide), Text.goOn_zero, ← hvalue]
      exact strict_threshold_digits Sign.noConfusion hwhole
    | false =>
      rw [hall] at hwhole
      rw [Text.naturalFrom_of_not_digit hall]
      exact strict_threshold_not_whole .none hwhole

private theorem eq_decimal_of_strict_threshold {n : WrittenNumber} {value : Nat}
    (h : strictKind.threshold n = some value) :
    ∃ sign numeral, n = .decimal sign numeral ∧ sign ≠ .minus ∧ numeral.isWhole = true ∧
      value = Numeral.valueOfDigits numeral.whole ∧ value < UInt64.size := by
  cases n with
  | decimal sign numeral =>
    have hsign : sign ≠ .minus := by
      rintro rfl
      rw [strict_threshold_signed] at h
      cases h
    cases hwhole : numeral.isWhole with
    | false =>
      rw [strict_threshold_not_whole sign hwhole] at h
      cases h
    | true =>
      rw [strict_threshold_digits hsign hwhole] at h
      split at h
      · rename_i hfits
        cases h
        exact ⟨sign, numeral, rfl, hsign, hwhole, rfl, hfits⟩
      · cases h
  | _ => cases h

/-- The threshold that a number gives, if any, fits into 64 bits. -/
theorem strict_threshold_lt {n : WrittenNumber} {value : Nat}
    (h : strictKind.threshold n = some value) : value < UInt64.size := by
  obtain ⟨_, _, -, -, -, -, hfits⟩ := eq_decimal_of_strict_threshold h
  exact hfits

/-- A relaxed document has no threshold that does not fit. -/
theorem relaxed_threshold_lt {n : WrittenNumber} {value : Nat}
    (h : relaxedKind.threshold n = some value) : value < UInt64.size := by
  obtain ⟨x, -, rfl⟩ := Option.map_eq_some_iff.mp h
  exact truncate64_lt x

/-- Up to `2^53` a natural number goes through a binary number unchanged. -/
theorem truncate64_ofNat {value : Nat} (h : value ≤ 2 ^ 53) :
    truncate64 (.ofNat value) = value := by
  have hsize : 2 ^ 53 < UInt64.size := by decide
  have hfits : value < UInt64.size := Nat.lt_of_le_of_lt h hsize
  have hfinite := Binary64.magnitudeOfDecimal_natural_lt_top hfits
  rw [Binary64.magnitudeOfDecimal_natural] at hfinite
  rw [Binary64.ofNat, ← naturalPlace, Binary64.ofMagnitude, dif_pos hfinite, truncate64]
  dsimp only
  rw [if_neg Bool.false_ne_true, units_naturalPlace h, Nat.mul_div_cancel _ unitsPerOne_pos,
    Nat.min_eq_left (Nat.le_sub_one_of_lt hfits)]

/-- A threshold of strict documents is one of relaxed documents, but it goes through a binary
number. -/
theorem relaxed_threshold_of_strict {n : WrittenNumber} {value : Nat}
    (h : strictKind.threshold n = some value) :
    relaxedKind.threshold n = some (truncate64 (.ofNat value)) := by
  obtain ⟨sign, numeral, rfl, hsign, hwhole, rfl, hfits⟩ := eq_decimal_of_strict_threshold h
  have hfinite := Binary64.magnitudeOfDecimal_natural_lt_top hfits
  have hbinary : numeral.toBinary64 (sign = .minus) =
      .ofNat (Numeral.valueOfDigits numeral.whole) := by
    obtain ⟨hfraction, hexponent⟩ := Bool.and_eq_true_iff.mp hwhole
    rw [Numeral.toBinary64_eq, Numeral.decimal, Numeral.writtenExponent,
      Option.isNone_iff_eq_none.mp hfraction, Option.isNone_iff_eq_none.mp hexponent,
      Option.getD_none, List.append_nil, decide_eq_false hsign]
    exact congrArg (Binary64.ofMagnitude false) (Binary64.magnitudeOfDecimal_natural _)
  rw [relaxedKind]
  dsimp only
  rw [relaxedNumber?, Relaxed.finite?, hbinary, Binary64.ofNat, ← naturalPlace,
    ← Binary64.magnitudeOfDecimal_natural, Binary64.ofMagnitude, dif_pos hfinite]
  rfl

end CartCriteria.Config
