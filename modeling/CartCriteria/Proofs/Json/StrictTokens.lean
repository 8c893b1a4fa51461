import CartCriteria.Proofs.Json.PrettyRelaxed
import CartCriteria.Proofs.Json.PrettyStrict

/-! The tokens of strict text read as relaxed: strings, numbers and blanks. A string with a
separator in it is none there, and a number that an `x` follows may be another one. -/
namespace CartCriteria

open Text (isRelaxedBlank isLineTerminator)

/-- Whether a piece of a string is no separator; one that is written as an escape does no harm. -/
def StringPiece.isLegible : StringPiece → Bool
  | char c => !Relaxed.isSeparator c
  | unit _ => true

namespace Strict

private theorem simpleEscape?_relaxed {e c : Char} (h : simpleEscape? e = some c) :
    Relaxed.simpleEscape? e = some c ∧ isLineTerminator e = false ∧ e ≠ 'u' ∧ e ≠ 'x' ∧ e ≠ '\r' ∧
      Relaxed.isSeparator c = false := by
  rw [simpleEscape?.eq_def] at h
  split at h
  all_goals cases h
  all_goals decide

private theorem isLegible_unitOfHex? {a b c d : Char} {piece : StringPiece}
    (h : StringPiece.unitOfHex? a b c d = some piece) : piece.isLegible = true := by
  simp only [StringPiece.unitOfHex?, Option.bind_eq_bind, Option.bind_eq_some_iff,
    Option.pure_def, Option.some.injEq] at h
  obtain ⟨_, -, _, -, _, -, _, -, rfl⟩ := h
  rfl

private theorem isLineTerminator_of_printed {c : Char} (h : ¬ c.toNat < 0x20) :
    isLineTerminator c = Relaxed.isSeparator c := by
  have hline : c ≠ '\n' := by
    rintro rfl
    exact h (by decide)
  have hreturn : c ≠ '\r' := by
    rintro rfl
    exact h (by decide)
  rw [isLineTerminator, Relaxed.isSeparator, beq_false_of_ne hline, beq_false_of_ne hreturn]
  rfl

/-- A strict string is scanned alike, unless there is a separator in it. -/
theorem scanString_relaxed {cs rest : List Char} {pieces : List StringPiece}
    (h : scanString cs = some (pieces, rest)) :
    Relaxed.scanString '"' cs =
      if pieces.all StringPiece.isLegible then some (pieces, rest) else none := by
  induction cs using scanString.induct generalizing pieces with
  | case1 => cases h
  | case2 rest =>
    cases h
    rfl
  | case3 a b c d rest ih =>
    rw [scanString] at h
    obtain ⟨piece, hpiece, h⟩ := Option.bind_eq_some_iff.mp h
    obtain ⟨⟨more, tail⟩, hmore, h⟩ := Option.bind_eq_some_iff.mp h
    cases h
    rw [Relaxed.scanString, hpiece, ih hmore, List.all_cons, isLegible_unitOfHex? hpiece,
      Bool.true_and]
    split <;> rfl
  | case4 e rest hne ih =>
    rw [scanString] at h
    · obtain ⟨c, hc, h⟩ := Option.bind_eq_some_iff.mp h
      obtain ⟨⟨more, tail⟩, hmore, h⟩ := Option.bind_eq_some_iff.mp h
      cases h
      obtain ⟨hescape, hline, hu, hx, hreturn, hsep⟩ := simpleEscape?_relaxed hc
      rw [Relaxed.scanString, hline, if_neg Bool.false_ne_true, hescape, ih hmore, List.all_cons,
        StringPiece.isLegible, hsep, Bool.not_false, Bool.true_and]
      · split <;> rfl
      · exact fun _ _ _ _ _ h => absurd h hu
      · exact fun _ _ _ h => absurd h hx
      · exact fun _ h => absurd h hreturn
    · exact hne
  | case5 c rest hquote hu hescape hcontrol =>
    rw [scanString, if_pos hcontrol] at h
    · cases h
    · exact hquote
    · exact hu
    · exact hescape
  | case6 c rest hquote hu hescape hcontrol ih =>
    rw [scanString, if_neg hcontrol] at h
    · obtain ⟨⟨more, tail⟩, hmore, h⟩ := Option.bind_eq_some_iff.mp h
      cases h
      rw [Relaxed.scanString, if_neg hquote, List.all_cons, StringPiece.isLegible,
        isLineTerminator_of_printed (not_or.mp hcontrol).1]
      · by_cases hsep : Relaxed.isSeparator c = true
        · rw [if_pos (.inr hsep), hsep]
          rfl
        · rw [if_neg (not_or.mpr ⟨(not_or.mp hcontrol).2, hsep⟩), ih hmore,
            Bool.eq_false_iff.mpr hsep, Bool.not_false, Bool.true_and]
          split <;> rfl
      · exact hu
      · exact fun _ _ _ h => absurd h (not_or.mp hcontrol).2
      · exact fun _ h => absurd h (not_or.mp hcontrol).2
      · exact hescape
    · exact hquote
    · exact hu
    · exact hescape

private theorem scan_zero {x : Char} (hx : x = 'x' ∨ x = 'X') (cs : List Char) :
    Numeral.scan ('0' :: x :: cs) = some (⟨['0'], none, none⟩, x :: cs) := by
  rcases hx with rfl | rfl <;> rfl

/-- How a number is scanned: a sign perhaps, a digit and the rest of a numeral. -/
theorem scanNumber_cases {cs rest : List Char} {n : WrittenNumber}
    (h : scanNumber cs = some (n, rest)) :
    ∃ negative c tail numeral, cs = (Sign.ofNegative negative).chars ++ c :: tail ∧
      c.isDigit = true ∧ Numeral.scan (c :: tail) = some (numeral, rest) ∧
      numeral.hasPlainWhole = true ∧ n = .decimal (.ofNegative negative) numeral := by
  have hsigned : ∃ negative digits, cs = (Sign.ofNegative negative).chars ++ digits ∧
      ∃ numeral, Numeral.scan digits = some (numeral, rest) ∧ numeral.hasPlainWhole = true ∧
        n = .decimal (.ofNegative negative) numeral := by
    rw [scanNumber.eq_def] at h
    split at h
    rename_i sign digits hsign
    obtain ⟨⟨numeral, tail⟩, hscan, h⟩ := Option.bind_eq_some_iff.mp h
    dsimp only at h
    split at h
    · rename_i hplain
      cases h
      have hwhole := (Bool.and_eq_true_iff.mp hplain).1
      split at hsign
      · cases hsign
        exact ⟨true, _, rfl, numeral, hscan, hwhole, rfl⟩
      · cases hsign
        exact ⟨false, _, rfl, numeral, hscan, hwhole, rfl⟩
    · cases h
  obtain ⟨negative, digits, rfl, numeral, hscan, hplain, rfl⟩ := hsigned
  -- The digits in front of the point are the first of all, and there are some.
  have hwhole := Numeral.whole_of_scan hscan
  cases digits with
  | nil =>
    rw [Numeral.hasPlainWhole, hwhole] at hplain
    cases hplain
  | cons c tail =>
    refine ⟨negative, c, tail, numeral, rfl, ?_, hscan, hplain, rfl⟩
    cases hc : c.isDigit with
    | true => rfl
    | false =>
      rw [List.takeWhile_cons_of_neg (by simp [hc])] at hwhole
      rw [Numeral.hasPlainWhole, hwhole] at hplain
      cases hplain

/-- What is read as a number begins with a minus or a digit. -/
theorem startsNumber_of_scanNumber {cs rest : List Char} {n : WrittenNumber}
    (h : scanNumber cs = some (n, rest)) :
    ∃ c tail, cs = c :: tail ∧ (c = '-' ∨ c.isDigit = true) := by
  obtain ⟨negative, c, tail, -, rfl, hc, -⟩ := scanNumber_cases h
  cases negative with
  | true => exact ⟨'-', _, rfl, .inl rfl⟩
  | false => exact ⟨c, _, rfl, .inr hc⟩

/-- A strict number is scanned alike, unless what follows makes it a hexadecimal one. -/
theorem scanNumber_relaxed {cs rest : List Char} {n : WrittenNumber}
    (h : scanNumber cs = some (n, rest)) (hrest : ∀ c ∈ rest.head?, c ≠ 'x' ∧ c ≠ 'X') :
    Relaxed.scanNumber cs = some (n, rest) := by
  obtain ⟨negative, c, tail, numeral, rfl, hc, hscan, hplain, rfl⟩ := scanNumber_cases h
  have hhead : ∀ x ∈ (c :: tail).head?, x ≠ '-' ∧ x ≠ '+' := by
    rintro x hx
    cases hx
    exact ⟨isDigit_ne hc (by decide), isDigit_ne hc (by decide)⟩
  have hzero : c = '0' → ∀ x ∈ tail.head?, x ≠ 'x' ∧ x ≠ 'X' := by
    rintro rfl x hx
    obtain ⟨more, rfl⟩ := List.head?_eq_some_iff.mp hx
    rw [← not_or]
    intro hmark
    rw [scan_zero hmark] at hscan
    cases hscan
    exact not_or.mpr (hrest x rfl) hmark
  rw [Relaxed.scanNumber_sign negative hhead, Relaxed.scanUnsigned_eq hc hzero,
    Relaxed.scanDecimal, hscan]
  simp [hplain]

private theorem isRelaxedBlank_of_isBlank {c : Char} (h : isBlank c = true) :
    isRelaxedBlank c = true := by
  simp only [isBlank, Bool.or_eq_true, beq_iff_eq] at h
  rcases h with ((rfl | rfl) | rfl) | rfl <;> decide

/-- In front of what is neither a blank nor a comment, the same is skipped. -/
theorem skipFiller_eq {cs rest : List Char} (h : skipBlanks cs = rest)
    (hrest : ∀ c ∈ rest.head?, isRelaxedBlank c = false ∧ c ≠ '/') :
    Relaxed.skipFiller cs = rest := by
  induction cs with
  | nil =>
    cases h
    rfl
  | cons c cs ih =>
    rw [skipBlanks, List.dropWhile_cons] at h
    split at h
    · rename_i hblank
      rw [Relaxed.skipFiller_blank (isRelaxedBlank_of_isBlank hblank)]
      exact ih h
    · subst h
      obtain ⟨hblank, hslash⟩ := hrest c rfl
      exact Relaxed.skipFiller_self hblank hslash cs

/-- Blanks go on no number, so what they stand in front of decides. -/
theorem not_mark_of_skipBlanks {cs rest : List Char} (h : skipBlanks cs = rest)
    (hrest : ∀ c ∈ rest.head?, c ≠ 'x' ∧ c ≠ 'X') : ∀ c ∈ cs.head?, c ≠ 'x' ∧ c ≠ 'X' := by
  rintro c hc
  obtain ⟨more, rfl⟩ := List.head?_eq_some_iff.mp hc
  rw [skipBlanks, List.dropWhile_cons] at h
  split at h
  · rename_i hblank
    simp only [isBlank, Bool.or_eq_true, beq_iff_eq] at hblank
    rcases hblank with ((rfl | rfl) | rfl) | rfl <;> decide
  · cases h
    exact hrest c hc

/-- Blanks hide no mark of a hexadecimal number in front of another token. -/
theorem not_mark_of_token {cs tail : List Char} {token : Char}
    (h : skipBlanks cs = token :: tail) (htoken : token ≠ 'x' ∧ token ≠ 'X') :
    ∀ c ∈ cs.head?, c ≠ 'x' ∧ c ≠ 'X' := by
  apply not_mark_of_skipBlanks h
  rintro c hc
  cases hc
  exact htoken

end Strict
end CartCriteria
