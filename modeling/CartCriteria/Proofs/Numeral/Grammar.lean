import CartCriteria.Proofs.Json.NumberText
import Mathlib.Data.List.TakeWhile

/-! The grammar of unsigned decimal literals, apart from the scanner. The scanner stops at the first
character that cannot go on, so it uses up a text only if the text is a literal as a whole; zeros in
front and a point without digits on one side are no fault here. -/
namespace CartCriteria

namespace Sign

/-- A sign in front is taken off at most once. -/
theorem exists_chars_append (cs : List Char) : ∃ (sign : Sign) (rest : List Char),
    cs = sign.chars ++ rest ∧ (sign = none → ∀ c ∈ rest.head?, c ≠ '+' ∧ c ≠ '-') := by
  by_cases hplus : cs.head? = some '+'
  · obtain ⟨rest, rfl⟩ := List.head?_eq_some_iff.mp hplus
    exact ⟨plus, rest, rfl, nofun⟩
  by_cases hminus : cs.head? = some '-'
  · obtain ⟨rest, rfl⟩ := List.head?_eq_some_iff.mp hminus
    exact ⟨minus, rest, rfl, nofun⟩
  refine ⟨none, cs, rfl, fun _ c hc => ⟨?_, ?_⟩⟩
  · rintro rfl
    exact hplus hc
  · rintro rfl
    exact hminus hc

end Sign

namespace Numeral

/-- The digits in front of an exponent, with a point among them or at either end. -/
inductive IsMantissa : List Char → Prop
  | whole {digits : List Char} (hdigits : IsDigits digits) : IsMantissa digits
  | pointed {digits fraction : List Char} (hdigits : IsDigits digits)
      (hfraction : ∀ c ∈ fraction, c.isDigit = true) : IsMantissa (digits ++ '.' :: fraction)
  | fraction {digits : List Char} (hdigits : IsDigits digits) : IsMantissa ('.' :: digits)

/-- Nothing, or a mark, perhaps a sign, and digits. -/
inductive IsExponent : List Char → Prop
  | absent : IsExponent []
  | written {mark : Char} {digits : List Char} (hmark : mark = 'e' ∨ mark = 'E') (sign : Sign)
      (hdigits : IsDigits digits) : IsExponent (mark :: (sign.chars ++ digits))

private theorem scanExponent_written {mark : Char} {rest : List Char}
    (hmark : mark = 'e' ∨ mark = 'E') (sign : Sign)
    (hrest : sign = .none → ∀ c ∈ rest.head?, c ≠ '+' ∧ c ≠ '-') :
    scanExponent (mark :: (sign.chars ++ rest)) =
      if (rest.takeWhile Char.isDigit).isEmpty then none
      else some (some (sign == .minus, rest.takeWhile Char.isDigit), rest.dropWhile Char.isDigit) := by
  cases sign with
  | plus => exact if_pos hmark
  | minus => exact if_pos hmark
  | none =>
    have hhead := hrest rfl
    rw [Sign.chars, List.nil_append, scanExponent, if_pos hmark]
    · rfl
    · rintro tail rfl
      exact absurd rfl (hhead '+' rfl).1
    · rintro tail rfl
      exact absurd rfl (hhead '-' rfl).2

private theorem isDigits_of_dropWhile {cs : List Char}
    (hne : ¬ (cs.takeWhile Char.isDigit).isEmpty = true) (hdrop : cs.dropWhile Char.isDigit = []) :
    IsDigits cs where
  ne_nil := by
    rintro rfl
    exact hne rfl
  isDigit := List.dropWhile_eq_nil_iff.mp hdrop

private theorem exists_scanExponent_iff {cs : List Char} :
    (∃ e, scanExponent cs = some (e, [])) ↔ IsExponent cs := by
  constructor
  · rintro ⟨e, hscan⟩
    cases cs with
    | nil => exact .absent
    | cons c cs =>
      by_cases hmark : c = 'e' ∨ c = 'E'
      · obtain ⟨sign, rest, rfl, hrest⟩ := Sign.exists_chars_append cs
        rw [scanExponent_written hmark sign hrest] at hscan
        split at hscan
        · cases hscan
        · rename_i hne
          simp only [Option.some.injEq, Prod.mk.injEq] at hscan
          exact .written hmark sign (isDigits_of_dropWhile hne hscan.2)
      · cases (if_neg hmark).symm.trans hscan
  · intro h
    cases h with
    | absent => exact ⟨none, rfl⟩
    | @written mark digits hmark sign hdigits =>
      obtain ⟨htake, hdrop⟩ := @span_digits digits [] hdigits.isDigit nofun
      rw [List.append_nil] at htake hdrop
      have hhead : ∀ c ∈ digits.head?, c ≠ '+' ∧ c ≠ '-' := by
        intro c hc
        have hdigit := hdigits.isDigit c (List.mem_of_head? hc)
        constructor <;> rintro rfl <;> cases hdigit
      rw [scanExponent_written hmark sign fun _ => hhead, htake, hdrop,
        if_neg (by simpa using hdigits.ne_nil)]
      exact ⟨_, rfl⟩

private theorem IsExponent.head {cs : List Char} (h : IsExponent cs) :
    ∀ c ∈ cs.head?, c.isDigit = false ∧ c ≠ '.' := by
  intro c hc
  cases h with
  | absent => cases hc
  | written hmark sign hdigits =>
    cases hc
    rcases hmark with rfl | rfl <;> decide

private theorem exists_digits_append (cs : List Char) : ∃ digits rest, cs = digits ++ rest ∧
    (∀ c ∈ digits, c.isDigit = true) ∧ ∀ c ∈ rest.head?, c.isDigit = false := by
  refine ⟨cs.takeWhile Char.isDigit, cs.dropWhile Char.isDigit, List.takeWhile_append_dropWhile.symm,
    fun c hc => List.mem_takeWhile_imp hc, ?_⟩
  intro c hc
  have hhead := List.head?_dropWhile_not Char.isDigit cs
  rw [Option.mem_def.mp hc] at hhead
  exact hhead

private theorem exists_of_scan {empty : Bool} {cs : List Char} {n : Numeral}
    {make : Option (Bool × List Char) → Numeral}
    (h : (if empty then none
      else (scanExponent cs).map fun (exponent, tail) => (make exponent, tail)) = some (n, [])) :
    ¬ empty = true ∧ ∃ e, scanExponent cs = some (e, []) := by
  split at h
  · cases h
  · rename_i hempty
    obtain ⟨⟨e, tail⟩, he, hpair⟩ := Option.map_eq_some_iff.mp h
    cases hpair
    exact ⟨hempty, e, he⟩

/-- The scanner uses up a text exactly if it is a mantissa with an exponent. -/
theorem exists_scan_iff {cs : List Char} : (∃ n, scan cs = some (n, [])) ↔
    ∃ mantissa exponent, cs = mantissa ++ exponent ∧ IsMantissa mantissa ∧ IsExponent exponent := by
  constructor
  · rintro ⟨n, hscan⟩
    -- The runs of digits are the longest there are, so a point behind the first belongs to it.
    obtain ⟨digits, rest, rfl, hdigits, hrest⟩ := exists_digits_append cs
    by_cases hpoint : rest.head? = some '.'
    · obtain ⟨behind, rfl⟩ := List.head?_eq_some_iff.mp hpoint
      obtain ⟨fraction, exponent, rfl, hfraction, hexponent⟩ := exists_digits_append behind
      rw [scan_pointed hdigits hfraction hexponent] at hscan
      obtain ⟨hne, e, he⟩ := exists_of_scan hscan
      refine ⟨digits ++ '.' :: fraction, exponent, by simp, ?_, exists_scanExponent_iff.mp ⟨e, he⟩⟩
      by_cases hwhole : digits = []
      · subst hwhole
        exact .fraction ⟨by simpa using hne, hfraction⟩
      · exact .pointed ⟨hwhole, hdigits⟩ hfraction
    · have hhead : ∀ c ∈ rest.head?, c.isDigit = false ∧ c ≠ '.' := by
        refine fun c hc => ⟨hrest c hc, ?_⟩
        rintro rfl
        exact hpoint hc
      rw [scan_whole hdigits hhead] at hscan
      obtain ⟨hne, e, he⟩ := exists_of_scan hscan
      exact ⟨digits, rest, rfl, .whole ⟨by simpa using hne, hdigits⟩,
        exists_scanExponent_iff.mp ⟨e, he⟩⟩
  · rintro ⟨mantissa, exponent, rfl, hmantissa, hexponent⟩
    obtain ⟨e, he⟩ := exists_scanExponent_iff.mpr hexponent
    cases hmantissa with
    | whole hdigits =>
      rw [scan_whole hdigits.isDigit hexponent.head, if_neg (by simpa using hdigits.ne_nil), he]
      exact ⟨_, rfl⟩
    | pointed hdigits hfraction =>
      rw [List.append_assoc, List.cons_append,
        scan_pointed hdigits.isDigit hfraction fun c hc => (hexponent.head c hc).1,
        if_neg (by simp [hdigits.ne_nil]), he]
      exact ⟨_, rfl⟩
    | fraction hdigits =>
      rw [List.cons_append, ← List.nil_append ('.' :: _),
        scan_pointed (List.forall_mem_nil _) hdigits.isDigit fun c hc => (hexponent.head c hc).1,
        if_neg (by simp [hdigits.ne_nil]), he]
      exact ⟨_, rfl⟩

private theorem eq_nil_of_scanExponent {cs : List Char} (h : scanExponent cs = some (none, [])) :
    cs = [] := by
  cases cs with
  | nil => rfl
  | cons c cs =>
    by_cases hmark : c = 'e' ∨ c = 'E'
    · obtain ⟨sign, rest, rfl, hrest⟩ := Sign.exists_chars_append cs
      rw [scanExponent_written hmark sign hrest] at h
      split at h <;> cases h
    · cases (if_neg hmark).symm.trans h

/-- What is used up by the scanner has neither point nor exponent exactly when it is all digits. -/
theorem isWhole_of_scan {cs : List Char} {n : Numeral} (h : scan cs = some (n, [])) :
    n.isWhole = cs.all Char.isDigit := by
  cases hall : cs.all Char.isDigit with
  | true =>
    have hdigits := List.all_eq_true.mp hall
    have hwhole := @scan_whole cs [] hdigits nofun
    rw [List.append_nil, h] at hwhole
    split at hwhole
    · cases hwhole
    · cases hwhole
      rfl
  | false =>
    simp only [scan] at h
    split at h
    · split at h
      · cases h
      · split at h
        · cases h
          rfl
        · cases h
    · split at h
      · cases h
      · split at h
        · rename_i exponent tail hexponent
          cases h
          cases exponent with
          | some e => rfl
          | none =>
            -- Behind the digits nothing is left.
            have hnil := eq_nil_of_scanExponent hexponent
            rw [← hall, eq_comm]
            exact List.all_eq_true.mpr (List.dropWhile_eq_nil_iff.mp hnil)
        · cases h

end Numeral
end CartCriteria
