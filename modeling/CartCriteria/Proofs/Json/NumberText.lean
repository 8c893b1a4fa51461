import CartCriteria.Json.Printer
import CartCriteria.Json.Relaxed
import CartCriteria.Json.Strict
import CartCriteria.Proofs.Binary64.Layout

/-! The texts of JSON numbers as both grammars scan them: a sign and a plain numeral. Relaxed
documents give every binary64 number back, and the integers that fit 64 bits with a sign. -/
namespace CartCriteria

/-- What starts so stands behind a value: a comma, a closing bracket or brace, or a new line. -/
def Delimited (rest : List Char) : Prop :=
  ∀ c ∈ rest.head?, c = ',' ∨ c = ']' ∨ c = '}' ∨ c = '\n'

theorem Delimited.ends {rest : List Char} (h : Delimited rest) : Numeral.Ends rest := by
  intro c hc
  rcases h c hc with rfl | rfl | rfl | rfl <;> decide

namespace Sign

def chars : Sign → List Char
  | none => []
  | plus => ['+']
  | minus => ['-']

def ofNegative (negative : Bool) : Sign :=
  if negative then minus else none

@[simp]
theorem ofNegative_eq_minus (negative : Bool) : ofNegative negative = minus ↔ negative = true := by
  cases negative <;> decide

end Sign

namespace JsonNumber

def isNegative : JsonNumber → Bool
  | integer n _ => decide (n < 0)
  | binary x => x.negative

def numeral : JsonNumber → Numeral
  | integer n _ => .ofNat n.natAbs
  | binary x =>
    if x.isZero then ⟨['0'], some ['0'], none⟩
    else Json.numberLayout.numeral (some ['0']) (Decimal.shortest .even x.magnitude)

/-- What the text of a number is scanned as. -/
def spelling (n : JsonNumber) : WrittenNumber :=
  .decimal (.ofNegative n.isNegative) n.numeral

private theorem isZeros_suffix : NumberLayout.IsZeros (some ['0']) := by
  intro digits hdigits
  cases hdigits
  exact ⟨0, rfl⟩

/-- Numbers are written plainly: with digits on both sides of a point, and no zero in front. -/
theorem numeral_isPlain (n : JsonNumber) : n.numeral.IsPlain := by
  cases n with
  | integer n _ => exact Numeral.ofNat_isPlain _
  | binary x =>
    rw [numeral]
    split
    · exact {
        whole := ⟨List.cons_ne_nil _ _, by simp⟩
        fraction := by
          intro digits hdigits
          cases hdigits
          exact ⟨List.cons_ne_nil _ _, by simp⟩
        exponent := nofun
        plain_whole := rfl }
    · rename_i hzero
      have hne : x.magnitude ≠ 0 := by simpa [FiniteBinary64.isZero] using hzero
      exact NumberLayout.numeral_isPlain _ isZeros_suffix
        (Decimal.shortest_digits_pos .even x.isFinite hne)

/-- The text of a number is its sign and its numeral. -/
theorem toList_numberText (n : JsonNumber) :
    (Json.numberText n).toList = (Sign.ofNegative n.isNegative).chars ++ n.numeral.chars := by
  cases n with
  | integer n _ =>
    rw [Json.numberText, isNegative, numeral, Numeral.ofNat_chars]
    cases n with
    | ofNat n => exact Nat.toList_repr
    | negSucc n =>
      have hrepr : toString (Int.negSucc n) = "-" ++ Nat.repr (n + 1) := rfl
      rw [hrepr, String.toList_append, Nat.toList_repr, decide_eq_true (Int.negSucc_lt_zero n)]
      rfl
  | binary x =>
    rw [Json.numberText, NumberLayout.render, isNegative, numeral]
    split
    · cases x.negative <;> rfl
    · rw [String.toList_append, NumberLayout.toList_renderMagnitude _ (some ['0']) rfl]
      cases x.negative <;> rfl

/-- An integer is written without a point and without an exponent. -/
theorem isWhole_integer {n : Int} (hn : -0x8000000000000000 ≤ n ∧ n < 0x10000000000000000) :
    (integer n hn).numeral.isWhole = true :=
  rfl

/-- A binary64 number never is, even if its value is whole. -/
theorem isWhole_binary (x : FiniteBinary64) : (binary x).numeral.isWhole = false := by
  rw [numeral]
  split
  · rfl
  · exact NumberLayout.isWhole_numeral _ _ _

/-- The numeral of a binary64 number denotes its magnitude, rounded to nearest. -/
theorem magnitude_numeral (x : FiniteBinary64) :
    Binary64.magnitudeOfDecimal (binary x).numeral.decimal.digits
      (binary x).numeral.decimal.exponent = x.magnitude := by
  rw [numeral]
  split
  · rename_i hzero
    rw [beq_iff_eq.mp hzero]
    exact Binary64.magnitudeOfDecimal_zero _
  · exact NumberLayout.magnitude_numeral _ isZeros_suffix x.isFinite

private theorem signed_natAbs (n : Int) :
    (if Sign.ofNegative (decide (n < 0)) = .minus then -(n.natAbs : Int) else n.natAbs) = n := by
  by_cases h : n < 0
  · have habs : -(n.natAbs : Int) = n := by omega
    rw [decide_eq_true h]
    exact habs
  · have habs : (n.natAbs : Int) = n := by omega
    rw [decide_eq_false h]
    exact habs

end JsonNumber

theorem isDigit_ne {c d : Char} (hc : c.isDigit = true) (hd : d.isDigit = false) : c ≠ d := by
  rintro rfl
  rw [hc] at hd
  cases hd

private theorem Numeral.IsPlain.chars_append {n : Numeral} (hn : n.IsPlain) {rest : List Char}
    (hrest : Delimited rest) :
    ∃ c tail, n.chars ++ rest = c :: tail ∧ c.isDigit = true ∧
      (c = '0' → ∀ x ∈ tail.head?, x ≠ 'x' ∧ x ≠ 'X') := by
  obtain ⟨c, tail, hchars, hc⟩ := hn.chars_eq_cons
  refine ⟨c, tail ++ rest, by rw [hchars, List.cons_append], hc, ?_⟩
  rintro rfl x hx
  cases tail with
  | nil => rcases hrest x hx with rfl | rfl | rfl | rfl <;> decide
  | cons y more => rcases hn.chars_zero hchars x hx with rfl | rfl <;> decide

namespace Strict

private theorem scanNumber_sign (negative : Bool) {cs : List Char}
    (hcs : ∀ c ∈ cs.head?, c ≠ '-') :
    scanNumber ((Sign.ofNegative negative).chars ++ cs) = (Numeral.scan cs).bind fun (numeral, rest) =>
      if numeral.hasPlainWhole && numeral.fraction != some [] then
        some (.decimal (.ofNegative negative) numeral, rest)
      else none := by
  cases negative with
  | true => rfl
  | false =>
    change scanNumber cs = _
    unfold scanNumber
    split
    rename_i hsign
    split at hsign
    · exact absurd rfl (hcs '-' rfl)
    · cases hsign
      rfl

/-- Reading the text of a number gives its sign and its numeral. -/
theorem scanNumber_numberText (n : JsonNumber) {rest : List Char} (hrest : Numeral.Ends rest) :
    scanNumber ((Json.numberText n).toList ++ rest) = some (n.spelling, rest) := by
  have hplain := n.numeral_isPlain
  have hscan := Numeral.scan_chars hplain hrest
  obtain ⟨c, tail, hchars, hc⟩ := hplain.chars_eq_cons
  have hhead : ∀ x ∈ (n.numeral.chars ++ rest).head?, x ≠ '-' := by
    rw [hchars]
    rintro x hx
    cases hx
    exact isDigit_ne hc (by decide)
  have hfraction : n.numeral.fraction ≠ some [] := fun h => (hplain.fraction [] h).ne_nil rfl
  rw [n.toList_numberText, List.append_assoc, scanNumber_sign _ hhead, hscan]
  simp [hplain.plain_whole, hfraction, JsonNumber.spelling]

/-- An integer is read back from its numeral. -/
theorem integer?_integer {n : Int} (hn : -0x8000000000000000 ≤ n ∧ n < 0x10000000000000000) :
    integer? (.ofNegative (JsonNumber.integer n hn).isNegative)
      (JsonNumber.integer n hn).numeral = some (.integer n hn) := by
  rw [integer?, if_pos (JsonNumber.isWhole_integer hn), JsonNumber.isNegative, JsonNumber.numeral,
    Numeral.valueOfDigits_ofNat]
  by_cases hnegative : n < 0
  · have hne : n.natAbs ≠ 0 := by omega
    have habs : -(n.natAbs : Int) = n := by omega
    rw [decide_eq_true hnegative, Sign.ofNegative, if_pos rfl]
    dsimp only
    rw [if_neg hne, habs, JsonNumber.ofInt?, dif_pos hn]
  · have habs : (n.natAbs : Int) = n := by omega
    rw [decide_eq_false hnegative, Sign.ofNegative, if_neg Bool.false_ne_true]
    dsimp only
    rw [habs, JsonNumber.ofInt?, dif_pos hn]

/-- An integer is read back exactly. -/
theorem number?_integer {n : Int} (hn : -0x8000000000000000 ≤ n ∧ n < 0x10000000000000000) :
    number? (JsonNumber.integer n hn).spelling = some (.integer n hn) := by
  rw [JsonNumber.spelling, number?, integer?_integer]

end Strict

namespace Relaxed

/-- What begins with a digit is decimal, unless an `x` stands behind a zero. -/
theorem scanUnsigned_eq {c : Char} (hc : c.isDigit = true) {tail : List Char}
    (hhexadecimal : c = '0' → ∀ x ∈ tail.head?, x ≠ 'x' ∧ x ≠ 'X') (sign : Sign) :
    scanUnsigned sign (c :: tail) = scanDecimal sign (c :: tail) := by
  unfold scanUnsigned
  split
  · rename_i h
    cases h
    cases hc
  · rename_i h
    cases h
    cases hc
  · rename_i x rest h
    cases h
    have hx := hhexadecimal rfl x rfl
    rw [if_neg (by simp [hx.1, hx.2])]
  · rfl

theorem scanNumber_sign (negative : Bool) {cs : List Char}
    (hcs : ∀ c ∈ cs.head?, c ≠ '-' ∧ c ≠ '+') :
    scanNumber ((Sign.ofNegative negative).chars ++ cs) =
      scanUnsigned (.ofNegative negative) cs := by
  cases negative with
  | true => rfl
  | false =>
    change scanNumber cs = _
    unfold scanNumber
    split
    · exact absurd rfl (hcs '+' rfl).2
    · exact absurd rfl (hcs '-' rfl).1
    · rfl

/-- Reading the text of a number gives its sign and its numeral. -/
theorem scanNumber_numberText (n : JsonNumber) {rest : List Char} (hrest : Delimited rest) :
    scanNumber ((Json.numberText n).toList ++ rest) = some (n.spelling, rest) := by
  have hplain := n.numeral_isPlain
  have hscan := Numeral.scan_chars hplain hrest.ends
  obtain ⟨c, tail, hchars, hc, htail⟩ := hplain.chars_append hrest
  rw [hchars] at hscan
  have hhead : ∀ x ∈ (c :: tail).head?, x ≠ '-' ∧ x ≠ '+' := by
    rintro x hx
    cases hx
    exact ⟨isDigit_ne hc (by decide), isDigit_ne hc (by decide)⟩
  rw [n.toList_numberText, List.append_assoc, hchars, scanNumber_sign _ hhead,
    scanUnsigned_eq hc htail, scanDecimal, hscan]
  simp [hplain.plain_whole, JsonNumber.spelling]

/-- Digits of at most 64 bits make a finite number. -/
theorem finite?_ofNat (sign : Sign) {n : Nat} (h : n < UInt64.size) :
    ∃ x, finite? sign (.ofNat n) = some x := by
  have hfinite := Binary64.magnitudeOfDecimal_natural_lt_top h
  rw [finite?, Numeral.toBinary64_eq, Numeral.decimal_ofNat, Binary64.ofMagnitude, dif_pos hfinite]
  exact ⟨_, rfl⟩

/-- Whether relaxed documents have the number: no integer past 64 bits with a sign. -/
def holds : JsonNumber → Bool
  | .integer n _ => decide (n < 0x8000000000000000)
  | .binary _ => true

/-- An integer is read back if it fits 64 bits with a sign, and refused otherwise. -/
theorem json?_integer {n : Int} (hn : -0x8000000000000000 ≤ n ∧ n < 0x10000000000000000) :
    json? (JsonNumber.integer n hn).spelling =
      if n < 0x8000000000000000 then some (.number (.integer n hn)) else none := by
  have hvalue : integer? (.ofNegative (JsonNumber.integer n hn).isNegative)
      (JsonNumber.integer n hn).numeral =
      if n < 0x8000000000000000 then JsonNumber.ofInt? n else none := by
    rw [integer?, JsonNumber.isNegative, JsonNumber.numeral, Numeral.valueOfDigits_ofNat,
      JsonNumber.signed_natAbs]
  rw [JsonNumber.spelling, json?, if_pos (JsonNumber.isWhole_integer hn), hvalue]
  split
  · rw [JsonNumber.ofInt?, dif_pos hn]
    rfl
  · rfl

/-- A binary64 number is read back. -/
theorem json?_binary (x : FiniteBinary64) :
    json? (JsonNumber.binary x).spelling = some (.number (.binary x)) := by
  have hfinite : finite? (.ofNegative (JsonNumber.binary x).isNegative)
      (JsonNumber.binary x).numeral = some x := by
    rw [finite?, Numeral.toBinary64_eq, JsonNumber.magnitude_numeral, Binary64.ofMagnitude,
      dif_pos x.isFinite]
    simp [JsonNumber.isNegative, Binary64.finite?]
  rw [JsonNumber.spelling, json?, if_neg (by rw [JsonNumber.isWhole_binary]; decide), hfinite]
  rfl

/-- A number is read back or refused. -/
theorem json?_spelling (n : JsonNumber) :
    json? n.spelling = if holds n then some (.number n) else none := by
  cases n with
  | integer n hn =>
    rw [json?_integer, holds]
    simp only [decide_eq_true_eq]
  | binary x => exact json?_binary x

end Relaxed
end CartCriteria
