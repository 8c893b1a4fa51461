import CartCriteria.Json.Printer
import CartCriteria.Json.Relaxed
import CartCriteria.Json.Strict

/-! The texts of strings as both grammars scan them. Strict documents give every string back;
relaxed ones refuse a string with a line separator or a paragraph separator, which are written as
they are. -/
namespace CartCriteria

namespace StringPiece

/-- The piece that a printed character is scanned as: control characters without a letter of their
own are written as units. -/
def ofChar (c : Char) : StringPiece :=
  if c = '\x08' ∨ c = '\x0c' ∨ c = '\n' ∨ c = '\r' ∨ c = '\t' then char c
  else if c.toNat < 0x20 then unit c.toNat
  else char c

def ofString (s : String) : List StringPiece :=
  s.toList.map ofChar

private theorem chars?_ofChar (pair : Nat → Nat → Char) (c : Char) (pieces : List StringPiece) :
    chars? pair (ofChar c :: pieces) = (chars? pair pieces).map (c :: ·) := by
  rw [ofChar]
  split
  · rfl
  · split
    · rename_i hcontrol
      rw [chars?.eq_def]
      dsimp only
      rw [if_pos (.inl (by omega)), Char.ofNat_toNat]
    · rfl

/-- The pieces denote the string, whatever surrogate pairs stand for. -/
theorem text?_ofString (pair : Nat → Nat → Char) (s : String) :
    text? pair (ofString s) = some s := by
  have hchars : ∀ cs : List Char, chars? pair (cs.map ofChar) = some cs := by
    intro cs
    induction cs with
    | nil => rfl
    | cons c cs ih => rw [List.map_cons, chars?_ofChar, ih, Option.map_some]
  rw [text?, ofString, hchars, Option.map_some, String.ofList_toList]

private theorem unitOfHex?_control : ∀ n < 0x20,
    unitOfHex? '0' '0' (Nat.digitChar (n / 16)) (Nat.digitChar (n % 16)) = some (unit n) := by
  decide

def before (c : Char) : List StringPiece × List Char → List StringPiece × List Char
  | (pieces, rest) => (ofChar c :: pieces, rest)

end StringPiece

open StringPiece

namespace Strict

private theorem scanString_letter {e c : Char} (he : simpleEscape? e = some c)
    (hc : ofChar c = .char c) (cs : List Char) :
    scanString ('\\' :: e :: cs) = (scanString cs).map (before c) := by
  have hu : e ≠ 'u' := by
    rintro rfl
    cases he
  rw [scanString, he]
  · cases scanString cs <;> simp [before, hc]
  · exact fun _ _ _ _ _ h => absurd h hu

private theorem scanString_control {c : Char} (hc : ofChar c = .unit c.toNat)
    (hlow : c.toNat < 0x20) (cs : List Char) :
    scanString ('\\' :: 'u' :: '0' :: '0' :: Nat.digitChar (c.toNat / 16) ::
      Nat.digitChar (c.toNat % 16) :: cs) = (scanString cs).map (before c) := by
  rw [scanString, unitOfHex?_control _ hlow]
  cases scanString cs <;> simp [before, hc]

private theorem scanString_plain {c : Char} (hc : ofChar c = .char c) (hquote : c ≠ '"')
    (hbackslash : c ≠ '\\') (hhigh : ¬ c.toNat < 0x20) (cs : List Char) :
    scanString (c :: cs) = (scanString cs).map (before c) := by
  rw [scanString, if_neg (by simp [hhigh, hbackslash])]
  · cases scanString cs <;> simp [before, hc]
  · exact hquote
  · exact fun _ _ _ _ _ h => absurd h hbackslash
  · exact fun _ _ h => absurd h hbackslash

private theorem scanString_escapeChar (c : Char) (cs : List Char) :
    scanString (Json.escapeChar c ++ cs) = (scanString cs).map (before c) := by
  rw [Json.escapeChar]
  by_cases h : c = '"' ∨ c = '\\' ∨ c = '\x08' ∨ c = '\x0c' ∨ c = '\n' ∨ c = '\r' ∨ c = '\t'
  · rcases h with rfl | rfl | rfl | rfl | rfl | rfl | rfl <;> exact scanString_letter rfl rfl cs
  · simp only [not_or] at h
    have hletters : ¬ (c = '\x08' ∨ c = '\x0c' ∨ c = '\n' ∨ c = '\r' ∨ c = '\t') := by
      simp [h]
    simp only [h, if_false]
    split
    · rename_i hlow
      exact scanString_control (by rw [ofChar, if_neg hletters, if_pos hlow]) hlow cs
    · rename_i hhigh
      exact scanString_plain (by rw [ofChar, if_neg hletters, if_neg hhigh]) h.1 h.2.1 hhigh cs

/-- A string is scanned up to its closing quote, whatever its characters are. -/
theorem scanString_escaped (s : String) (rest : List Char) :
    scanString (s.toList.flatMap Json.escapeChar ++ '"' :: rest) = some (ofString s, rest) := by
  rw [ofString]
  induction s.toList with
  | nil => rfl
  | cons c cs ih =>
    rw [List.flatMap_cons, List.append_assoc, scanString_escapeChar, ih]
    rfl

end Strict

namespace Relaxed

open Text

def isSeparator (c : Char) : Bool :=
  c == '\u2028' || c == '\u2029'

def isLegible (s : String) : Bool :=
  s.toList.all fun c => !isSeparator c

private theorem scanString_letter {e c : Char} (he : simpleEscape? e = some c)
    (hc : ofChar c = .char c) (hline : isLineTerminator e = false) (cs : List Char) :
    scanString '"' ('\\' :: e :: cs) = (scanString '"' cs).map (before c) := by
  have hu : e ≠ 'u' := by
    rintro rfl
    cases he
  have hx : e ≠ 'x' := by
    rintro rfl
    cases he
  have hreturn : e ≠ '\r' := by
    rintro rfl
    cases hline
  rw [scanString, if_neg (by simp [hline]), he]
  · cases scanString '"' cs <;> simp [before, hc]
  · exact fun _ _ _ _ _ h => absurd h hu
  · exact fun _ _ _ h => absurd h hx
  · exact fun _ h => absurd h hreturn

private theorem scanString_control {c : Char} (hc : ofChar c = .unit c.toNat)
    (hlow : c.toNat < 0x20) (cs : List Char) :
    scanString '"' ('\\' :: 'u' :: '0' :: '0' :: Nat.digitChar (c.toNat / 16) ::
      Nat.digitChar (c.toNat % 16) :: cs) = (scanString '"' cs).map (before c) := by
  rw [scanString, unitOfHex?_control _ hlow]
  cases scanString '"' cs <;> simp [before, hc]

private theorem scanString_plain {c : Char} (hc : ofChar c = .char c) (hquote : c ≠ '"')
    (hbackslash : c ≠ '\\') (hline : isLineTerminator c = false) (cs : List Char) :
    scanString '"' (c :: cs) = (scanString '"' cs).map (before c) := by
  rw [scanString, if_neg hquote, if_neg (by simp [hline, hbackslash])]
  · cases scanString '"' cs <;> simp [before, hc]
  · exact fun _ _ _ _ _ h => absurd h hbackslash
  · exact fun _ _ _ h => absurd h hbackslash
  · exact fun _ h => absurd h hbackslash
  · exact fun _ _ h => absurd h hbackslash

private theorem scanString_escapeChar {c : Char} (hsep : isSeparator c = false) (cs : List Char) :
    scanString '"' (Json.escapeChar c ++ cs) = (scanString '"' cs).map (before c) := by
  rw [Json.escapeChar]
  by_cases h : c = '"' ∨ c = '\\' ∨ c = '\x08' ∨ c = '\x0c' ∨ c = '\n' ∨ c = '\r' ∨ c = '\t'
  · rcases h with rfl | rfl | rfl | rfl | rfl | rfl | rfl <;>
      exact scanString_letter rfl rfl rfl cs
  · simp only [not_or] at h
    have hletters : ¬ (c = '\x08' ∨ c = '\x0c' ∨ c = '\n' ∨ c = '\r' ∨ c = '\t') := by
      simp [h]
    have hline : isLineTerminator c = false := by
      simpa [isLineTerminator, isSeparator, h] using hsep
    simp only [h, if_false]
    split
    · rename_i hlow
      exact scanString_control (by rw [ofChar, if_neg hletters, if_pos hlow]) hlow cs
    · rename_i hhigh
      exact scanString_plain (by rw [ofChar, if_neg hletters, if_neg hhigh]) h.1 h.2.1 hline cs

private theorem scanString_separator {c : Char} (hsep : isSeparator c = true) (cs : List Char) :
    scanString '"' (Json.escapeChar c ++ cs) = none := by
  have hc : c = '\u2028' ∨ c = '\u2029' := by simpa [isSeparator] using hsep
  rcases hc with rfl | rfl <;> rfl

/-- A string is scanned up to its closing quote, unless there is a separator in it. -/
theorem scanString_escaped (s : String) (rest : List Char) :
    scanString '"' (s.toList.flatMap Json.escapeChar ++ '"' :: rest) =
      if isLegible s then some (ofString s, rest) else none := by
  rw [ofString, isLegible]
  induction s.toList with
  | nil => rfl
  | cons c cs ih =>
    rw [List.flatMap_cons, List.append_assoc, List.all_cons]
    cases hsep : isSeparator c with
    | true => exact scanString_separator hsep _
    | false =>
      rw [scanString_escapeChar hsep, ih, Bool.not_false, Bool.true_and]
      split <;> rfl

end Relaxed
end CartCriteria
