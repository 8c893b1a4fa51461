import CartCriteria.Binary64.Basic

/-! Decimal numerals as they are written: digits, an optional fraction, an optional exponent. The
sign and any further restriction belong to the format that holds the numeral. -/
namespace CartCriteria

/-- An unsigned decimal numeral. The exponent is its sign (`true` when negative) and digits. -/
structure Numeral where
  whole : List Char
  fraction : Option (List Char)
  exponent : Option (Bool × List Char)
  deriving DecidableEq

namespace Numeral

def digitValue? (radix : Nat) (c : Char) : Option Nat :=
  let n := c.toNat
  let d :=
    if 0x30 ≤ n ∧ n ≤ 0x39 then n - 0x30
    else if 0x41 ≤ n ∧ n ≤ 0x46 then n - 0x37
    else if 0x61 ≤ n ∧ n ≤ 0x66 then n - 0x57
    else radix
  if d < radix then some d else none

def valueOfDigits (digits : List Char) : Nat :=
  digits.foldl (fun n c => n * 10 + (c.toNat - 0x30)) 0

/-- Reads an exponent part when one starts here; a mark without digits is refused. -/
def scanExponent : List Char → Option (Option (Bool × List Char) × List Char)
  | [] => some (none, [])
  | c :: cs =>
    if c = 'e' ∨ c = 'E' then
      let (negative, rest) := match cs with
        | '+' :: r => (false, r)
        | '-' :: r => (true, r)
        | r => (false, r)
      let digits := rest.takeWhile Char.isDigit
      if digits.isEmpty then none else some (some (negative, digits), rest.dropWhile Char.isDigit)
    else some (none, c :: cs)

/-- Reads the longest numeral at the front. One without a digit before its exponent, or with an
exponent mark but no exponent, is refused. -/
def scan (cs : List Char) : Option (Numeral × List Char) :=
  let whole := cs.takeWhile Char.isDigit
  let afterWhole := cs.dropWhile Char.isDigit
  let (fraction, afterFraction) := match afterWhole with
    | '.' :: r => (some (r.takeWhile Char.isDigit), r.dropWhile Char.isDigit)
    | r => (none, r)
  if whole.isEmpty && (fraction.getD []).isEmpty then none
  else
    match scanExponent afterFraction with
    | some (exponent, rest) => some (⟨whole, fraction, exponent⟩, rest)
    | none => none

def hasPlainWhole (n : Numeral) : Bool :=
  match n.whole with
  | [] => false
  | '0' :: _ :: _ => false
  | _ => true

def isWhole (n : Numeral) : Bool :=
  n.fraction.isNone && n.exponent.isNone

def writtenExponent (n : Numeral) : Int :=
  match n.exponent with
  | none => 0
  | some (negative, digits) => if negative then -(valueOfDigits digits : Int) else valueOfDigits digits

def toBinary64 (negative : Bool) (n : Numeral) : Binary64 :=
  let fraction := n.fraction.getD []
  .ofDecimal negative (valueOfDigits (n.whole ++ fraction)) (n.writtenExponent - fraction.length)

end Numeral
end CartCriteria
