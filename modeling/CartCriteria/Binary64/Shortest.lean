import CartCriteria.Binary64.Basic

/-! The shortest decimal that reads back as a given number, and the layouts it is written in. A
grid of 1, 2, … 17 digits offers the two neighbours of the exact value; the first grid that holds
a decimal reading back wins. -/
namespace CartCriteria

/-- The decimal `digits * 10 ^ exponent`. -/
structure Decimal where
  digits : Nat
  exponent : Int
  deriving DecidableEq

/-- Which of two equally near decimals of one length is taken. -/
inductive TieRule
  | even
  | up
  deriving DecidableEq

namespace Decimal

/-- The exact value of the magnitude at place `k`: a unit is `5^1074 * 10^-1074`. -/
def ofMagnitude (k : Nat) : Decimal :=
  ⟨unitsOfMagnitude k * Nat.pow 5 1074, -1074⟩

def readsBackAs (d : Decimal) (k : Nat) : Bool :=
  Binary64.magnitudeOfDecimal d.digits d.exponent == k

/-- The best decimal on the grid whose step drops the last `drop` digits of the exact value, if a
neighbour of the exact value there reads back. -/
def onGrid? (tie : TieRule) (k : Nat) (drop : Nat) : Option Decimal :=
  let exact := ofMagnitude k
  let step := Nat.pow 10 drop
  let low : Decimal := ⟨exact.digits / step, exact.exponent + drop⟩
  let high : Decimal := ⟨exact.digits / step + 1, exact.exponent + drop⟩
  let rest := exact.digits % step
  let lowIsNearer := 2 * rest < step || (2 * rest == step && tie == .even && low.digits % 2 == 0)
  match low.readsBackAs k, high.readsBackAs k with
  | true, true => some (if lowIsNearer then low else high)
  | true, false => some low
  | false, true => some high
  | false, false => none

def dropZeros : Nat → Decimal → Decimal
  | 0, d => d
  | n + 1, d => if d.digits % 10 = 0 then dropZeros n ⟨d.digits / 10, d.exponent + 1⟩ else d

/-- The shortest decimal that reads back as the magnitude at place `k`, without zeros at its end.
It is only asked for a finite magnitude other than zero. -/
def shortest (tie : TieRule) (k : Nat) : Decimal :=
  let exact := ofMagnitude k
  let count := Binary64.digitCount exact.digits
  let found := (List.range 17).findSome? fun i => onGrid? tie k (count - (i + 1))
  dropZeros count (found.getD exact)

end Decimal

/-- How a finite number is laid out: which decimal exponents are written positionally, whether a
whole number then ends in `.0`, how zeros are spelled, and which way ties go. Outside the
positional range an exponent with its sign follows. -/
structure NumberLayout where
  leastPositional : Int
  greatestPositional : Int
  wholeSuffix : String
  zero : String
  negativeZero : String
  tie : TieRule

namespace NumberLayout

def positional (n : NumberLayout) (digits : List Char) (places : Int) : String :=
  if places ≤ 0 then
    "0." ++ String.ofList (List.replicate (-places).toNat '0' ++ digits)
  else if digits.length ≤ places.toNat then
    String.ofList (digits ++ List.replicate (places.toNat - digits.length) '0') ++ n.wholeSuffix
  else
    String.ofList (digits.take places.toNat) ++ "." ++ String.ofList (digits.drop places.toNat)

def scientific (digits : List Char) (exponent : Int) : String :=
  let fraction := digits.drop 1
  String.ofList (digits.take 1) ++ (if fraction.isEmpty then "" else "." ++ String.ofList fraction)
    ++ (if exponent < 0 then "e-" else "e+") ++ toString exponent.natAbs

def renderMagnitude (n : NumberLayout) (k : Nat) : String :=
  let d := Decimal.shortest n.tie k
  let digits := Nat.toDigits 10 d.digits
  let exponent := d.exponent + digits.length - 1
  if n.leastPositional ≤ exponent ∧ exponent ≤ n.greatestPositional then
    n.positional digits (exponent + 1)
  else scientific digits exponent

def render (n : NumberLayout) (x : FiniteBinary64) : String :=
  if x.isZero then if x.negative then n.negativeZero else n.zero
  else (if x.negative then "-" else "") ++ n.renderMagnitude x.magnitude

end NumberLayout
end CartCriteria
