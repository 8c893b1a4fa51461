/-! Binary64 numbers as exact integers. A magnitude is numbered by its place in the ascending list
of non-negative binary64 values, and each of them is a whole number of units of `2^-1074`; every
operation computes exactly in units and rounds once, to nearest with ties to even. -/
namespace CartCriteria

/-- How many magnitudes there are from a power of two up to the next: `2^52`, evenly spaced. As
many, one unit apart, lie below the least of these powers. -/
def binadeSize : Nat := 0x10000000000000

/-- The place of infinity: the magnitudes below it are the finite ones. -/
def topMagnitude : Nat := 2047 * binadeSize

/-- How many units make one. -/
def unitsPerOne : Nat := 1 <<< 1074

def unitsOfMagnitude (k : Nat) : Nat :=
  if k < 2 * binadeSize then k
  else (binadeSize + k % binadeSize) <<< (k / binadeSize - 1)

def divNearestEven (num den : Nat) : Nat :=
  let q := num / den
  let r := num % den
  if 2 * r < den ∨ (2 * r = den ∧ q % 2 = 0) then q else q + 1

/-- The place of the magnitude nearest to `num / den` units, ties to even. What would round past
the largest finite value is infinity. -/
def nearestMagnitude (num den : Nat) : Nat :=
  let shift := Nat.log2 (num / den) - 52
  min (divNearestEven num (den <<< shift) + shift * binadeSize) topMagnitude

def mulMagnitude (a b : Nat) : Nat :=
  nearestMagnitude (unitsOfMagnitude a * unitsOfMagnitude b) unitsPerOne

def divMagnitude (a b : Nat) : Nat :=
  nearestMagnitude (unitsOfMagnitude a * unitsPerOne) (unitsOfMagnitude b)

/-- A finite binary64 number. Zero has two signs. -/
structure FiniteBinary64 where
  negative : Bool
  magnitude : Nat
  isFinite : magnitude < topMagnitude
  deriving DecidableEq

/-- A binary64 number. There is one not-a-number: payloads are never observed. -/
inductive Binary64
  | nan
  | infinite (negative : Bool)
  | finite (x : FiniteBinary64)
  deriving DecidableEq

namespace FiniteBinary64

def isZero (x : FiniteBinary64) : Bool :=
  x.magnitude == 0

def units (x : FiniteBinary64) : Int :=
  if x.negative then -(unitsOfMagnitude x.magnitude : Int) else unitsOfMagnitude x.magnitude

end FiniteBinary64

namespace Binary64

instance : Inhabited Binary64 := ⟨nan⟩

def ofMagnitude (negative : Bool) (k : Nat) : Binary64 :=
  if h : k < topMagnitude then finite ⟨negative, k, h⟩ else infinite negative

def finite? : Binary64 → Option FiniteBinary64
  | finite x => some x
  | _ => none

def ofNat (n : Nat) : Binary64 :=
  ofMagnitude false (nearestMagnitude (n * unitsPerOne) 1)

/-- The number nearest to an integer; zero is positive. -/
def ofInt (n : Int) : Binary64 :=
  ofMagnitude (decide (n < 0)) (nearestMagnitude (n.natAbs * unitsPerOne) 1)

def digitCount (n : Nat) : Nat :=
  (Nat.toDigits 10 n).length

/-- The place of the magnitude nearest to `digits * 10 ^ exponent`. Beyond `10^309` and below
`10^-324` the answer is known without forming the power. -/
def magnitudeOfDecimal (digits : Nat) (exponent : Int) : Nat :=
  let leading := digitCount digits + exponent
  if digits = 0 ∨ leading < -323 then 0
  else if leading > 309 then topMagnitude
  else
    nearestMagnitude (digits * Nat.pow 10 exponent.toNat * unitsPerOne)
      (Nat.pow 10 (-exponent).toNat)

def ofDecimal (negative : Bool) (digits : Nat) (exponent : Int) : Binary64 :=
  ofMagnitude negative (magnitudeOfDecimal digits exponent)

/-- Where a number stands among all numbers; both zeros stand at 0, and not-a-number nowhere. -/
def rank? : Binary64 → Option Int
  | nan => none
  | infinite negative => some (if negative then -(topMagnitude : Int) else topMagnitude)
  | finite x => some (if x.negative then -(x.magnitude : Int) else x.magnitude)

def compare? (x y : Binary64) : Option Ordering :=
  match x.rank?, y.rank? with
  | some a, some b => some (compare a b)
  | _, _ => none

def signBit (negative : Bool) : Nat :=
  if negative then 0x8000000000000000 else 0

def toBits : Binary64 → Option Nat
  | nan => none
  | infinite negative => some (signBit negative + topMagnitude)
  | finite x => some (signBit x.negative + x.magnitude)

end Binary64
end CartCriteria
