import CartCriteria.Binary64.Shortest
import CartCriteria.Json.Basic
import CartCriteria.Numeral
import CartCriteria.Text.Blank

/-! The two forms by which values are compared loosely: the string form and the numeric form. An
absent value is `none` and has both. -/
namespace CartCriteria.Loose

open Text

/-- Binary64 numbers are positional from `1e-6` up to `1e21`, whole ones have no fraction, zero has
no sign, and a tie goes up. -/
def numberLayout : NumberLayout := ⟨-6, 20, "", "0", "0", .up⟩

def numberString : JsonNumber → String
  | .integer n _ => toString n
  | .binary x => numberLayout.render x

def objectString : String := "[object Object]"

def joinCommas : List String → String
  | [] => ""
  | [last] => last
  | first :: next :: rest => first ++ "," ++ joinCommas (next :: rest)

mutual

/-- The string form of a value. That of an array joins those of its items. -/
def stringForm : Json → String
  | .null => "null"
  | .bool b => if b then "true" else "false"
  | .number n => numberString n
  | .string s => s
  | .array items => joinCommas (itemStrings items)
  | .object _ => objectString

/-- The string forms of items, in which null is empty. -/
def itemStrings : List Json → List String
  | [] => []
  | .null :: rest => "" :: itemStrings rest
  | v :: rest => stringForm v :: itemStrings rest

end

def stringOf : Option Json → String
  | none => "undefined"
  | some v => stringForm v

/-- Reads all of `digits` in a radix up to sixteen, rounding after each digit; at least one digit is
needed. -/
def radixNumber (radix : Nat) (digits : List Char) : Binary64 :=
  let step := fun (k : Option Nat) (c : Char) => do
    let k ← k
    let d ← Numeral.digitValue? radix c
    return nearestMagnitude (unitsOfMagnitude k * radix + d * unitsPerOne) 1
  if digits.isEmpty then .nan
  else
    match digits.foldl step (some 0) with
    | some k => .ofMagnitude false k
    | none => .nan

def decimalNumber (negative : Bool) (cs : List Char) : Binary64 :=
  match Numeral.scan cs with
  | some (n, []) => n.toBinary64 negative
  | _ => .nan

/-- The number that a trimmed text denotes: nothing is zero, and what is no numeral is not a number.
Only decimal numerals and infinity take a sign. -/
def trimmedNumber : List Char → Binary64
  | [] => .ofNat 0
  | '0' :: 'x' :: digits | '0' :: 'X' :: digits => radixNumber 16 digits
  | '0' :: 'o' :: digits | '0' :: 'O' :: digits => radixNumber 8 digits
  | '0' :: 'b' :: digits | '0' :: 'B' :: digits => radixNumber 2 digits
  | '+' :: rest => if rest = "Infinity".toList then .infinite false else decimalNumber false rest
  | '-' :: rest => if rest = "Infinity".toList then .infinite true else decimalNumber true rest
  | cs => if cs = "Infinity".toList then .infinite false else decimalNumber false cs

def textNumber (s : String) : Binary64 :=
  trimmedNumber (trimBoth isTrimmable s.toList)

/-- What a value is for the purpose of ordering: arrays and objects are their string forms. -/
inductive Primitive
  | text (s : String)
  | number (x : Binary64)
  deriving DecidableEq

def primitive : Option Json → Primitive
  | none => .number .nan
  | some .null => .number (.ofNat 0)
  | some (.bool b) => .number (.ofNat (if b then 1 else 0))
  | some (.number n) => .number n.toBinary64
  | some v => .text (stringForm v)

def Primitive.toNumber : Primitive → Binary64
  | .text s => textNumber s
  | .number x => x

def numberOf (v : Option Json) : Binary64 :=
  (primitive v).toNumber

end CartCriteria.Loose
