import CartCriteria.Json.Basic
import CartCriteria.Numeral

/-! Documents as they are written: numbers keep their spelling and strings their escapes. What a
document denotes is decided afterwards, so a part that nobody asks for is never judged. -/
namespace CartCriteria

/-- The sign in front of a number. -/
inductive Sign
  | none
  | plus
  | minus
  deriving DecidableEq

/-- A number as it is written in any of the notations of documents. -/
inductive WrittenNumber
  | decimal (sign : Sign) (numeral : Numeral)
  | hexadecimal (sign : Sign) (digits : List Char)
  | infinity (sign : Sign)
  | notANumber (sign : Sign)
  deriving DecidableEq

/-- A piece of a string: a character, or a UTF-16 code unit written as an escape. -/
inductive StringPiece
  | char (c : Char)
  | unit (u : Nat)
  deriving DecidableEq

/-- What the leaves of a document denote. -/
structure Reading where
  /-- The value of a number. -/
  number : WrittenNumber → Option Json
  /-- The character of a leading and a trailing surrogate, each counted from the least of its kind. -/
  pair : Nat → Nat → Char

/-- A document as it is written. Members keep their order and may repeat a key. -/
inductive Document
  | null
  | bool (b : Bool)
  | number (n : WrittenNumber)
  | string (pieces : List StringPiece)
  | array (items : List Document)
  | object (members : List (List StringPiece × Document))

namespace StringPiece

/-- The characters that the pieces denote. A leading surrogate must be followed at once by a
trailing one, and a trailing one may not stand elsewhere; two that are paired denote the character
that `pair` gives for how far each of them lies above the least of its kind. -/
def chars? (pair : Nat → Nat → Char) : List StringPiece → Option (List Char)
  | [] => some []
  | char c :: rest => (chars? pair rest).map (c :: ·)
  | unit u :: rest =>
    if u < 0xD800 ∨ 0xDFFF < u then (chars? pair rest).map (Char.ofNat u :: ·)
    else if 0xDC00 ≤ u then none
    else
      match rest with
      | unit t :: rest =>
        if 0xDC00 ≤ t ∧ t ≤ 0xDFFF then
          (chars? pair rest).map (pair (u - 0xD800) (t - 0xDC00) :: ·)
        else none
      | _ => none

def text? (pair : Nat → Nat → Char) (pieces : List StringPiece) : Option String :=
  (chars? pair pieces).map String.ofList

def unitOfHex? (a b c d : Char) : Option StringPiece := do
  let a ← Numeral.digitValue? 16 a
  let b ← Numeral.digitValue? 16 b
  let c ← Numeral.digitValue? 16 c
  let d ← Numeral.digitValue? 16 d
  return unit (((a * 16 + b) * 16 + c) * 16 + d)

end StringPiece

namespace Document

mutual

def depth : Document → Nat
  | array items => depthOfItems items + 1
  | object members => depthOfMembers members + 1
  | _ => 0

def depthOfItems : List Document → Nat
  | [] => 0
  | d :: rest => max (depth d) (depthOfItems rest)

def depthOfMembers : List (List StringPiece × Document) → Nat
  | [] => 0
  | (_, d) :: rest => max (depth d) (depthOfMembers rest)

end

mutual

/-- The value that the document denotes in a reading. Strings with unpaired surrogates and refused
numbers denote nothing, wherever they stand. -/
def toJson? (reading : Reading) : Document → Option Json
  | null => some .null
  | bool b => some (.bool b)
  | number n => reading.number n
  | string pieces => (StringPiece.text? reading.pair pieces).map .string
  | array items => (itemsToJson? reading items).map .array
  | object members => (membersToJson? reading members).map .ofMembers

def itemsToJson? (reading : Reading) : List Document → Option (List Json)
  | [] => some []
  | d :: rest => do
    let v ← toJson? reading d
    let vs ← itemsToJson? reading rest
    return v :: vs

def membersToJson? (reading : Reading) :
    List (List StringPiece × Document) → Option (List (String × Json))
  | [] => some []
  | (key, d) :: rest => do
    let k ← StringPiece.text? reading.pair key
    let v ← toJson? reading d
    let vs ← membersToJson? reading rest
    return (k, v) :: vs

end

end Document
end CartCriteria
