import CartCriteria.Json.Document

/-! The strict grammar of documents and what its numbers denote. A number without point and
exponent that fits 64 bits is exact; any other is binary64, by a scaling of at most 64 bits of its
digits that is not always the nearest. -/
namespace CartCriteria.Strict

def isBlank (c : Char) : Bool :=
  c == ' ' || c == '\t' || c == '\n' || c == '\r'

def skipBlanks (cs : List Char) : List Char :=
  cs.dropWhile isBlank

def simpleEscape? : Char → Option Char
  | '"' => some '"'
  | '\\' => some '\\'
  | '/' => some '/'
  | 'b' => some '\x08'
  | 'f' => some '\x0c'
  | 'n' => some '\n'
  | 'r' => some '\r'
  | 't' => some '\t'
  | _ => none

def scanString : List Char → Option (List StringPiece × List Char)
  | [] => none
  | '"' :: rest => some ([], rest)
  | '\\' :: 'u' :: a :: b :: c :: d :: rest => do
    let piece ← StringPiece.unitOfHex? a b c d
    let (pieces, rest) ← scanString rest
    return (piece :: pieces, rest)
  | '\\' :: e :: rest => do
    let c ← simpleEscape? e
    let (pieces, rest) ← scanString rest
    return (.char c :: pieces, rest)
  | c :: rest =>
    if c.toNat < 0x20 ∨ c = '\\' then none
    else do
      let (pieces, rest) ← scanString rest
      return (.char c :: pieces, rest)

/-- Reads a number: a minus sign at most, no zeros in front, and digits after any point. -/
def scanNumber (cs : List Char) : Option (WrittenNumber × List Char) := do
  let (sign, digits) := match cs with
    | '-' :: rest => (Sign.minus, rest)
    | rest => (Sign.none, rest)
  let (numeral, rest) ← Numeral.scan digits
  if numeral.hasPlainWhole && numeral.fraction != some [] then
    return (.decimal sign numeral, rest)
  else none

mutual

def scanValue : Nat → List Char → Option (Document × List Char)
  | 0, _ => none
  | fuel + 1, cs =>
    match cs with
    | 'n' :: 'u' :: 'l' :: 'l' :: rest => some (.null, rest)
    | 't' :: 'r' :: 'u' :: 'e' :: rest => some (.bool true, rest)
    | 'f' :: 'a' :: 'l' :: 's' :: 'e' :: rest => some (.bool false, rest)
    | '"' :: rest => (scanString rest).map fun (pieces, rest) => (.string pieces, rest)
    | '[' :: rest =>
      match skipBlanks rest with
      | ']' :: rest => some (.array [], rest)
      | rest => (scanItems fuel rest).map fun (items, rest) => (.array items, rest)
    | '{' :: rest =>
      match skipBlanks rest with
      | '}' :: rest => some (.object [], rest)
      | rest => (scanMembers fuel rest).map fun (members, rest) => (.object members, rest)
    | cs => (scanNumber cs).map fun (n, rest) => (.number n, rest)

def scanItems : Nat → List Char → Option (List Document × List Char)
  | 0, _ => none
  | fuel + 1, cs => do
    let (item, rest) ← scanValue fuel cs
    match skipBlanks rest with
    | ']' :: rest => return ([item], rest)
    | ',' :: rest =>
      let (items, rest) ← scanItems fuel (skipBlanks rest)
      return (item :: items, rest)
    | _ => none

def scanMembers : Nat → List Char → Option (List (List StringPiece × Document) × List Char)
  | 0, _ => none
  | fuel + 1, cs =>
    match cs with
    | '"' :: rest => do
      let (key, rest) ← scanString rest
      match skipBlanks rest with
      | ':' :: rest =>
        let (item, rest) ← scanValue fuel (skipBlanks rest)
        match skipBlanks rest with
        | '}' :: rest => return ([(key, item)], rest)
        | ',' :: rest =>
          let (members, rest) ← scanMembers fuel (skipBlanks rest)
          return ((key, item) :: members, rest)
        | _ => none
      | _ => none
    | _ => none

end

/-- Reads the document at the front of a text; what follows it is returned unread. Between two
recursive steps at least every second consumes a character, so the fuel is never the limit. -/
def scanDocument (text : String) : Option (Document × List Char) :=
  let cs := skipBlanks text.toList
  scanValue (2 * cs.length) cs

def document? (text : String) : Option Document := do
  let (d, rest) ← scanDocument text
  if (skipBlanks rest).isEmpty then return d else none

/-- Takes on digits as long as the number they make fits 64 bits; from the first that does not, all
are left over. -/
def keepDigits : Nat → List Char → Nat × List Char
  | kept, [] => (kept, [])
  | kept, c :: rest =>
    let next := kept * 10 + (c.toNat - 0x30)
    if next < UInt64.size then keepDigits next rest else (kept, c :: rest)

def divideTimes : Nat → Nat → Nat
  | 0, k => k
  | n + 1, k =>
    if k = 0 then 0 else divideTimes n (divMagnitude k (Binary64.magnitudeOfDecimal 1 308))

/-- The magnitude `k` times `10 ^ exponent`, by one multiplication or by divisions. There is none
when the product is past the largest finite value. -/
def scaleMagnitude? (k : Nat) (exponent : Int) : Option Nat :=
  if 0 ≤ exponent then
    if k = 0 then some 0
    else if 308 < exponent then none
    else
      let product := mulMagnitude k (Binary64.magnitudeOfDecimal 1 exponent)
      if product < topMagnitude then some product else none
  else
    let size := (-exponent).toNat
    let times := (size - 1) / 308
    some (divMagnitude (divideTimes times k) (Binary64.magnitudeOfDecimal 1 (size - 308 * times : Nat)))

/-- The binary64 magnitude of a numeral: the digits that fit 64 bits, rounded and then scaled. -/
def magnitude? (n : Numeral) : Option Nat :=
  let fraction := n.fraction.getD []
  let (kept, wholeLeft) := keepDigits 0 n.whole
  let (kept, fractionLeft) := keepDigits kept fraction
  let exponent :=
    n.writtenExponent - (fraction.length - fractionLeft.length : Nat) + wholeLeft.length
  scaleMagnitude? (nearestMagnitude (kept * unitsPerOne) 1) exponent

/-- The exact integer that a numeral denotes, if it is written as one and fits 64 bits. A negative
one fits the signed range and is not zero. -/
def integer? (sign : Sign) (n : Numeral) : Option JsonNumber :=
  if n.isWhole then
    let value := Numeral.valueOfDigits n.whole
    match sign with
    | .minus => if value = 0 then none else JsonNumber.ofInt? (-value)
    | _ => JsonNumber.ofInt? value
  else none

def number? : WrittenNumber → Option JsonNumber
  | .decimal sign n =>
    match integer? sign n with
    | some i => some i
    | none => do
      let k ← magnitude? n
      let x ← (Binary64.ofMagnitude (sign = .minus) k).finite?
      return .binary x
  | _ => none

/-- The character of a surrogate pair, as UTF-16 has it. -/
def pairChar (leading trailing : Nat) : Char :=
  Char.ofNat (leading * 0x400 + trailing + 0x10000)

def reading : Reading where
  number n := (number? n).map .number
  pair := pairChar

/-- How many containers may lie around a place. -/
def depthLimit : Nat := 127

def json? (limit : Nat) (d : Document) : Option Json :=
  if d.depth ≤ limit then d.toJson? reading else none

def ofText? (text : String) : Option Json := do
  let d ← document? text
  json? depthLimit d

end CartCriteria.Strict
