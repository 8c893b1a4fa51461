import CartCriteria.Json.Document
import CartCriteria.Text.Blank
import CartCriteria.Text.Letter

/-! The relaxed grammar of documents, JSON5, and what its numbers denote. Comments, trailing commas,
single quotes and bare keys are allowed, and nesting has no limit. -/
namespace CartCriteria.Relaxed

open Text

/-- What the skipping of blanks and comments is inside of. A block comment remembers its start, for
one that is never closed is no comment. -/
inductive Filler
  | between
  | line
  | block (start : List Char)

def skipFrom : Filler → List Char → List Char
  | .between, [] => []
  | .between, '/' :: '/' :: rest => skipFrom .line rest
  | .between, '/' :: '*' :: rest => skipFrom (.block ('/' :: '*' :: rest)) rest
  | .between, c :: rest => if isRelaxedBlank c then skipFrom .between rest else c :: rest
  | .line, [] => []
  | .line, c :: rest => if isLineTerminator c then skipFrom .between rest else skipFrom .line rest
  | .block start, [] => start
  | .block _, '*' :: '/' :: rest => skipFrom .between rest
  | .block start, _ :: rest => skipFrom (.block start) rest

def skipFiller (cs : List Char) : List Char :=
  skipFrom .between cs

/-- The character that an escape stands for, when the escape is one character without digits: six
letters have a meaning of their own, and all but `x`, `u`, digits and line terminators stand for
themselves. -/
def simpleEscape? (c : Char) : Option Char :=
  if c = 'b' then some '\x08'
  else if c = 'f' then some '\x0c'
  else if c = 'n' then some '\n'
  else if c = 'r' then some '\r'
  else if c = 't' then some '\t'
  else if c = 'v' then some '\x0b'
  else if c = '0' then some '\x00'
  else if c = 'x' ∨ c = 'u' ∨ c.isDigit ∨ isLineTerminator c then none
  else some c

/-- Reads a string whose opening `quote` has been read. An escaped line end is left out. -/
def scanString (quote : Char) : List Char → Option (List StringPiece × List Char)
  | [] => none
  | '\\' :: 'u' :: a :: b :: c :: d :: rest => do
    let piece ← StringPiece.unitOfHex? a b c d
    let (pieces, rest) ← scanString quote rest
    return (piece :: pieces, rest)
  | '\\' :: 'x' :: a :: b :: rest => do
    let piece ← StringPiece.unitOfHex? '0' '0' a b
    let (pieces, rest) ← scanString quote rest
    return (piece :: pieces, rest)
  | '\\' :: '\r' :: '\n' :: rest => scanString quote rest
  | '\\' :: e :: rest =>
    if isLineTerminator e then scanString quote rest
    else do
      let c ← simpleEscape? e
      let (pieces, rest) ← scanString quote rest
      return (.char c :: pieces, rest)
  | c :: rest =>
    if c = quote then some ([], rest)
    else if c = '\\' ∨ isLineTerminator c then none
    else do
      let (pieces, rest) ← scanString quote rest
      return (.char c :: pieces, rest)

def scanKeyRest : List Char → Option (List StringPiece × List Char)
  | [] => some ([], [])
  | '\\' :: 'u' :: a :: b :: c :: d :: rest => do
    let piece ← StringPiece.unitOfHex? a b c d
    let (pieces, rest) ← scanKeyRest rest
    return (piece :: pieces, rest)
  | c :: rest =>
    if startsKey c || isContinuing c then do
      let (pieces, rest) ← scanKeyRest rest
      return (.char c :: pieces, rest)
    else some ([], c :: rest)

def scanKey : List Char → Option (List StringPiece × List Char)
  | '"' :: rest => scanString '"' rest
  | '\'' :: rest => scanString '\'' rest
  | '\\' :: rest => scanKeyRest ('\\' :: rest)
  | c :: rest => if startsKey c then scanKeyRest (c :: rest) else none
  | [] => none

/-- Reads a decimal numeral: no zeros in front, and a digit at least after a leading point. -/
def scanDecimal (sign : Sign) (cs : List Char) : Option (WrittenNumber × List Char) := do
  let (numeral, rest) ← Numeral.scan cs
  if numeral.hasPlainWhole || numeral.whole.isEmpty then return (.decimal sign numeral, rest)
  else none

def scanUnsigned (sign : Sign) : List Char → Option (WrittenNumber × List Char)
  | 'I' :: 'n' :: 'f' :: 'i' :: 'n' :: 'i' :: 't' :: 'y' :: rest => some (.infinity sign, rest)
  | 'N' :: 'a' :: 'N' :: rest => some (.notANumber sign, rest)
  | '0' :: x :: rest =>
    if x = 'x' ∨ x = 'X' then
      let isHex := fun c => (Numeral.digitValue? 16 c).isSome
      let digits := rest.takeWhile isHex
      if digits.isEmpty then none else some (.hexadecimal sign digits, rest.dropWhile isHex)
    else scanDecimal sign ('0' :: x :: rest)
  | cs => scanDecimal sign cs

def scanNumber : List Char → Option (WrittenNumber × List Char)
  | '+' :: rest => scanUnsigned .plus rest
  | '-' :: rest => scanUnsigned .minus rest
  | cs => scanUnsigned .none cs

mutual

/-- Reads the value that starts the text. The fuel bounds how far the reading goes. -/
def scanValue : Nat → List Char → Option (Document × List Char)
  | 0, _ => none
  | fuel + 1, cs =>
    match cs with
    | 'n' :: 'u' :: 'l' :: 'l' :: rest => some (.null, rest)
    | 't' :: 'r' :: 'u' :: 'e' :: rest => some (.bool true, rest)
    | 'f' :: 'a' :: 'l' :: 's' :: 'e' :: rest => some (.bool false, rest)
    | '"' :: rest => (scanString '"' rest).map fun (pieces, rest) => (.string pieces, rest)
    | '\'' :: rest => (scanString '\'' rest).map fun (pieces, rest) => (.string pieces, rest)
    | '[' :: rest =>
      match skipFiller rest with
      | ']' :: rest => some (.array [], rest)
      | rest => (scanItems fuel rest).map fun (items, rest) => (.array items, rest)
    | '{' :: rest =>
      match skipFiller rest with
      | '}' :: rest => some (.object [], rest)
      | rest => (scanMembers fuel rest).map fun (members, rest) => (.object members, rest)
    | cs => (scanNumber cs).map fun (n, rest) => (.number n, rest)

/-- Reads one or more items and the closing bracket; one comma may stand before it. -/
def scanItems : Nat → List Char → Option (List Document × List Char)
  | 0, _ => none
  | fuel + 1, cs => do
    let (item, rest) ← scanValue fuel cs
    match skipFiller rest with
    | ']' :: rest => return ([item], rest)
    | ',' :: rest =>
      match skipFiller rest with
      | ']' :: rest => return ([item], rest)
      | rest =>
        let (items, rest) ← scanItems fuel rest
        return (item :: items, rest)
    | _ => none

def scanMembers : Nat → List Char → Option (List (List StringPiece × Document) × List Char)
  | 0, _ => none
  | fuel + 1, cs => do
    let (key, rest) ← scanKey cs
    match skipFiller rest with
    | ':' :: rest =>
      let (item, rest) ← scanValue fuel (skipFiller rest)
      match skipFiller rest with
      | '}' :: rest => return ([(key, item)], rest)
      | ',' :: rest =>
        match skipFiller rest with
        | '}' :: rest => return ([(key, item)], rest)
        | rest =>
          let (members, rest) ← scanMembers fuel rest
          return ((key, item) :: members, rest)
      | _ => none
    | _ => none

end

def document? (text : String) : Option Document := do
  let cs := skipFiller text.toList
  let (d, rest) ← scanValue (2 * cs.length) cs
  if (skipFiller rest).isEmpty then return d else none

def hexadecimal? (digits : List Char) : Option Nat :=
  let n := digits.foldl (fun n c => n * 16 + (Numeral.digitValue? 16 c).getD 0) 0
  if n < UInt32.size then some n else none

def finite? (sign : Sign) (n : Numeral) : Option FiniteBinary64 :=
  (n.toBinary64 (sign = .minus)).finite?

def integer? (sign : Sign) (n : Numeral) : Option JsonNumber :=
  let value : Int := Numeral.valueOfDigits n.whole
  let signed := if sign = .minus then -value else value
  if signed < 0x8000000000000000 then JsonNumber.ofInt? signed else none

/-- What a written number denotes. Infinity and not-a-number have no number to denote and are null,
but a plus sign in front of them is refused, and so is any sign in front of hexadecimal digits. -/
def json? : WrittenNumber → Option Json
  | .decimal sign n =>
    if n.isWhole then (integer? sign n).map .number
    else (finite? sign n).map fun x => .number (.binary x)
  | .hexadecimal .none digits => do
    let n ← hexadecimal? digits
    (JsonNumber.ofInt? n).map .number
  | .hexadecimal _ _ => none
  | .infinity .plus | .notANumber .plus => none
  | .infinity _ | .notANumber _ => some .null

/-- The character of a surrogate pair. What the pair spells has its bit for `0x10000` set where
UTF-16 adds that number, so that a pair for a character of an even plane is read as the character
at its place in the plane below. -/
def pairChar (leading trailing : Nat) : Char :=
  Char.ofNat ((leading * 0x400 + trailing) ||| 0x10000)

def reading : Reading where
  number := json?
  pair := pairChar

def ofText? (text : String) : Option Json := do
  let d ← document? text
  d.toJson? reading

end CartCriteria.Relaxed
