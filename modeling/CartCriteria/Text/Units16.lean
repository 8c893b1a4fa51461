/-! Text as 16-bit units, and the order of texts by them. It departs from the order by code point
exactly where a supplementary character meets one in `U+E000..U+FFFF`. -/
namespace CartCriteria.Text

def charUnits16 (c : Char) : List Nat :=
  let n := c.toNat
  if n < 0x10000 then [n]
  else [0xD800 + (n - 0x10000) / 0x400, 0xDC00 + (n - 0x10000) % 0x400]

def units16 (s : String) : List Nat :=
  s.toList.flatMap charUnits16

/-- Lexicographic order; a proper beginning comes first. -/
def compareLists : List Nat → List Nat → Ordering
  | [], [] => .eq
  | [], _ :: _ => .lt
  | _ :: _, [] => .gt
  | a :: as, b :: bs => (compare a b).then (compareLists as bs)

def compareUnits16 (s t : String) : Ordering :=
  compareLists (units16 s) (units16 t)

end CartCriteria.Text
