/-! The edit distance of two texts: the least number of characters to insert, delete or replace
that turns one into the other. -/
namespace CartCriteria.Text

/-- The next row of the distance table. `diagonal` is the entry above and to the left of the first
entry of `above`, and `left` the entry last written. -/
def nextRow (c : Char) : Nat → Nat → List Char → List Nat → List Nat
  | diagonal, left, d :: ds, up :: ups =>
    let entry := min (min (left + 1) (up + 1)) (diagonal + if c = d then 0 else 1)
    entry :: nextRow c up entry ds ups
  | _, _, _, _ => []

/-- The last entry of the table whose rows so far are `count`, given the latest one: the entry for
the empty text, then one for each beginning of `target`. -/
def lastEntry (target : List Char) : List Char → Nat → List Nat → Nat
  | [], count, row => row.getLast?.getD count
  | c :: rest, count, row =>
    lastEntry target rest (count + 1) (nextRow c count (count + 1) target row)

def editDistance (s t : String) : Nat :=
  lastEntry t.toList s.toList 0 ((List.range t.length).map (· + 1))

end CartCriteria.Text
