import CartCriteria.Json.Relaxed
import CartCriteria.Json.Strict

/-! The reading of a text as a value. The strict reading goes first, so that integers stay exact;
whatever it refuses, for its grammar, its depth or its numbers, is read again as relaxed. -/
namespace CartCriteria.Json

def ofText? (text : String) : Option Json :=
  match Strict.ofText? text with
  | some v => some v
  | none => Relaxed.ofText? text

end CartCriteria.Json
