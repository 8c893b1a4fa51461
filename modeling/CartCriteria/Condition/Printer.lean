import CartCriteria.Condition.Basic
import CartCriteria.Json.Printer
import CartCriteria.Text.Listed

/-! The text that a condition is shown as. -/
namespace CartCriteria.Condition

open Text

mutual

def displayChars : Condition → List Char
  | literal v => '=' :: '=' :: ' ' :: v.compactChars
  | compare op bound => op.symbol.toList ++ ' ' :: bound.compactChars
  | isIn candidates =>
    "in [".toList ++ (commaListed (candidates.map Json.compactChars) ++ [']'])
  | all operands => "and(".toList ++ (commaListed (displayEach operands) ++ [')'])
  | any operands => "or(".toList ++ (commaListed (displayEach operands) ++ [')'])
  | unrecognized v => '=' :: '=' :: ' ' :: v.compactChars
  | invalid v => "invalid ".toList ++ v.compactChars

def displayEach : List Condition → List (List Char)
  | [] => []
  | c :: rest => displayChars c :: displayEach rest

end

def display (c : Condition) : String :=
  String.ofList c.displayChars

end CartCriteria.Condition
