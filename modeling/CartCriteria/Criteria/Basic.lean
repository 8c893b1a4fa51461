import CartCriteria.Condition.Match
import CartCriteria.Condition.OfJson
import CartCriteria.Condition.Printer

/-! Criteria: conditions at paths, all of which a record must meet. Paths may repeat. -/
namespace CartCriteria

/-- A list of paths with their conditions. -/
structure Criteria where
  entries : List (String × Condition)
  deriving BEq

namespace Criteria

def empty : Criteria := ⟨[]⟩

def add (criteria : Criteria) (path : String) (c : Condition) : Criteria :=
  ⟨criteria.entries ++ [(path, c)]⟩

def meets (record : Json) (e : String × Condition) : Bool :=
  e.2.holdsAt (.ofPath record e.1)

def eligible (record : Json) (criteria : Criteria) : Bool :=
  criteria.entries.all (meets record)

def display (criteria : Criteria) : String :=
  String.ofList ("all(".toList
    ++ (Text.commaListed (criteria.entries.map fun e => e.1.toList ++ ' ' :: e.2.displayChars)
    ++ [')']))

end Criteria
end CartCriteria
