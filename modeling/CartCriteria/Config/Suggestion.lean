import CartCriteria.Config.Basic
import CartCriteria.Text.EditDistance
import CartCriteria.Text.Lowercase

/-! The suggestion of rule names that are close to a mistyped one, whatever their case. -/
namespace CartCriteria.Config

/-- How far a name is from a query, both in lower case already: an extension of the query is at no
distance, any other name at its edit distance. -/
def distance (query name : String) : Nat :=
  if query.toList.isPrefixOf name.toList then 0 else Text.editDistance query name

/-- Whether a candidate comes before another or is the other: the nearer first, then by name. -/
def comesFirst (a b : Nat × String) : Bool :=
  a.1 < b.1 || (a.1 == b.1 && (a.2 < b.2 || a.2 == b.2))

def distances (config : Config) (query : String) : List (Nat × String) :=
  config.rules.map fun (name, _) => (distance (Text.lowercase query) (Text.lowercase name), name)

def similarNames (config : Config) (query : String) : List String :=
  let near := (config.distances query).filter fun c => c.1 ≤ config.settings.threshold
  (near.mergeSort comesFirst).map (·.2)

end CartCriteria.Config
