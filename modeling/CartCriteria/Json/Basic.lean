import CartCriteria.Binary64.Basic
import CartCriteria.Dictionary

/-! JSON values. A number keeps its kind, exact integer or binary64, and the members of an object
are sorted by key. Sortedness is stated beside the type, as the predicate `Json.Sorted`. -/
namespace CartCriteria

/-- A JSON number: an integer that fits 64 bits with or without sign, or a finite binary64. -/
inductive JsonNumber
  | integer (n : Int) (inRange : -0x8000000000000000 ≤ n ∧ n < 0x10000000000000000)
  | binary (x : FiniteBinary64)
  deriving DecidableEq

namespace JsonNumber

def ofInt? (n : Int) : Option JsonNumber :=
  if h : -0x8000000000000000 ≤ n ∧ n < 0x10000000000000000 then some (integer n h) else none

def toBinary64 : JsonNumber → Binary64
  | integer n _ => .ofInt n
  | binary x => .finite x

end JsonNumber

/-- A JSON value. -/
inductive Json
  | null
  | bool (b : Bool)
  | number (n : JsonNumber)
  | string (s : String)
  | array (items : List Json)
  | object (members : List (String × Json))
  deriving BEq

namespace Json

instance : Inhabited Json := ⟨null⟩

mutual

/-- The members of every object in the value are sorted strictly by key. -/
def Sorted : Json → Prop
  | array items => SortedItems items
  | object members => Dictionary.Sorted members ∧ SortedMembers members
  | _ => True

def SortedItems : List Json → Prop
  | [] => True
  | v :: rest => Sorted v ∧ SortedItems rest

def SortedMembers : List (String × Json) → Prop
  | [] => True
  | (_, v) :: rest => Sorted v ∧ SortedMembers rest

end

def members? : Json → Option (List (String × Json))
  | object members => some members
  | _ => none

/-- The object with the given members in any order; of one key the last counts. -/
def ofMembers (members : List (String × Json)) : Json :=
  object (Dictionary.ofList members)

def kindName : Json → String
  | null => "null"
  | bool _ => "boolean"
  | number _ => "number"
  | string _ => "string"
  | array _ => "array"
  | object _ => "object"

end Json
end CartCriteria
