import CartCriteria.Condition.Basic

/-! The condition that a JSON value denotes; every value denotes one. An object denotes the condition
of the first operator it has in the order of priority, and its other members are ignored. -/
namespace CartCriteria.Condition

def singleton (key : String) (v : Json) : Json :=
  .object [(key, v)]

/-- The operands that a list of values expands to: each becomes an object with its index for key,
which is no operator. -/
def indexed (values : List Json) : List Condition :=
  values.zipIdx.map fun (v, i) => unrecognized (singleton (toString i) v)

def expanded : Json → List Condition
  | .array items => indexed items
  | .string s => indexed (s.toList.map fun c => .string (String.singleton c))
  | _ => []

/-- The condition of a connective whose payload is no object. One without operands never holds. -/
def connect (build : List Condition → Condition) (key : String) (payload : Json) : Condition :=
  if (expanded payload).isEmpty then invalid (singleton key payload)
  else build (expanded payload)

def candidates : Json → List Json
  | .array items => items
  | _ => []

mutual

def ofMember (key : String) (payload : Json) : Condition :=
  match Operator.ofKey? key, payload with
  | some (.compare op), bound => compare op bound
  | some .isIn, v => isIn (candidates v)
  | some .all, .object members => all (ofMembers members)
  | some .all, v => connect all key v
  | some .any, .object members => any (ofMembers members)
  | some .any, v => connect any key v
  | none, v => unrecognized (singleton key v)

def ofMembers : List (String × Json) → List Condition
  | [] => []
  | (key, payload) :: rest => ofMember key payload :: ofMembers rest

end

def firstOf (members : List (String × Json)) : List Operator → Option Condition
  | [] => none
  | op :: ops =>
    match Dictionary.find? op.key members with
    | some payload => some (ofMember op.key payload)
    | none => firstOf members ops

def ofJson : Json → Condition
  | .object members =>
    match firstOf members Operator.priority with
    | some c => c
    | none => unrecognized (.object members)
  | v => literal v

end CartCriteria.Condition
