import CartCriteria.Json.Basic

/-! Conditions on a single value, and the operators they are written with. -/
namespace CartCriteria

/-- The four comparisons with a bound. -/
inductive Comparison
  | gt
  | lt
  | gte
  | lte
  deriving DecidableEq

namespace Comparison

def key : Comparison → String
  | gt => "gt"
  | lt => "lt"
  | gte => "gte"
  | lte => "lte"

def symbol : Comparison → String
  | gt => ">"
  | lt => "<"
  | gte => ">="
  | lte => "<="

/-- Whether an order of value and bound meets the comparison. No order meets none. -/
def holds : Comparison → Option Ordering → Bool
  | gt, some .gt => true
  | lt, some .lt => true
  | gte, some .gt | gte, some .eq => true
  | lte, some .lt | lte, some .eq => true
  | _, _ => false

end Comparison

/-- An operator of a condition object. -/
inductive Operator
  | compare (op : Comparison)
  | isIn
  | all
  | any
  deriving DecidableEq

namespace Operator

def key : Operator → String
  | compare op => op.key
  | isIn => "in"
  | all => "and"
  | any => "or"

/-- The operators in the order in which a condition object is searched for them. -/
def priority : List Operator :=
  [compare .gt, compare .lt, compare .gte, compare .lte, isIn, all, any]

def ofKey? (key : String) : Option Operator :=
  priority.find? fun op => op.key == key

end Operator

def Comparison.ofKey? (key : String) : Option Comparison :=
  match Operator.ofKey? key with
  | some (.compare op) => some op
  | _ => none

/-- A condition on a single value, which may be absent. -/
inductive Condition
  /-- Equal string forms. -/
  | literal (v : Json)
  /-- The loose order to the bound meets the comparison. -/
  | compare (op : Comparison) (bound : Json)
  /-- The string form is one of the candidates'. -/
  | isIn (candidates : List Json)
  /-- All operands hold, and none need be there. -/
  | all (operands : List Condition)
  /-- Some operand holds. -/
  | any (operands : List Condition)
  /-- Equal string forms with an object that has no operator, so with any object. -/
  | unrecognized (v : Json)
  /-- Never holds: the operand of a connective that has no entries to expand. -/
  | invalid (v : Json)
  deriving BEq, Inhabited

namespace Condition

/-- What holds of a connective whenever it holds of each operand, and of every other condition, holds
of all conditions. -/
@[elab_as_elim, induction_eliminator]
theorem induction {motive : Condition → Prop}
    (literal : ∀ v, motive (.literal v))
    (compare : ∀ op bound, motive (.compare op bound))
    (isIn : ∀ candidates, motive (.isIn candidates))
    (all : ∀ operands, (∀ c ∈ operands, motive c) → motive (.all operands))
    (any : ∀ operands, (∀ c ∈ operands, motive c) → motive (.any operands))
    (unrecognized : ∀ v, motive (.unrecognized v))
    (invalid : ∀ v, motive (.invalid v)) : ∀ c, motive c
  | .literal v => literal v
  | .compare op bound => compare op bound
  | .isIn candidates => isIn candidates
  | .all operands => all operands fun c _ =>
    induction literal compare isIn all any unrecognized invalid c
  | .any operands => any operands fun c _ =>
    induction literal compare isIn all any unrecognized invalid c
  | .unrecognized v => unrecognized v
  | .invalid v => invalid v

end Condition
end CartCriteria
