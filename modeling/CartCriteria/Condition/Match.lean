import CartCriteria.Condition.Basic
import CartCriteria.Loose.Order
import CartCriteria.Resolution

/-! When a condition holds: of a single value, and of what a path leads to. A sequence meets a
condition when one of its entries does, so an empty one meets none. -/
namespace CartCriteria.Condition

def isCandidate (v : Option Json) (candidates : List Json) : Bool :=
  candidates.any fun candidate => Loose.equal (some candidate) v

mutual

/-- Whether the condition holds of a value, absent when `none`. -/
def holdsOf (v : Option Json) : Condition → Bool
  | literal expected => Loose.equal v (some expected)
  | compare op bound => op.holds (Loose.compare? v (some bound))
  | isIn candidates => isCandidate v candidates
  | all operands => allHoldOf v operands
  | any operands => anyHoldsOf v operands
  | unrecognized expected => Loose.equal v (some expected)
  | invalid _ => false

def allHoldOf (v : Option Json) : List Condition → Bool
  | [] => true
  | c :: rest => holdsOf v c && allHoldOf v rest

def anyHoldsOf (v : Option Json) : List Condition → Bool
  | [] => false
  | c :: rest => holdsOf v c || anyHoldsOf v rest

end

/-- All of the conditions hold, as a test of the list. -/
theorem allHoldOf_eq_all (v : Option Json) (cs : List Condition) :
    allHoldOf v cs = cs.all (holdsOf v) := by
  induction cs with
  | nil => rfl
  | cons c rest ih => rw [allHoldOf, ih, List.all_cons]

/-- Any of the conditions holds, as a test of the list. -/
theorem anyHoldsOf_eq_any (v : Option Json) (cs : List Condition) :
    anyHoldsOf v cs = cs.any (holdsOf v) := by
  induction cs with
  | nil => rfl
  | cons c rest ih => rw [anyHoldsOf, ih, List.any_cons]

def holdsAt (c : Condition) : Resolution → Bool
  | .missing => c.holdsOf none
  | .found (.array items) => items.any fun item => c.holdsOf (some item)
  | .found v => c.holdsOf (some v)
  | .projected entries => entries.any fun e => c.holdsOf e

end CartCriteria.Condition
