import CartCriteria.Loose.Form
import CartCriteria.Text.Units16

/-! Loose equality, which is that of string forms, and the loose order, which is that of texts when
both sides are texts and that of numeric forms otherwise. The two are independent. -/
namespace CartCriteria.Loose

def equal (a b : Option Json) : Bool :=
  stringOf a == stringOf b

def Primitive.compare? : Primitive → Primitive → Option Ordering
  | .text s, .text t => some (Text.compareUnits16 s t)
  | p, q => p.toNumber.compare? q.toNumber

/-- The order of two values; there is none when a number is asked for and one side has none. -/
def compare? (a b : Option Json) : Option Ordering :=
  (primitive a).compare? (primitive b)

end CartCriteria.Loose
