import CartCriteria.Criteria.Basic
import CartCriteria.Json.Strict

/-! The criteria that a JSON value or a text denotes. Only objects denote criteria: a member is a
path with its condition. -/
namespace CartCriteria

/-- A value that is no object stands where criteria should, at `path` in a larger document. -/
structure NotCriteria where
  kindName : String
  path : String
  deriving DecidableEq

namespace NotCriteria

def reason (fault : NotCriteria) : String :=
  "criteria must be an object, got " ++ fault.kindName

def message (fault : NotCriteria) : String :=
  if fault.path = "" then fault.reason else fault.path ++ ": " ++ fault.reason

end NotCriteria

/-- Why a text denotes no criteria. -/
inductive CriteriaTextFault
  | malformed
  | notCriteria (fault : NotCriteria)
  deriving DecidableEq

namespace Criteria

def ofJson (v : Json) (path : String) : Except NotCriteria Criteria :=
  match v with
  | .object members => .ok ⟨members.map fun (path, c) => (path, .ofJson c)⟩
  | v => .error ⟨v.kindName, path⟩

def check (cart criteria : Json) : Except NotCriteria Bool :=
  (ofJson criteria "").map (eligible cart)

/-- The criteria that a strict document denotes. That its value is no object is noticed before what
follows it is looked at. -/
def ofText (text : String) : Except CriteriaTextFault Criteria :=
  match Strict.scanDocument text with
  | none => .error .malformed
  | some (d, rest) =>
    match Strict.json? Strict.depthLimit d with
    | none => .error .malformed
    | some v =>
      match ofJson v "" with
      | .error fault => .error (.notCriteria fault)
      | .ok criteria =>
        if (Strict.skipBlanks rest).isEmpty then .ok criteria else .error .malformed

end Criteria

def Condition.ofText? (text : String) : Option Condition :=
  (Strict.ofText? text).map ofJson

end CartCriteria
