import CartCriteria.Json.Basic
import CartCriteria.Text.Natural
import CartCriteria.Text.Split

/-! What a dotted path leads to in a record. A path walks through objects; the first array it meets
ends the walk, and its next segment is read from every item. -/
namespace CartCriteria

/-- What a path leads to. -/
inductive Resolution
  | missing
  | found (v : Json)
  | projected (entries : List (Option Json))

namespace Resolution

/-- The segments of a path. A dot ends one and starts the next, so there is always one. -/
def segments (path : String) : List String :=
  Text.split '.' path

/-- What a segment reads from an item of an array: a member of an object, or the item of an array
whose index the segment denotes. -/
def entry (segment : String) : Json → Option Json
  | .object members => Dictionary.find? segment members
  | .array items =>
    match Text.natural segment with
    | .ok i => items[i]?
    | .error _ => none
  | _ => none

def walk (v : Json) : List String → Resolution
  | [] => found v
  | segment :: rest =>
    match v with
    | .array items => projected (items.map (entry segment))
    | .object members =>
      match Dictionary.find? segment members with
      | some next => walk next rest
      | none => missing
    | _ => missing

def ofPath (record : Json) (path : String) : Resolution :=
  walk record (segments path)

def value? : Resolution → Option Json
  | found v => some v
  | _ => none

def isMissing : Resolution → Bool
  | missing => true
  | _ => false

def toJson : Resolution → Json
  | missing => .null
  | found v => v
  | projected entries => .array (entries.map fun e => e.getD .null)

end Resolution
end CartCriteria
