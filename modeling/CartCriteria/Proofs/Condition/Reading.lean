import CartCriteria.Proofs.Criteria.Direct

/-! How values are read as conditions. Only the first operator of an object counts. A connective has an
operand for each entry of its payload, which is read as an object with that one entry; items and
characters are entries under their indices, and no index is an operator. -/
namespace CartCriteria.Condition

def underIndex (values : List Json) : List (String × Json) :=
  values.zipIdx.map fun (v, i) => (toString i, v)

def entriesOf : Json → List (String × Json)
  | .object members => members
  | .array items => underIndex items
  | .string s => underIndex (s.toList.map fun c => .string (String.singleton c))
  | .null | .bool _ | .number _ => []

def entryCount : Json → Nat
  | .object members => members.length
  | .array items => items.length
  | .string s => s.length
  | .null | .bool _ | .number _ => 0

/-- Whether a payload is nothing, a boolean, a number, the empty text or the empty list. -/
def isBarren : Json → Bool
  | .null | .bool _ | .number _ => true
  | .string s => s == ""
  | .array items => items.isEmpty
  | .object _ => false

/-- A payload has as many entries as are counted. -/
theorem length_entriesOf (payload : Json) : (entriesOf payload).length = entryCount payload := by
  cases payload <;> simp [entriesOf, entryCount, underIndex, String.length_toList]

/-- A payload without entries is barren, or else it is the empty object. -/
theorem entryCount_eq_zero_iff {payload : Json} :
    entryCount payload = 0 ↔ isBarren payload = true ∨ payload = .object [] := by
  cases payload <;> simp [entryCount, isBarren, String.length_eq_zero_iff]

/-- How a value is read as the root of a condition, by the first operator of an object. -/
inductive ReadAs : Json → Condition → Prop
  | literal {v : Json} (hv : v.members? = none) : ReadAs v (.literal v)
  | unrecognized {members : List (String × Json)} (h : Direct.operatorIn? members = none) :
    ReadAs (.object members) (.unrecognized (.object members))
  | compare {members : List (String × Json)} {op : Comparison} {bound : Json}
    (h : Direct.operatorIn? members = some (.compare op, bound)) :
    ReadAs (.object members) (.compare op bound)
  | isIn {members : List (String × Json)} {payload : Json}
    (h : Direct.operatorIn? members = some (.isIn, payload)) :
    ReadAs (.object members) (.isIn (candidates payload))
  | all {members : List (String × Json)} {payload : Json}
    (h : Direct.operatorIn? members = some (.all, payload)) (hp : isBarren payload = false) :
    ReadAs (.object members) (.all ((entriesOf payload).map fun m => ofJson (.object [m])))
  | any {members : List (String × Json)} {payload : Json}
    (h : Direct.operatorIn? members = some (.any, payload)) (hp : isBarren payload = false) :
    ReadAs (.object members) (.any ((entriesOf payload).map fun m => ofJson (.object [m])))
  | invalid {members : List (String × Json)} {op : Operator} {payload : Json}
    (h : Direct.operatorIn? members = some (op, payload)) (hop : op = .all ∨ op = .any)
    (hp : isBarren payload = true) :
    ReadAs (.object members) (.invalid (.object [(op.key, payload)]))

private theorem not_all_isDigit_key (op : Operator) : op.key.toList.all Char.isDigit = false := by
  cases op with
  | compare op => cases op <;> rfl
  | isIn | all | any => rfl

/-- The key of an operator has letters in it, so it is no index. -/
theorem ofKey?_toString (i : Nat) : Operator.ofKey? (toString i) = none := by
  rw [Option.eq_none_iff_forall_ne_some]
  intro op hop
  have hdigits : op.key.toList.all Char.isDigit = true := by
    rw [Direct.key_of_ofKey? hop, Nat.toString_eq_repr, Nat.toList_repr, List.all_eq_true]
    exact fun c hc => Nat.isDigit_of_mem_toDigits (by decide) (by decide) hc
  rw [not_all_isDigit_key] at hdigits
  cases hdigits

/-- A member under a key that is no operator is an object without an operator. -/
theorem ofMember_of_ofKey?_eq_none {key : String} (h : Operator.ofKey? key = none) (v : Json) :
    ofMember key v = .unrecognized (singleton key v) := by
  rw [ofMember.eq_def, h]

private theorem ofJson_underIndex (values : List Json) :
    (underIndex values).map (fun m => ofJson (.object [m])) = indexed values := by
  rw [underIndex, indexed, List.map_map]
  apply List.map_congr_left
  rintro ⟨v, i⟩ _
  exact (Direct.ofMember_eq_ofJson _ v).symm.trans (ofMember_of_ofKey?_eq_none (ofKey?_toString i) v)

/-- Each member of a connective is read as an object of its own. -/
theorem ofMembers_eq_map (members : List (String × Json)) :
    ofMembers members = members.map fun m => ofJson (.object [m]) := by
  induction members with
  | nil => rfl
  | cons m rest ih => rw [ofMembers, ih, Direct.ofMember_eq_ofJson, List.map_cons]

/-- What a payload that is no object expands to. -/
theorem expanded_eq {payload : Json} (hpayload : payload.members? = none) :
    expanded payload = (entriesOf payload).map fun m => ofJson (.object [m]) := by
  cases payload with
  | object => cases hpayload
  | null | bool | number => rfl
  | array items => exact (ofJson_underIndex items).symm
  | string s => exact (ofJson_underIndex _).symm

private theorem expanded_isEmpty {payload : Json} (hpayload : payload.members? = none) :
    (expanded payload).isEmpty = isBarren payload := by
  cases payload with
  | object => cases hpayload
  | null | bool | number => rfl
  | array items => exact Direct.indexed_isEmpty items
  | string s =>
    rw [expanded, Direct.indexed_isEmpty, List.isEmpty_map, isBarren, Bool.eq_iff_iff]
    simp

private theorem connect_eq (build : List Condition → Condition) (key : String) {payload : Json}
    (hpayload : payload.members? = none) :
    connect build key payload =
      if isBarren payload then .invalid (.object [(key, payload)])
      else build ((entriesOf payload).map fun m => ofJson (.object [m])) := by
  rw [connect, expanded_isEmpty hpayload, expanded_eq hpayload, singleton]

private theorem ofMember_all (payload : Json) :
    ofMember Operator.all.key payload =
      if isBarren payload then .invalid (.object [(Operator.all.key, payload)])
      else .all ((entriesOf payload).map fun m => ofJson (.object [m])) := by
  rw [ofMember.eq_def, Direct.ofKey?_key]
  cases payload with
  | object members => exact congrArg all (ofMembers_eq_map members)
  | null | bool | number | string | array => exact connect_eq all _ rfl

private theorem ofMember_any (payload : Json) :
    ofMember Operator.any.key payload =
      if isBarren payload then .invalid (.object [(Operator.any.key, payload)])
      else .any ((entriesOf payload).map fun m => ofJson (.object [m])) := by
  rw [ofMember.eq_def, Direct.ofKey?_key]
  cases payload with
  | object members => exact congrArg any (ofMembers_eq_map members)
  | null | bool | number | string | array => exact connect_eq any _ rfl

/-- How every value is read. -/
theorem readAs_ofJson (v : Json) : ReadAs v (ofJson v) := by
  cases v with
  | null | bool | number | string | array => exact .literal rfl
  | object members =>
    rw [Direct.ofJson_object]
    cases hfirst : Direct.operatorIn? members with
    | none => exact .unrecognized hfirst
    | some found =>
      obtain ⟨op, payload⟩ := found
      dsimp only
      cases op with
      | compare op =>
        rw [ofMember.eq_def, Direct.ofKey?_key]
        exact .compare hfirst
      | isIn =>
        rw [ofMember.eq_def, Direct.ofKey?_key]
        exact .isIn hfirst
      | all =>
        rw [ofMember_all]
        split
        · exact .invalid hfirst (.inl rfl) ‹_›
        · exact .all hfirst (Bool.eq_false_iff.mpr ‹_›)
      | any =>
        rw [ofMember_any]
        split
        · exact .invalid hfirst (.inr rfl) ‹_›
        · exact .any hfirst (Bool.eq_false_iff.mpr ‹_›)

private theorem mem_priority (op : Operator) : op ∈ Operator.priority := by
  cases op with
  | compare op => cases op <;> decide
  | isIn | all | any => decide

/-- An object without a first operator has the key of none. -/
theorem find?_of_operatorIn?_eq_none {members : List (String × Json)}
    (h : Direct.operatorIn? members = none) (op : Operator) :
    Dictionary.find? op.key members = none := by
  rw [Direct.operatorIn?_eq] at h
  exact Option.map_eq_none_iff.mp (List.findSome?_eq_none_iff.mp h op (mem_priority op))

def operands : Condition → List Condition
  | all operands | any operands => operands
  | literal _ | compare _ _ | isIn _ | unrecognized _ | invalid _ => []

def operator? : Condition → Option Operator
  | compare op _ => some (.compare op)
  | isIn _ => some .isIn
  | all _ => some .all
  | any _ => some .any
  | invalid (.object [(key, _)]) => Operator.ofKey? key
  | _ => none

/-- A node is written with the first operator of its object. -/
theorem operator?_ofJson (members : List (String × Json)) :
    (ofJson (.object members)).operator? = (Direct.operatorIn? members).map (·.1) := by
  have hread := readAs_ofJson (.object members)
  generalize ofJson (.object members) = c at hread
  cases hread with
  | literal hv => cases hv
  | unrecognized h | compare h | isIn h | all h _ | any h _ =>
    rw [h]
    rfl
  | invalid h =>
    rw [h]
    exact Direct.ofKey?_key _

/-- An object with one member has the operator of its key. -/
theorem operator?_ofJson_singleton (m : String × Json) :
    (ofJson (.object [m])).operator? = Operator.ofKey? m.1 := by
  rw [operator?_ofJson, Direct.operatorIn?_singleton, Option.map_map]
  exact congrFun Option.map_id _

end CartCriteria.Condition
