import CartCriteria.Proofs.Condition.Reading
import CartCriteria.Proofs.Dictionary
import CartCriteria.Proofs.Json.Sorted

/-! The shape of conditions that values denote. The tree of nodes is laid over the written value, so
what a node looks like, however deep it lies, follows from the value that stands at its place. -/
namespace CartCriteria.Condition

/-- The node at a position, which names an operand for every level below the root. -/
def at? (c : Condition) : List Nat → Option Condition
  | [] => some c
  | i :: rest => c.operands[i]?.bind fun operand => operand.at? rest

def payload? : Json → Option Json
  | .object members =>
    match Direct.operatorIn? members with
    | some (.all, payload) | some (.any, payload) => some payload
    | _ => none
  | _ => none

def parts (v : Json) : List (String × Json) :=
  (payload? v).elim [] entriesOf

/-- The value that stands at a position of a written condition: for every level the object that has
one entry of the payload above. -/
def writtenAt? (v : Json) : List Nat → Option Json
  | [] => some v
  | i :: rest => (parts v)[i]?.bind fun entry => writtenAt? (.object [entry]) rest

/-- The operands of what a value is read as are what its parts are read as, each on its own. -/
theorem operands_ofJson (v : Json) :
    (ofJson v).operands = (parts v).map fun m => ofJson (.object [m]) := by
  have hread := readAs_ofJson v
  generalize ofJson v = c at hread
  cases hread with
  | literal hv =>
    cases v with
    | object => cases hv
    | null | bool | number | string | array => rfl
  | unrecognized h | compare h | isIn h | all h _ | any h _ =>
    rw [parts, payload?, h]
    rfl
  | @invalid members op payload h hop hbarren =>
    -- It keeps the payload without expanding it, and there was nothing to expand.
    have hnil : entriesOf payload = [] := by
      rw [← List.length_eq_zero_iff, length_entriesOf]
      exact entryCount_eq_zero_iff.mpr (.inl hbarren)
    rcases hop with rfl | rfl <;>
    · rw [parts, payload?, h]
      exact congrArg (List.map _) hnil.symm

/-- The tree of nodes lies over the written value: a node is what the value at its position is read
as. -/
theorem at?_ofJson (v : Json) (position : List Nat) :
    (ofJson v).at? position = (writtenAt? v position).map ofJson := by
  induction position generalizing v with
  | nil => rfl
  | cons i rest ih =>
    rw [at?, writtenAt?, operands_ofJson, List.getElem?_map, Option.bind_map, Option.map_bind]
    congr 1
    funext m
    exact ih _

/-- What passes from a value to the objects of its parts passes to every position. -/
theorem writtenAt?_induction {P : Json → Prop}
    (hparts : ∀ v, P v → ∀ m ∈ parts v, P (.object [m])) {v source : Json} {position : List Nat}
    (h : writtenAt? v position = some source) (hv : P v) : P source := by
  induction position generalizing v with
  | nil =>
    cases h
    exact hv
  | cons i rest ih =>
    obtain ⟨m, hm, h⟩ := Option.bind_eq_some_iff.mp h
    exact ih h (hparts v hv m (List.mem_of_getElem? hm))

/-- Below the root there are objects with one member. -/
theorem exists_of_writtenAt? {v source : Json} {position : List Nat}
    (h : writtenAt? v position = some source) (hbelow : position ≠ []) :
    ∃ m, source = .object [m] := by
  cases position with
  | nil => exact absurd rfl hbelow
  | cons i rest =>
    obtain ⟨m, -, h⟩ := Option.bind_eq_some_iff.mp h
    exact writtenAt?_induction (P := fun v => ∃ m, v = .object [m]) (fun _ _ m _ => ⟨m, rfl⟩) h
      ⟨m, rfl⟩

/-- What the operands of a connective that is written with `payload` are like. -/
structure FromPayload (payload : Json) (operands : List Condition) : Prop where
  /-- There is an operand for each member, item or character. -/
  length_eq : operands.length = entryCount payload
  /-- There are none for the empty object alone. -/
  eq_object_nil : operands = [] → payload = .object []
  /-- Each member of an object makes an operand of its own operator, or of none. -/
  operators : ∀ members, payload = .object members →
    operands.map operator? = members.map fun m => Operator.ofKey? m.1

/-- What the node at a position is like that a value is read as. -/
structure WellShaped (position : List Nat) (source : Json) (c : Condition) : Prop where
  /-- A literal is the root and holds no object. -/
  literal : ∀ v, c = .literal v → position = [] ∧ v.members? = none
  /-- Without an operator there is an object without the key of any, and below the root it has one
  member. -/
  unrecognized : ∀ v, c = .unrecognized v → ∃ members, v = .object members ∧
    (∀ op : Operator, Dictionary.find? op.key members = none) ∧
    (position ≠ [] → members.length = 1)
  /-- What never holds is a connective alone with nothing to expand. -/
  invalid : ∀ v, c = .invalid v → ∃ (op : Operator) (payload : Json), (op = .all ∨ op = .any) ∧
    v = .object [(op.key, payload)] ∧ isBarren payload = true
  /-- A conjunction comes from the payload of its operator, which is the first one of an object. -/
  all : ∀ operands, c = .all operands → ∃ members payload, source = .object members ∧
    Direct.operatorIn? members = some (.all, payload) ∧ FromPayload payload operands
  /-- And so does a disjunction. -/
  any : ∀ operands, c = .any operands → ∃ members payload, source = .object members ∧
    Direct.operatorIn? members = some (.any, payload) ∧ FromPayload payload operands

private theorem fromPayload_entriesOf {payload : Json} (hbarren : isBarren payload = false) :
    FromPayload payload ((entriesOf payload).map fun m => ofJson (.object [m])) where
  length_eq := by rw [List.length_map, length_entriesOf]
  eq_object_nil hnil := by
    rw [List.map_eq_nil_iff, ← List.length_eq_zero_iff, length_entriesOf, entryCount_eq_zero_iff,
      hbarren] at hnil
    exact hnil.resolve_left Bool.false_ne_true
  operators := by
    rintro members rfl
    rw [entriesOf, List.map_map]
    exact List.map_congr_left fun m _ => operator?_ofJson_singleton m

/-- What a value is read as has the right shape, at the root and, if it is an object with one member,
below it. -/
theorem wellShaped_ofJson {position : List Nat} {source : Json}
    (hbelow : position ≠ [] → ∃ m, source = .object [m]) :
    WellShaped position source (ofJson source) := by
  have hread := readAs_ofJson source
  generalize ofJson source = c at hread
  -- Every field names the kind of node, and each kind is read in one way only.
  constructor
  case literal =>
    rintro v rfl
    cases hread with
    | literal hv =>
      by_cases hroot : position = []
      · exact ⟨hroot, hv⟩
      · obtain ⟨m, rfl⟩ := hbelow hroot
        cases hv
  case unrecognized =>
    rintro v rfl
    cases hread with
    | @unrecognized members h =>
      refine ⟨members, rfl, find?_of_operatorIn?_eq_none h, ?_⟩
      intro hne
      obtain ⟨m, hm⟩ := hbelow hne
      rw [Json.object.inj hm, List.length_singleton]
  case invalid =>
    rintro v rfl
    cases hread with
    | invalid h hop hbarren => exact ⟨_, _, hop, rfl, hbarren⟩
  case all =>
    rintro operands rfl
    cases hread with
    | all h hbarren => exact ⟨_, _, rfl, h, fromPayload_entriesOf hbarren⟩
  case any =>
    rintro operands rfl
    cases hread with
    | any h hbarren => exact ⟨_, _, rfl, h, fromPayload_entriesOf hbarren⟩

private theorem exists_of_payload? {v payload : Json} (h : payload? v = some payload) :
    ∃ members op, v = .object members ∧ Direct.operatorIn? members = some (op, payload) := by
  cases v with
  | null | bool | number | string | array => cases h
  | object members =>
    rw [payload?] at h
    split at h
    · cases h
      exact ⟨members, _, rfl, ‹_›⟩
    · cases h
      exact ⟨members, _, rfl, ‹_›⟩
    · cases h

/-- The payload of a sorted value is sorted. -/
theorem sorted_of_payload? {v payload : Json} (hv : v.Sorted) (h : payload? v = some payload) :
    payload.Sorted := by
  obtain ⟨members, op, rfl, hfirst⟩ := exists_of_payload? h
  have hm := Dictionary.mem_of_find? (Direct.find?_of_operatorIn? hfirst)
  exact Json.sortedMembers_iff.mp hv.2 _ hm

private theorem mem_of_mem_underIndex {values : List Json} {m : String × Json}
    (h : m ∈ underIndex values) : m.2 ∈ values := by
  obtain ⟨⟨v, i⟩, hv, rfl⟩ := List.mem_map.mp h
  exact List.fst_mem_of_mem_zipIdx hv

/-- The parts of a sorted value are sorted. -/
theorem sorted_of_mem_parts {v : Json} (hv : v.Sorted) {m : String × Json} (hm : m ∈ parts v) :
    m.2.Sorted := by
  rw [parts] at hm
  cases hpayload : payload? v with
  | none =>
    rw [hpayload] at hm
    cases hm
  | some payload =>
    rw [hpayload] at hm
    have hsorted := sorted_of_payload? hv hpayload
    cases payload with
    | object members => exact Json.sortedMembers_iff.mp hsorted.2 m hm
    | array items => exact Json.sortedItems_iff.mp hsorted _ (mem_of_mem_underIndex hm)
    | string s =>
      obtain ⟨c, -, hc⟩ := List.mem_map.mp (mem_of_mem_underIndex hm)
      rw [← hc]
      trivial
    | null | bool | number => cases hm

private theorem sorted_of_writtenAt? {v source : Json} {position : List Nat} (hv : v.Sorted)
    (h : writtenAt? v position = some source) : source.Sorted := by
  refine writtenAt?_induction (P := Json.Sorted) ?_ h hv
  intro v hv m hm
  exact ⟨List.pairwise_singleton _ m, sorted_of_mem_parts hv hm, trivial⟩

/-- Of the operands that the members of an object make, one at most has a given operator. -/
theorem countP_operator?_le_one {members : List (String × Json)} (hmembers : Dictionary.Sorted members)
    (op : Operator) :
    (members.map fun m => ofJson (.object [m])).countP (fun c => c.operator? == some op) ≤ 1 := by
  rw [List.countP_map]
  refine Nat.le_trans (List.countP_mono_left ?_) (Dictionary.countP_key_le_one hmembers op.key)
  intro m _ hm
  rw [Function.comp_apply, operator?_ofJson_singleton, beq_iff_eq] at hm
  exact beq_iff_eq.mpr (Direct.key_of_ofKey? hm).symm

/-- Every node of the condition that a value denotes is read from what is written at its position, and
has the shape of such a node; and the operands that come from the members of an object have an operator
at most once, since a member has a key of its own. -/
theorem wellShaped_of_at? {v : Json} {position : List Nat} {c : Condition}
    (h : (ofJson v).at? position = some c) :
    ∃ source, writtenAt? v position = some source ∧ WellShaped position source c ∧
      (v.Sorted → ∀ members, payload? source = some (.object members) → ∀ op : Operator,
        c.operands.countP (fun operand => operand.operator? == some op) ≤ 1) := by
  rw [at?_ofJson] at h
  obtain ⟨source, hsource, rfl⟩ := Option.map_eq_some_iff.mp h
  refine ⟨source, hsource, wellShaped_ofJson (exists_of_writtenAt? hsource), ?_⟩
  intro hv members hmembers op
  have hsorted : Json.Sorted (.object members) :=
    sorted_of_payload? (sorted_of_writtenAt? hv hsource) hmembers
  rw [operands_ofJson, parts, hmembers]
  exact countP_operator?_le_one hsorted.1 op

private def conjoined : List (String × Json) :=
  [("gt", .string "a"), ("in", .array []), ("or", .string "xy"), ("zone", .null)]

private def conjunction : Json :=
  .object [("and", .object conjoined), ("name", .string "x")]

/-- The second character of the text is the only member of an object, under its index. -/
theorem wellShaped_of_at?_nested :
    (ofJson conjunction).at? [2, 1] = some (.unrecognized (.object [("1", .string "y")])) ∧
    writtenAt? conjunction [2, 1] = some (.object [("1", .string "y")]) ∧
    WellShaped [2, 1] (.object [("1", .string "y")])
      (.unrecognized (.object [("1", .string "y")])) ∧
    conjunction.Sorted ∧ payload? conjunction = some (.object conjoined) ∧
    ∀ op : Operator,
      (ofJson conjunction).operands.countP (fun operand => operand.operator? == some op) ≤ 1 := by
  have hcharacter : (ofJson conjunction).at? [2, 1] =
      some (.unrecognized (.object [("1", .string "y")])) := rfl
  have hroot : (ofJson conjunction).at? [] = some (ofJson conjunction) := rfl
  have hconjoined : (Json.object conjoined).Sorted :=
    ⟨by decide, trivial, trivial, trivial, trivial, trivial⟩
  have hsorted : conjunction.Sorted := ⟨by decide, hconjoined, trivial, trivial⟩
  obtain ⟨_, hwritten, hshape, -⟩ := wellShaped_of_at? hcharacter
  obtain ⟨_, hwhole, -, honce⟩ := wellShaped_of_at? hroot
  cases hwritten
  cases hwhole
  exact ⟨hcharacter, rfl, hshape, hsorted, rfl, honce hsorted conjoined rfl⟩

end CartCriteria.Condition
