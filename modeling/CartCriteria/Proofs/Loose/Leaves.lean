import CartCriteria.Loose.Order

/-! The string form of arrays of any depth: it joins the leaves by commas. Arrays in arrays are opened
where they stand, and an empty one leaves an empty text behind. The text does not tell leaves apart
that have commas of their own, so arrays may be equal whose leaves are not. -/
namespace CartCriteria.Loose

/-- Values are equal if they have one string form. -/
theorem equal_iff {a b : Option Json} : equal a b = true ↔ stringOf a = stringOf b :=
  beq_iff_eq

private theorem joinCommas_eq_intercalate (texts : List String) :
    joinCommas texts = ",".intercalate texts := by
  induction texts with
  | nil => exact String.intercalate_nil.symm
  | cons first rest ih =>
    cases rest with
    | nil => exact String.intercalate_singleton.symm
    | cons next rest => rw [joinCommas, ih, String.intercalate_cons_cons]

mutual

/-- The leaves of an item of an array, each by its text. -/
def leavesOf : Json → List String
  | .null => [""]
  | .array [] => [""]
  | .array items => leaves items
  | v => [stringForm v]

def leaves : List Json → List String
  | [] => []
  | v :: rest => leavesOf v ++ leaves rest

end

/-- No item goes without a leaf. -/
theorem leavesOf_ne_nil : ∀ v, leavesOf v ≠ []
  | .null | .bool _ | .number _ | .string _ | .object _ | .array [] => List.cons_ne_nil _ _
  | .array (v :: _) => List.append_ne_nil_of_left_ne_nil (leavesOf_ne_nil v) _

private theorem leaves_ne_nil (v : Json) (rest : List Json) : leaves (v :: rest) ≠ [] :=
  List.append_ne_nil_of_left_ne_nil (leavesOf_ne_nil v) _

def itemString : Json → String
  | .null => ""
  | v => stringForm v

private theorem itemStrings_cons (v : Json) (rest : List Json) :
    itemStrings (v :: rest) = itemString v :: itemStrings rest := by
  cases v <;> rfl

mutual

/-- What an array joins for an item is the join of its leaves. -/
theorem itemString_eq : ∀ v, itemString v = ",".intercalate (leavesOf v)
  | .null | .bool _ | .number _ | .string _ | .object _ | .array [] =>
    String.intercalate_singleton.symm
  | .array (v :: rest) => by
    change joinCommas (itemStrings (v :: rest)) = ",".intercalate (leaves (v :: rest))
    rw [joinCommas_eq_intercalate, intercalate_itemStrings]

/-- No leaves are lost or made up where the joins of items are joined. -/
theorem intercalate_itemStrings : ∀ items,
    ",".intercalate (itemStrings items) = ",".intercalate (leaves items)
  | [] => rfl
  | [v] => by
    rw [itemStrings_cons, leaves, itemStrings, leaves, List.append_nil,
      String.intercalate_singleton, itemString_eq v]
  | v :: w :: rest => by
    have hstrings : itemStrings (w :: rest) ≠ [] := by
      rw [itemStrings_cons]
      exact List.cons_ne_nil _ _
    rw [itemStrings_cons, leaves, String.intercalate_cons_of_ne_nil hstrings,
      String.intercalate_append_of_ne_nil (leavesOf_ne_nil v) (leaves_ne_nil w rest),
      itemString_eq v, intercalate_itemStrings (w :: rest)]

end

/-- The string form of an array joins its leaves by commas, and arrays with the same leaves are equal,
however they are nested. -/
theorem stringForm_array (items : List Json) :
    stringForm (.array items) = ",".intercalate (leaves items) ∧
    ∀ other, leaves items = leaves other →
      equal (some (.array items)) (some (.array other)) = true := by
  have hjoin (items : List Json) : stringForm (.array items) = ",".intercalate (leaves items) := by
    rw [stringForm, joinCommas_eq_intercalate, intercalate_itemStrings]
  refine ⟨hjoin items, fun other hleaves => ?_⟩
  rw [equal_iff, stringOf, stringOf, hjoin, hjoin, hleaves]

private def deepItems : List Json :=
  [.array [.string "a", .array [.null, .array []]], .object [("b", .null)]]

private def shallowItems : List Json :=
  [.string "a", .array [], .array [.array [.array []], .object []]]

/-- Null and empty arrays are empty leaves at every depth, and objects are never opened. -/
theorem stringForm_array_nested :
    stringForm (.array deepItems) = "a,,,[object Object]" ∧
    leaves deepItems = leaves shallowItems ∧
    equal (some (.array deepItems)) (some (.array shallowItems)) = true := by
  obtain ⟨hjoin, hequal⟩ := stringForm_array deepItems
  have hleaves : leaves deepItems = leaves shallowItems := rfl
  refine ⟨hjoin.trans ?_, hleaves, hequal shallowItems hleaves⟩
  decide +kernel

end CartCriteria.Loose
