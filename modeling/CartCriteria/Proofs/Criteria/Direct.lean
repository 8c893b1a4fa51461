import CartCriteria.Criteria.OfJson

/-! A direct interpreter of criteria as they are written. It builds no condition and walks the raw
value again at every record; reading criteria first and checking afterwards gives its verdict. -/
namespace CartCriteria.Direct

/-- The keys that an object is searched for, in this order, and what each of them asks. -/
def keys : List (String × Operator) := [
  ("gt", .compare .gt),
  ("lt", .compare .lt),
  ("gte", .compare .gte),
  ("lte", .compare .lte),
  ("in", .isIn),
  ("and", .all),
  ("or", .any)]

def operatorIn? (members : List (String × Json)) : Option (Operator × Json) :=
  keys.findSome? fun entry => (Dictionary.find? entry.1 members).map fun payload => (entry.2, payload)

/-- The keys are those of the operators in the order of their priority. -/
theorem operatorIn?_eq (members : List (String × Json)) :
    operatorIn? members = Operator.priority.findSome? fun op =>
      (Dictionary.find? op.key members).map fun payload => (op, payload) :=
  rfl

private theorem sizeOf_find {key : String} {members : List (String × Json)} {v : Json}
    (h : Dictionary.find? key members = some v) : sizeOf v < sizeOf members := by
  induction members with
  | nil => cases h
  | cons head rest ih =>
    obtain ⟨k, w⟩ := head
    rw [Dictionary.find?] at h
    split at h
    · cases h
      simp only [List.cons.sizeOf_spec, Prod.mk.sizeOf_spec]
      omega
    · have := ih h
      simp only [List.cons.sizeOf_spec]
      omega

/-- The first operator is written among the members. -/
theorem find?_of_operatorIn? {members : List (String × Json)} {op : Operator} {payload : Json}
    (h : operatorIn? members = some (op, payload)) :
    Dictionary.find? op.key members = some payload := by
  rw [operatorIn?_eq] at h
  obtain ⟨_, _, hop⟩ := List.exists_of_findSome?_eq_some h
  obtain ⟨_, hw, he⟩ := Option.map_eq_some_iff.mp hop
  cases he
  exact hw

private theorem sizeOf_operatorIn {members : List (String × Json)} {op : Operator} {payload : Json}
    (h : operatorIn? members = some (op, payload)) : sizeOf payload < sizeOf members :=
  sizeOf_find (find?_of_operatorIn? h)

private theorem sizeOf_singleton {members entries : List (String × Json)} {op : Operator}
    {m : String × Json} (h : operatorIn? members = some (op, .object entries)) (hm : m ∈ entries) :
    sizeOf (Json.object [m]) < sizeOf (Json.object members) := by
  have hp := sizeOf_operatorIn h
  have he := List.sizeOf_lt_of_mem hm
  simp only [Json.object.sizeOf_spec, List.cons.sizeOf_spec, List.nil.sizeOf_spec] at hp he ⊢
  omega

def looksLikeObject (v : Option Json) : Bool :=
  Loose.stringOf v == Loose.objectString

/-- Whether a value satisfies a condition as it is written. Of an object only the first operator
counts. The entries of a connective are satisfied as objects with a single member, by the same
value; a list or a text in their place asks for an object, unless it is empty. -/
def satisfies (v : Option Json) : Json → Bool
  | .object members =>
    match _h : operatorIn? members with
    | none => looksLikeObject v
    | some (.compare op, bound) => op.holds (Loose.compare? v (some bound))
    | some (.isIn, .array candidates) =>
      candidates.any fun c => Loose.stringOf (some c) == Loose.stringOf v
    | some (.isIn, _) => false
    | some (.all, .object entries) =>
      entries.attach.all fun ⟨m, _⟩ => satisfies v (.object [m])
    | some (.any, .object entries) =>
      entries.attach.any fun ⟨m, _⟩ => satisfies v (.object [m])
    | some (_, .array items) => !items.isEmpty && looksLikeObject v
    | some (_, .string s) => s != "" && looksLikeObject v
    | some _ => false
  | c => Loose.stringOf v == Loose.stringOf (some c)
termination_by c => sizeOf c
decreasing_by all_goals exact sizeOf_singleton _h ‹_›

/-- Whether what a path leads to satisfies a condition; of a sequence, some entry has to. -/
def satisfiesAt (c : Json) : Resolution → Bool
  | .missing => satisfies none c
  | .found (.array items) => items.any fun item => satisfies (some item) c
  | .found v => satisfies (some v) c
  | .projected entries => entries.any fun e => satisfies e c

def verdict (record : Json) (members : List (String × Json)) : Bool :=
  members.all fun (path, c) => satisfiesAt c (.ofPath record path)

/-- The keys of operators are read back. -/
theorem ofKey?_key (op : Operator) : Operator.ofKey? op.key = some op := by
  cases op with
  | compare c => cases c <;> decide
  | isIn => decide
  | all => decide
  | any => decide

private theorem firstOf_eq (members : List (String × Json)) (ops : List Operator) :
    Condition.firstOf members ops =
      (ops.findSome? fun op => (Dictionary.find? op.key members).map fun payload => (op, payload)).map
        fun found => Condition.ofMember found.1.key found.2 := by
  induction ops with
  | nil => rfl
  | cons op ops ih =>
    rw [Condition.firstOf, List.findSome?_cons]
    cases Dictionary.find? op.key members with
    | none => exact ih
    | some payload => rfl

/-- The condition of an object is that of its first operator. -/
theorem ofJson_object (members : List (String × Json)) :
    Condition.ofJson (.object members) =
      match operatorIn? members with
      | some (op, payload) => Condition.ofMember op.key payload
      | none => .unrecognized (.object members) := by
  rw [Condition.ofJson, firstOf_eq, operatorIn?_eq]
  cases Operator.priority.findSome? fun op =>
    (Dictionary.find? op.key members).map fun payload => (op, payload) <;> rfl

/-- Of an object with one member the key decides. -/
theorem operatorIn?_singleton (key : String) (x : Json) :
    operatorIn? [(key, x)] = (Operator.ofKey? key).map fun op => (op, x) := by
  rw [operatorIn?_eq, Operator.ofKey?]
  induction Operator.priority with
  | nil => rfl
  | cons op ops ih =>
    rw [List.findSome?_cons, List.find?_cons]
    by_cases hk : op.key = key
    · simp [Dictionary.find?, hk]
    · rw [beq_false_of_ne hk]
      simpa [Dictionary.find?, Ne.symm hk] using ih

/-- An operator is found by no other key than its own. -/
theorem key_of_ofKey? {key : String} {op : Operator} (h : Operator.ofKey? key = some op) :
    op.key = key := by
  simpa using List.find?_some h

/-- A member read on its own is the object that has it alone: the shortcut that skips the search
for an operator changes nothing. -/
theorem ofMember_eq_ofJson (key : String) (x : Json) :
    Condition.ofMember key x = .ofJson (.object [(key, x)]) := by
  rw [ofJson_object, operatorIn?_singleton]
  cases h : Operator.ofKey? key with
  | none => simp [Condition.ofMember, h, Condition.singleton]
  | some op => simp [key_of_ofKey? h]

private theorem allHoldOf_ofMembers (v : Option Json) (entries : List (String × Json))
    (h : ∀ m ∈ entries, (Condition.ofJson (.object [m])).holdsOf v = satisfies v (.object [m])) :
    Condition.allHoldOf v (Condition.ofMembers entries) =
      entries.all fun m => satisfies v (.object [m]) := by
  induction entries with
  | nil => rfl
  | cons m entries ih =>
    rw [Condition.ofMembers, Condition.allHoldOf, ofMember_eq_ofJson, h m (.head _),
      ih fun n hn => h n (.tail _ hn), List.all_cons]

private theorem anyHoldsOf_ofMembers (v : Option Json) (entries : List (String × Json))
    (h : ∀ m ∈ entries, (Condition.ofJson (.object [m])).holdsOf v = satisfies v (.object [m])) :
    Condition.anyHoldsOf v (Condition.ofMembers entries) =
      entries.any fun m => satisfies v (.object [m]) := by
  induction entries with
  | nil => rfl
  | cons m entries ih =>
    rw [Condition.ofMembers, Condition.anyHoldsOf, ofMember_eq_ofJson, h m (.head _),
      ih fun n hn => h n (.tail _ hn), List.any_cons]

private theorem holdsOf_indexed (v : Option Json) (values : List Json) :
    ∀ c ∈ Condition.indexed values, c.holdsOf v = looksLikeObject v := by
  intro c hc
  obtain ⟨⟨w, i⟩, _, rfl⟩ := List.mem_map.mp hc
  rfl

private theorem allHoldOf_const (v : Option Json) (b : Bool) :
    ∀ cs : List Condition, (∀ c ∈ cs, c.holdsOf v = b) → cs ≠ [] → Condition.allHoldOf v cs = b
  | [c], h, _ => by simp [Condition.allHoldOf, h c]
  | c :: d :: cs, h, _ => by
    have hrest := allHoldOf_const v b (d :: cs) (fun e he => h e (.tail _ he)) (by simp)
    rw [Condition.allHoldOf, hrest, h c (.head _), Bool.and_self]

private theorem anyHoldsOf_const (v : Option Json) (b : Bool) :
    ∀ cs : List Condition, (∀ c ∈ cs, c.holdsOf v = b) → cs ≠ [] → Condition.anyHoldsOf v cs = b
  | [c], h, _ => by simp [Condition.anyHoldsOf, h c]
  | c :: d :: cs, h, _ => by
    have hrest := anyHoldsOf_const v b (d :: cs) (fun e he => h e (.tail _ he)) (by simp)
    rw [Condition.anyHoldsOf, hrest, h c (.head _), Bool.or_self]

theorem indexed_isEmpty (values : List Json) :
    (Condition.indexed values).isEmpty = values.isEmpty := by
  cases values <;> rfl

private theorem holdsOf_connect (v : Option Json) (key : String) (payload : Json)
    (build : List Condition → Condition)
    (hbuild : ∀ cs : List Condition, (∀ c ∈ cs, c.holdsOf v = looksLikeObject v) → cs ≠ [] →
      (build cs).holdsOf v = looksLikeObject v) :
    (Condition.connect build key payload).holdsOf v =
      match payload with
      | .array items => !items.isEmpty && looksLikeObject v
      | .string s => s != "" && looksLikeObject v
      | _ => false := by
  have hindexed : ∀ values : List Json, values ≠ [] →
      (build (Condition.indexed values)).holdsOf v = looksLikeObject v := by
    intro values hne
    apply hbuild _ (holdsOf_indexed v values)
    cases values with
    | nil => exact absurd rfl hne
    | cons _ _ => simp [Condition.indexed]
  rw [Condition.connect]
  split
  · rename_i hempty
    cases payload with
    | array items =>
      rw [Condition.expanded, indexed_isEmpty] at hempty
      simp [hempty, Condition.holdsOf]
    | string s =>
      rw [Condition.expanded, indexed_isEmpty] at hempty
      have hs : s = "" := by simpa using hempty
      simp [hs, Condition.holdsOf]
    | null | bool | number | object => rfl
  · rename_i hne
    cases payload with
    | array items =>
      rw [Condition.expanded, indexed_isEmpty] at hne
      simp [Condition.expanded, hindexed items (by simpa using hne), Bool.eq_false_iff.mpr hne]
    | string s =>
      rw [Condition.expanded, indexed_isEmpty] at hne
      have hs : s ≠ "" := by simpa using hne
      rw [Condition.expanded, hindexed _ (by simpa using hs)]
      simp [hs]
    | null | bool | number | object => exact absurd rfl hne

private theorem holdsOf_candidates (v : Option Json) (payload : Json) :
    (Condition.isIn (Condition.candidates payload)).holdsOf v =
      match payload with
      | .array candidates => candidates.any fun c => Loose.stringOf (some c) == Loose.stringOf v
      | _ => false := by
  cases payload <;> rfl

/-- An object is satisfied as its first operator asks; the entries of a connective, each alone. -/
theorem satisfies_object (v : Option Json) (members : List (String × Json)) :
    satisfies v (.object members) =
      match operatorIn? members with
      | none => looksLikeObject v
      | some (.compare op, bound) => op.holds (Loose.compare? v (some bound))
      | some (.isIn, .array candidates) =>
        candidates.any fun c => Loose.stringOf (some c) == Loose.stringOf v
      | some (.isIn, _) => false
      | some (.all, .object entries) => entries.all fun m => satisfies v (.object [m])
      | some (.any, .object entries) => entries.any fun m => satisfies v (.object [m])
      | some (_, .array items) => !items.isEmpty && looksLikeObject v
      | some (_, .string s) => s != "" && looksLikeObject v
      | some _ => false := by
  rw [satisfies.eq_def]
  dsimp only
  split <;> simp only [*]
  · exact (List.all_subtype fun _ _ => rfl).trans (by rw [List.unattach_attach])
  · exact (List.any_subtype fun _ _ => rfl).trans (by rw [List.unattach_attach])

/-- Reading a condition and then asking whether it holds is satisfying it as it is written. The
recursion is on the size of the raw value: an entry of a connective becomes an object of its own. -/
theorem holdsOf_ofJson (v : Option Json) (c : Json) :
    (Condition.ofJson c).holdsOf v = satisfies v c := by
  cases c with
  | null | bool | number | string | array =>
    rw [satisfies.eq_def]
    rfl
  | object members =>
    rw [ofJson_object, satisfies_object]
    cases h : operatorIn? members with
    | none => rfl
    | some found =>
      obtain ⟨op, payload⟩ := found
      have hentry : ∀ entries, payload = .object entries → ∀ m ∈ entries,
          (Condition.ofJson (.object [m])).holdsOf v = satisfies v (.object [m]) := by
        rintro entries rfl m hm
        exact holdsOf_ofJson v (.object [m])
      dsimp only
      rw [Condition.ofMember.eq_def, ofKey?_key]
      cases op with
      | compare op => rfl
      | isIn =>
        rw [holdsOf_candidates]
        cases payload <;> rfl
      | all =>
        cases payload with
        | object entries =>
          exact allHoldOf_ofMembers v entries (hentry entries rfl)
        | null | bool | number | string | array =>
          exact holdsOf_connect v _ _ .all (fun cs => allHoldOf_const v _ cs)
      | any =>
        cases payload with
        | object entries =>
          exact anyHoldsOf_ofMembers v entries (hentry entries rfl)
        | null | bool | number | string | array =>
          exact holdsOf_connect v _ _ .any (fun cs => anyHoldsOf_const v _ cs)
termination_by sizeOf c
decreasing_by exact sizeOf_singleton h hm

private theorem holdsAt_ofJson (c : Json) (r : Resolution) :
    (Condition.ofJson c).holdsAt r = satisfiesAt c r := by
  cases r with
  | missing => exact holdsOf_ofJson none c
  | projected entries => simp only [Condition.holdsAt, satisfiesAt, holdsOf_ofJson]
  | found v => cases v <;> simp only [Condition.holdsAt, satisfiesAt, holdsOf_ofJson]

/-- Checking a record answers with the direct verdict when the criteria are an object, and with an
error, which names what they are instead, exactly when they are not. -/
theorem check_eq_verdict (record criteria : Json) :
    Criteria.check record criteria =
      match criteria with
      | .object members => .ok (verdict record members)
      | v => .error ⟨v.kindName, ""⟩ := by
  cases criteria with
  | null | bool | number | string | array => rfl
  | object members =>
    have hmeets : ∀ m : String × Json,
        Criteria.meets record (m.1, Condition.ofJson m.2) = satisfiesAt m.2 (.ofPath record m.1) :=
      fun m => holdsAt_ofJson m.2 _
    simp only [Criteria.check, Criteria.ofJson, Except.map, Criteria.eligible, verdict, List.all_map,
      Function.comp_def, hmeets]

end CartCriteria.Direct
