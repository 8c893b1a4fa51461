import CartCriteria.Proofs.Dictionary
import CartCriteria.Proofs.Json.NumberText
import CartCriteria.Proofs.Json.StringText

/-! The document that a value is written as, and what it denotes. It denotes a value when each of its
numbers denotes one, and it denotes the value that was written when each number denotes itself. -/
namespace CartCriteria

namespace Json

mutual

/-- How many containers the deepest place of the value lies in. -/
def depth : Json → Nat
  | array items => depthOfItems items + 1
  | object members => depthOfMembers members + 1
  | _ => 0

def depthOfItems : List Json → Nat
  | [] => 0
  | v :: rest => max (depth v) (depthOfItems rest)

def depthOfMembers : List (String × Json) → Nat
  | [] => 0
  | (_, v) :: rest => max (depth v) (depthOfMembers rest)

end

mutual

/-- Whether the numbers and the strings of a value, its keys among them, are as asked for. -/
def all (number : JsonNumber → Bool) (string : String → Bool) : Json → Bool
  | .number n => number n
  | .string s => string s
  | array items => allItems number string items
  | object members => allMembers number string members
  | _ => true

def allItems (number : JsonNumber → Bool) (string : String → Bool) : List Json → Bool
  | [] => true
  | v :: rest => all number string v && allItems number string rest

def allMembers (number : JsonNumber → Bool) (string : String → Bool) :
    List (String × Json) → Bool
  | [] => true
  | (key, v) :: rest => string key && (all number string v && allMembers number string rest)

end

def allNumbers (number : JsonNumber → Bool) : Json → Bool :=
  all number fun _ => true

def allStrings (string : String → Bool) : Json → Bool :=
  all (fun _ => true) string

mutual

private theorem all_true : ∀ v : Json, all (fun _ => true) (fun _ => true) v = true
  | null | bool _ | number _ | string _ => rfl
  | array items => allItems_true items
  | object members => allMembers_true members

private theorem allItems_true : ∀ items, allItems (fun _ => true) (fun _ => true) items = true
  | [] => rfl
  | v :: rest => by rw [allItems, all_true v, allItems_true rest, Bool.true_and]

private theorem allMembers_true : ∀ members,
    allMembers (fun _ => true) (fun _ => true) members = true
  | [] => rfl
  | (_, v) :: rest => by
    rw [allMembers, all_true v, allMembers_true rest, Bool.true_and, Bool.true_and]

end

theorem allStrings_true (v : Json) : v.allStrings (fun _ => true) = true :=
  all_true v

theorem allNumbers_true (v : Json) : v.allNumbers (fun _ => true) = true :=
  all_true v

mutual

/-- What is asked for of numbers and strings may be less. -/
theorem all_imp {number number' : JsonNumber → Bool} {string : String → Bool}
    (h : ∀ n, number n = true → number' n = true) : ∀ {v : Json},
      all number string v = true → all number' string v = true
  | null, _ | bool _, _ => rfl
  | .number n, hv => h n hv
  | .string _, hv => hv
  | array _, hv => allItems_imp h hv
  | object _, hv => allMembers_imp h hv

private theorem allItems_imp {number number' : JsonNumber → Bool} {string : String → Bool}
    (h : ∀ n, number n = true → number' n = true) : ∀ {items : List Json},
      allItems number string items = true → allItems number' string items = true
  | [], _ => rfl
  | v :: rest, hv => by
    rw [allItems, Bool.and_eq_true] at hv ⊢
    exact ⟨all_imp h hv.1, allItems_imp h hv.2⟩

private theorem allMembers_imp {number number' : JsonNumber → Bool} {string : String → Bool}
    (h : ∀ n, number n = true → number' n = true) : ∀ {members : List (String × Json)},
      allMembers number string members = true → allMembers number' string members = true
  | [], _ => rfl
  | (_, v) :: rest, hv => by
    rw [allMembers, Bool.and_eq_true, Bool.and_eq_true] at hv ⊢
    exact ⟨hv.1, all_imp h hv.2.1, allMembers_imp h hv.2.2⟩

end

end Json

namespace Document

mutual

/-- The document that the text of a value is. -/
def ofJson : Json → Document
  | .null => null
  | .bool b => bool b
  | .number n => number n.spelling
  | .string s => string (StringPiece.ofString s)
  | .array items => array (ofItems items)
  | .object members => object (ofMembers members)

def ofItems : List Json → List Document
  | [] => []
  | v :: rest => ofJson v :: ofItems rest

def ofMembers : List (String × Json) → List (List StringPiece × Document)
  | [] => []
  | (key, v) :: rest => (StringPiece.ofString key, ofJson v) :: ofMembers rest

end

mutual

/-- A value nests as deep when it is written. -/
theorem depth_ofJson : (v : Json) → (ofJson v).depth = v.depth
  | .null | .bool _ | .number _ | .string _ => rfl
  | .array items => congrArg (· + 1) (depth_ofItems items)
  | .object members => congrArg (· + 1) (depth_ofMembers members)

private theorem depth_ofItems :
    (items : List Json) → depthOfItems (ofItems items) = Json.depthOfItems items
  | [] => rfl
  | v :: rest => by
    rw [ofItems, depthOfItems, Json.depthOfItems, depth_ofJson v, depth_ofItems rest]

private theorem depth_ofMembers : (members : List (String × Json)) →
    depthOfMembers (ofMembers members) = Json.depthOfMembers members
  | [] => rfl
  | (_, v) :: rest => by
    rw [ofMembers, depthOfMembers, Json.depthOfMembers, depth_ofJson v, depth_ofMembers rest]

end

theorem ofMembers_eq_map : (members : List (String × Json)) →
    ofMembers members = members.map fun (key, v) => (StringPiece.ofString key, ofJson v)
  | [] => rfl
  | (_, _) :: rest => congrArg (_ :: ·) (ofMembers_eq_map rest)

variable (reading : Reading)

def rereads (n : JsonNumber) : Bool :=
  (reading.number n.spelling).isSome

/-- Whether a number denotes itself when it is read again. -/
def keeps (n : JsonNumber) : Bool :=
  match reading.number n.spelling with
  | some (.number m) => m == n
  | _ => false

mutual

/-- A written value is read if each of its numbers is. -/
theorem toJson?_ofJson_isSome : (v : Json) →
    (toJson? reading (ofJson v)).isSome = v.allNumbers (rereads reading)
  | .null | .bool _ | .number _ => rfl
  | .string s => by
    rw [ofJson, toJson?, StringPiece.text?_ofString]
    rfl
  | .array items => by
    rw [ofJson, toJson?, Option.isSome_map, itemsToJson?_ofItems_isSome items]
    rfl
  | .object members => by
    rw [ofJson, toJson?, Option.isSome_map, membersToJson?_ofMembers_isSome members]
    rfl

private theorem itemsToJson?_ofItems_isSome : (items : List Json) →
    (itemsToJson? reading (ofItems items)).isSome =
      Json.allItems (rereads reading) (fun _ => true) items
  | [] => rfl
  | v :: rest => by
    have hv := toJson?_ofJson_isSome v
    have hrest := itemsToJson?_ofItems_isSome rest
    rw [Json.allNumbers] at hv
    rw [ofItems, itemsToJson?, Json.allItems, ← hv, ← hrest]
    cases toJson? reading (ofJson v) <;> cases itemsToJson? reading (ofItems rest) <;> rfl

private theorem membersToJson?_ofMembers_isSome : (members : List (String × Json)) →
    (membersToJson? reading (ofMembers members)).isSome =
      Json.allMembers (rereads reading) (fun _ => true) members
  | [] => rfl
  | (key, v) :: rest => by
    have hv := toJson?_ofJson_isSome v
    have hrest := membersToJson?_ofMembers_isSome rest
    rw [Json.allNumbers] at hv
    rw [ofMembers, membersToJson?, StringPiece.text?_ofString, Json.allMembers, ← hv, ← hrest]
    cases toJson? reading (ofJson v) <;> cases membersToJson? reading (ofMembers rest) <;> rfl

end

/-- A number is kept if its spelling is read as the number itself. -/
theorem keeps_iff {n : JsonNumber} :
    keeps reading n = true ↔ reading.number n.spelling = some (.number n) := by
  rw [keeps]
  split
  · rename_i m h
    rw [h, beq_iff_eq, Option.some.injEq, Json.number.injEq]
  · rename_i h
    exact ⟨nofun, fun hn => absurd hn (h n)⟩

/-- The keys of what members denote are their own. -/
theorem keys_of_membersToJson? : ∀ {members values : List (String × Json)},
    membersToJson? reading (ofMembers members) = some values →
      values.map (·.1) = members.map (·.1)
  | [], _, h => by
    cases h
    rfl
  | (key, v) :: rest, _, h => by
    rw [ofMembers, membersToJson?, StringPiece.text?_ofString] at h
    obtain ⟨_, hkey, h⟩ := Option.bind_eq_some_iff.mp h
    obtain ⟨w, -, h⟩ := Option.bind_eq_some_iff.mp h
    obtain ⟨ws, hws, h⟩ := Option.bind_eq_some_iff.mp h
    cases hkey
    cases h
    rw [List.map_cons, List.map_cons, keys_of_membersToJson? hws]

private theorem object_ofMembers_iff {members values : List (String × Json)}
    (hsorted : Dictionary.Sorted members)
    (hvalues : membersToJson? reading (ofMembers members) = some values) :
    Json.ofMembers values = .object members ↔ values = members := by
  have hsame := (Dictionary.sorted_iff_of_keys (keys_of_membersToJson? reading hvalues)).mpr hsorted
  rw [Json.ofMembers, Dictionary.ofList_of_sorted hsame, Json.object.injEq]

mutual

/-- A value denotes itself when its numbers do. -/
theorem toJson?_ofJson_eq_iff : ∀ {v : Json}, v.Sorted →
    (toJson? reading (ofJson v) = some v ↔ v.allNumbers (keeps reading) = true)
  | .null, _ | .bool _, _ => ⟨fun _ => rfl, fun _ => rfl⟩
  | .number n, _ => (keeps_iff reading).symm
  | .string s, _ => by
    rw [ofJson, toJson?, StringPiece.text?_ofString]
    exact ⟨fun _ => rfl, fun _ => rfl⟩
  | .array items, h => by
    have hitems := itemsToJson?_ofItems_eq_iff h
    rw [ofJson, toJson?, Json.allNumbers, Json.all, ← hitems]
    cases itemsToJson? reading (ofItems items) <;> simp
  | .object members, h => by
    have hmembers := membersToJson?_ofMembers_eq_iff h.2
    rw [ofJson, toJson?, Json.allNumbers, Json.all, ← hmembers]
    cases hvalues : membersToJson? reading (ofMembers members) with
    | none => simp
    | some values =>
      rw [Option.map_some, Option.some.injEq, Option.some.injEq]
      exact object_ofMembers_iff reading h.1 hvalues

private theorem itemsToJson?_ofItems_eq_iff : ∀ {items : List Json}, Json.SortedItems items →
    (itemsToJson? reading (ofItems items) = some items ↔
      Json.allItems (keeps reading) (fun _ => true) items = true)
  | [], _ => ⟨fun _ => rfl, fun _ => rfl⟩
  | v :: rest, h => by
    have hv := toJson?_ofJson_eq_iff h.1
    have hrest := itemsToJson?_ofItems_eq_iff h.2
    rw [Json.allNumbers] at hv
    rw [ofItems, itemsToJson?, Json.allItems, Bool.and_eq_true, ← hv, ← hrest]
    cases toJson? reading (ofJson v) <;> cases itemsToJson? reading (ofItems rest) <;> simp

private theorem membersToJson?_ofMembers_eq_iff : ∀ {members : List (String × Json)},
    Json.SortedMembers members →
    (membersToJson? reading (ofMembers members) = some members ↔
      Json.allMembers (keeps reading) (fun _ => true) members = true)
  | [], _ => ⟨fun _ => rfl, fun _ => rfl⟩
  | (key, v) :: rest, h => by
    have hv := toJson?_ofJson_eq_iff h.1
    have hrest := membersToJson?_ofMembers_eq_iff h.2
    rw [Json.allNumbers] at hv
    rw [ofMembers, membersToJson?, StringPiece.text?_ofString, Json.allMembers, Bool.true_and,
      Bool.and_eq_true, ← hv, ← hrest]
    cases toJson? reading (ofJson v) <;> cases membersToJson? reading (ofMembers rest) <;> simp

end

end Document

namespace Relaxed

/-- A relaxed document reads the numbers that it holds. -/
theorem rereads_eq : Document.rereads reading = holds := by
  funext n
  change (json? n.spelling).isSome = holds n
  rw [json?_spelling]
  cases holds n <;> rfl

/-- It reads each of them as it is. -/
theorem keeps_eq : Document.keeps reading = holds := by
  funext n
  rw [Bool.eq_iff_iff, Document.keeps_iff]
  change json? n.spelling = some (.number n) ↔ _
  rw [json?_spelling]
  cases holds n <;> simp

end Relaxed
end CartCriteria
