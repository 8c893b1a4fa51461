import CartCriteria.Proofs.Json.Written

/-! The scanning of pretty text. What both grammars of documents do at each point of such a text is
collected as a set of laws, and from these one induction over the value shows that its text is
scanned as the document it is written as, exactly when all its strings are legible. -/
namespace CartCriteria

/-- The scanners of a grammar of documents, each with its fuel first. -/
structure Grammar where
  value : Nat → List Char → Option (Document × List Char)
  items : Nat → List Char → Option (List Document × List Char)
  members : Nat → List Char → Option (List (List StringPiece × Document) × List Char)

def StartsValue (cs : List Char) : Prop :=
  ∃ c tail, cs = c :: tail ∧ (c ∈ ['n', 't', 'f', '"', '[', '{', '-'] ∨ c.isDigit = true)

namespace Grammar

open Json

/-- What a grammar does at each point of a pretty text. -/
structure ScansPretty (g : Grammar) (legible : String → Bool) : Prop where
  null : ∀ fuel rest, g.value (fuel + 1) ("null".toList ++ rest) = some (.null, rest)
  bool : ∀ fuel b rest,
    g.value (fuel + 1) ((if b then "true" else "false").toList ++ rest) = some (.bool b, rest)
  number : ∀ fuel n {rest}, Delimited rest →
    g.value (fuel + 1) ((numberText n).toList ++ rest) = some (.number n.spelling, rest)
  string : ∀ fuel s rest, g.value (fuel + 1) (stringChars s ++ rest) =
    if legible s then some (.string (StringPiece.ofString s), rest) else none
  emptyArray : ∀ fuel rest, g.value (fuel + 1) ('[' :: ']' :: rest) = some (.array [], rest)
  emptyObject : ∀ fuel rest, g.value (fuel + 1) ('{' :: '}' :: rest) = some (.object [], rest)
  array : ∀ fuel depth {cs}, StartsValue cs → g.value (fuel + 1) ('[' :: (newLine depth ++ cs)) =
    (g.items fuel cs).map fun (items, rest) => (.array items, rest)
  object : ∀ fuel depth {cs}, StartsValue cs → g.value (fuel + 1) ('{' :: (newLine depth ++ cs)) =
    (g.members fuel cs).map fun (members, rest) => (.object members, rest)
  items_none : ∀ {fuel cs}, g.value fuel cs = none → g.items (fuel + 1) cs = none
  items_last : ∀ {fuel cs d} depth {rest},
    g.value fuel cs = some (d, newLine depth ++ ']' :: rest) →
      g.items (fuel + 1) cs = some ([d], rest)
  items_more : ∀ {fuel cs d} depth {next}, StartsValue next →
    g.value fuel cs = some (d, ',' :: (newLine depth ++ next)) →
      g.items (fuel + 1) cs = (g.items fuel next).map fun (items, rest) => (d :: items, rest)
  members_key : ∀ fuel {key} cs, legible key = false →
    g.members (fuel + 1) (stringChars key ++ cs) = none
  members_none : ∀ {fuel} key {cs}, StartsValue cs → g.value fuel cs = none →
    g.members (fuel + 1) (stringChars key ++ ':' :: ' ' :: cs) = none
  members_last : ∀ {fuel key cs d} depth {rest}, legible key = true → StartsValue cs →
    g.value fuel cs = some (d, newLine depth ++ '}' :: rest) →
      g.members (fuel + 1) (stringChars key ++ ':' :: ' ' :: cs) =
        some ([(StringPiece.ofString key, d)], rest)
  members_more : ∀ {fuel key cs d} depth {next}, legible key = true → StartsValue cs →
    StartsValue next → g.value fuel cs = some (d, ',' :: (newLine depth ++ next)) →
      g.members (fuel + 1) (stringChars key ++ ':' :: ' ' :: cs) =
        (g.members fuel next).map fun (members, rest) =>
          ((StringPiece.ofString key, d) :: members, rest)

end Grammar

private theorem startsValue_stringChars (s : String) (rest : List Char) :
    StartsValue (Json.stringChars s ++ rest) :=
  ⟨'"', _, rfl, .inl (by decide)⟩

/-- The text of a number begins with a minus or a digit. -/
theorem startsNumber_numberText (n : JsonNumber) (rest : List Char) :
    ∃ c tail, (Json.numberText n).toList ++ rest = c :: tail ∧ (c = '-' ∨ c.isDigit = true) := by
  rw [n.toList_numberText, List.append_assoc]
  cases n.isNegative with
  | true => exact ⟨'-', _, rfl, .inl rfl⟩
  | false =>
    obtain ⟨c, tail, hchars, hc⟩ := n.numeral_isPlain.chars_eq_cons
    exact ⟨c, tail ++ rest, by rw [hchars]; rfl, .inr hc⟩

/-- What starts a number starts nothing else. -/
theorem startsNumber_ne {c x : Char} {tail rest : List Char} (hc : c = '-' ∨ c.isDigit = true)
    (hminus : x ≠ '-') (hdigit : x.isDigit = false) : c :: tail ≠ x :: rest := by
  intro h
  cases h
  rcases hc with hc | hc
  · exact hminus hc
  · rw [hdigit] at hc
    cases hc

private theorem startsValue_numberText (n : JsonNumber) (rest : List Char) :
    StartsValue ((Json.numberText n).toList ++ rest) := by
  obtain ⟨c, tail, hchars, rfl | hc⟩ := startsNumber_numberText n rest
  · exact ⟨'-', tail, hchars, .inl (by decide)⟩
  · exact ⟨c, tail, hchars, .inr hc⟩

/-- The text of a value begins as a value does. -/
theorem startsValue_prettyChars (depth : Nat) (v : Json) (rest : List Char) :
    StartsValue (v.prettyChars depth ++ rest) := by
  cases v with
  | null => exact ⟨'n', _, rfl, .inl (by decide)⟩
  | bool b => cases b <;> exact ⟨_, _, rfl, .inl (by decide)⟩
  | number n => exact startsValue_numberText n rest
  | string s => exact startsValue_stringChars s rest
  | array items => cases items <;> exact ⟨'[', _, rfl, .inl (by decide)⟩
  | object members => cases members <;> exact ⟨'{', _, rfl, .inl (by decide)⟩

private theorem length_newLine (depth : Nat) : (Json.newLine depth).length = 2 * depth + 1 := by
  rw [Json.newLine, List.length_cons, List.length_replicate]

private theorem delimited_prettyItems (depth : Nat) (items : List Json) (rest : List Char) :
    Delimited (Json.prettyItems depth items ++ rest) := by
  intro c hc
  cases items <;> cases hc <;> decide

private theorem delimited_prettyMembers (depth : Nat) (members : List (String × Json))
    (rest : List Char) : Delimited (Json.prettyMembers depth members ++ rest) := by
  intro c hc
  match members with
  | [] | (_, _) :: _ => cases hc; decide

namespace Grammar.ScansPretty

open Json

variable {g : Grammar} {legible : String → Bool} (h : g.ScansPretty legible)

include h

private theorem items_start {fuel : Nat} {cs behind rest : List Char} {v : Json} {items : List Json}
    (hvalue : g.value fuel cs = if v.allStrings legible then some (.ofJson v, behind) else none)
    (hitems : g.value fuel cs = some (.ofJson v, behind) → g.items (fuel + 1) cs =
      if allItems (fun _ => true) legible items then
        some (.ofJson v :: Document.ofItems items, rest)
      else none) :
    g.items (fuel + 1) cs =
      if allItems (fun _ => true) legible (v :: items) then
        some (Document.ofItems (v :: items), rest)
      else none := by
  rw [allStrings] at hvalue
  rw [allItems]
  cases hv : all (fun _ => true) legible v with
  | true => exact hitems (by rw [hvalue, hv, if_pos rfl])
  | false => exact h.items_none (by rw [hvalue, hv]; rfl)

private theorem members_start {fuel : Nat} {cs behind rest : List Char} {key : String} {v : Json}
    {members : List (String × Json)} (hstart : StartsValue cs)
    (hvalue : g.value fuel cs = if v.allStrings legible then some (.ofJson v, behind) else none)
    (hmembers : legible key = true → g.value fuel cs = some (.ofJson v, behind) →
      g.members (fuel + 1) (stringChars key ++ ':' :: ' ' :: cs) =
        if allMembers (fun _ => true) legible members then
          some ((StringPiece.ofString key, .ofJson v) :: Document.ofMembers members, rest)
        else none) :
    g.members (fuel + 1) (stringChars key ++ ':' :: ' ' :: cs) =
      if allMembers (fun _ => true) legible ((key, v) :: members) then
        some (Document.ofMembers ((key, v) :: members), rest)
      else none := by
  rw [allStrings] at hvalue
  rw [allMembers]
  cases hkey : legible key with
  | false => exact h.members_key fuel _ hkey
  | true =>
    cases hv : all (fun _ => true) legible v with
    | true => exact hmembers hkey (by rw [hvalue, hv, if_pos rfl])
    | false => exact h.members_none key hstart (by rw [hvalue, hv]; rfl)

mutual

/-- The pretty text of a value is scanned as its document when its strings are legible, and is
refused otherwise. -/
theorem value_prettyChars : (v : Json) → ∀ {fuel depth : Nat} {rest : List Char},
    2 * (v.prettyChars depth).length ≤ fuel + 1 → Delimited rest →
      g.value (fuel + 1) (v.prettyChars depth ++ rest) =
        if v.allStrings legible then some (.ofJson v, rest) else none
  | .null, fuel, _, rest, _, _ => h.null fuel rest
  | .bool b, fuel, _, rest, _, _ => h.bool fuel b rest
  | .number n, fuel, _, _, _, hrest => h.number fuel n hrest
  | .string s, fuel, _, rest, _, _ => h.string fuel s rest
  | .array [], fuel, _, rest, _, _ => h.emptyArray fuel rest
  | .object [], fuel, _, rest, _, _ => h.emptyObject fuel rest
  | .array (v :: items), fuel, depth, rest, hfuel, _ => by
    rw [prettyChars] at hfuel ⊢
    simp only [List.length_cons, List.length_append, length_newLine] at hfuel
    obtain ⟨fuel, rfl⟩ : ∃ less, fuel = less + 2 := ⟨fuel - 2, by omega⟩
    simp only [List.cons_append, List.append_assoc]
    rw [h.array _ _ (startsValue_prettyChars _ v _),
      h.items_start (value_prettyChars v (by omega) (delimited_prettyItems depth items rest))
        (items_prettyItems items (by omega))]
    rw [allStrings, all]
    split <;> rfl
  | .object ((key, v) :: members), fuel, depth, rest, hfuel, _ => by
    rw [prettyChars] at hfuel ⊢
    simp only [List.length_cons, List.length_append, length_newLine] at hfuel
    obtain ⟨fuel, rfl⟩ : ∃ less, fuel = less + 2 := ⟨fuel - 2, by omega⟩
    simp only [List.cons_append, List.append_assoc]
    rw [h.object _ _ (startsValue_stringChars key _),
      h.members_start (startsValue_prettyChars _ v _)
        (value_prettyChars v (by omega) (delimited_prettyMembers depth members rest))
        (members_prettyMembers members (by omega) (startsValue_prettyChars _ v _))]
    rw [allStrings, all]
    split <;> rfl

/-- Behind the first item the others are scanned, up to the bracket. -/
theorem items_prettyItems : (items : List Json) → ∀ {fuel depth : Nat} {cs rest : List Char}
    {d : Document}, 2 * (prettyItems depth items).length ≤ fuel + 1 →
      g.value (fuel + 1) cs = some (d, prettyItems depth items ++ rest) →
        g.items (fuel + 2) cs =
          if allItems (fun _ => true) legible items then
            some (d :: Document.ofItems items, rest)
          else none
  | [], fuel, depth, _, _, _, _, hvalue => by
    rw [prettyItems, List.append_assoc] at hvalue
    exact h.items_last depth hvalue
  | v :: items, fuel, depth, _, rest, _, hfuel, hvalue => by
    rw [prettyItems] at hfuel hvalue
    simp only [List.length_cons, List.length_append, length_newLine] at hfuel
    simp only [List.cons_append, List.append_assoc] at hvalue
    obtain ⟨fuel, rfl⟩ : ∃ less, fuel = less + 1 := ⟨fuel - 1, by omega⟩
    rw [h.items_more _ (startsValue_prettyChars _ v _) hvalue,
      h.items_start (value_prettyChars v (by omega) (delimited_prettyItems depth items rest))
        (items_prettyItems items (by omega))]
    split <;> rfl

/-- Behind the first member the others are scanned, up to the brace. -/
theorem members_prettyMembers : (members : List (String × Json)) → ∀ {fuel depth : Nat}
    {key : String} {cs rest : List Char} {d : Document},
    2 * (prettyMembers depth members).length ≤ fuel + 1 → StartsValue cs → legible key = true →
      g.value (fuel + 1) cs = some (d, prettyMembers depth members ++ rest) →
        g.members (fuel + 2) (stringChars key ++ ':' :: ' ' :: cs) =
          if allMembers (fun _ => true) legible members then
            some ((StringPiece.ofString key, d) :: Document.ofMembers members, rest)
          else none
  | [], fuel, depth, _, _, _, _, _, hstart, hkey, hvalue => by
    rw [prettyMembers, List.append_assoc] at hvalue
    exact h.members_last depth hkey hstart hvalue
  | (key', v) :: members, fuel, depth, _, _, rest, _, hfuel, hstart, hkey, hvalue => by
    rw [prettyMembers] at hfuel hvalue
    simp only [List.length_cons, List.length_append, length_newLine] at hfuel
    simp only [List.cons_append, List.append_assoc] at hvalue
    obtain ⟨fuel, rfl⟩ : ∃ less, fuel = less + 1 := ⟨fuel - 1, by omega⟩
    rw [h.members_more _ hkey hstart (startsValue_stringChars key' _) hvalue,
      h.members_start (startsValue_prettyChars _ v _)
        (value_prettyChars v (by omega) (delimited_prettyMembers depth members rest))
        (members_prettyMembers members (by omega) (startsValue_prettyChars _ v _))]
    split <;> rfl

end

/-- A document that is pretty text has fuel enough. -/
theorem value_document (v : Json) :
    g.value (2 * (v.prettyChars 0).length) (v.prettyChars 0) =
      if v.allStrings legible then some (.ofJson v, []) else none := by
  obtain ⟨c, tail, hstart, -⟩ := startsValue_prettyChars 0 v []
  rw [List.append_nil] at hstart
  have hfuel : 2 * (v.prettyChars 0).length = 2 * tail.length + 1 + 1 := by
    rw [hstart, List.length_cons]
    omega
  have hscan := h.value_prettyChars v (Nat.le_of_eq hfuel) (show Delimited [] from nofun)
  rwa [List.append_nil, ← hfuel] at hscan

end Grammar.ScansPretty
end CartCriteria
