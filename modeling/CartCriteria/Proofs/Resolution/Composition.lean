import CartCriteria.Resolution

/-! Paths in pieces. A path of two pieces leads along the first and then, from what was found there,
along the second. Behind something missing or a projection the second piece is not looked at. -/
namespace CartCriteria

namespace Text

variable {separator : Char}

private theorem splitChars_ne_nil (cs : List Char) : splitChars separator cs ≠ [] := by
  cases cs with
  | nil => simp [splitChars]
  | cons c rest =>
    rw [splitChars]
    split
    · simp
    · split <;> simp

/-- The parts of two texts with a separator between them are those of both. -/
theorem splitChars_append (cs ds : List Char) :
    splitChars separator (cs ++ separator :: ds) =
      splitChars separator cs ++ splitChars separator ds := by
  induction cs with
  | nil => simp [splitChars]
  | cons c rest ih =>
    -- The first part is there, and `c` may have to join it.
    obtain ⟨part, parts, hrest⟩ := List.exists_cons_of_ne_nil (splitChars_ne_nil rest)
    rw [hrest] at ih
    by_cases hc : c = separator
    · simp [splitChars, hc, ih, hrest]
    · simp [splitChars, hc, ih, hrest]

/-- A text without a separator is its only part. -/
theorem splitChars_of_not_mem {cs : List Char} (h : separator ∉ cs) :
    splitChars separator cs = [cs] := by
  induction cs with
  | nil => rfl
  | cons c rest ih =>
    rw [List.mem_cons, not_or] at h
    simp [splitChars, Ne.symm h.1, ih h.2]

end Text

namespace Resolution

/-- A dot between two paths separates their segments. -/
theorem segments_append (p q : String) :
    segments (p ++ "." ++ q) = segments p ++ segments q := by
  have hchars : (p ++ "." ++ q).toList = p.toList ++ '.' :: q.toList := by simp
  rw [segments, Text.split, hchars, Text.splitChars_append, List.map_append]
  rfl

private theorem segments_of_not_mem {s : String} (h : '.' ∉ s.toList) : segments s = [s] := by
  rw [segments, Text.split, Text.splitChars_of_not_mem h, List.map_singleton, String.ofList_toList]

/-- What further segments lead to: only what was found is walked on. -/
def onward (path : List String) : Resolution → Resolution
  | missing => missing
  | found v => walk v path
  | projected entries => projected entries

/-- A walk along some segments and then others goes on where the first ones lead. -/
theorem walk_append (v : Json) (first second : List String) :
    walk v (first ++ second) = (walk v first).onward second := by
  induction first generalizing v with
  | nil => rfl
  | cons segment rest ih =>
    cases v with
    | object members =>
      rw [List.cons_append, walk, walk]
      cases Dictionary.find? segment members with
      | none => rfl
      | some next => exact ih next
    | null | bool | number | string | array => rfl

/-- A path of two pieces leads where the second leads from what the first finds; if the first finds
nothing it leads nowhere, and if the first ends in a projection it leads to that. A piece without a dot
is one segment: of an array it reads every item, of an object the member with that key, and of anything
else nothing. -/
theorem ofPath_pieces (record : Json) :
    (∀ p q : String, ofPath record (p ++ "." ++ q) =
      match ofPath record p with
      | missing => missing
      | projected entries => projected entries
      | found v => ofPath v q) ∧
    ∀ s : String, '.' ∉ s.toList → ofPath record s =
      match record with
      | .array items => projected (items.map (entry s))
      | .object members =>
        match Dictionary.find? s members with
        | some v => found v
        | none => missing
      | _ => missing := by
  constructor
  · intro p q
    rw [ofPath, segments_append, walk_append, ← ofPath]
    cases ofPath record p <;> rfl
  · intro s hs
    rw [ofPath, segments_of_not_mem hs]
    cases record <;> rfl

private def rows : Json :=
  .array [.object [("cat", .object [("code", .string "x")])], .null]

/-- The first piece finds an array, and one more segment makes a projection of it. -/
theorem ofPath_pieces_rows :
    '.' ∉ "rows".toList ∧
    ofPath (.object [("rows", rows)]) "rows" = found rows ∧
    ofPath (.object [("rows", rows)]) ("rows" ++ "." ++ "cat.code") = ofPath rows "cat.code" ∧
    ofPath rows "cat.code" = projected [some (.object [("code", .string "x")]), none] := by
  obtain ⟨happend, hsegment⟩ := ofPath_pieces (.object [("rows", rows)])
  have hdot : '.' ∉ "rows".toList := by decide
  have hrows : ofPath (.object [("rows", rows)]) "rows" = found rows := hsegment "rows" hdot
  have hpieces := happend "rows" "cat.code"
  rw [hrows] at hpieces
  exact ⟨hdot, hrows, hpieces, rfl⟩

end Resolution
end CartCriteria
