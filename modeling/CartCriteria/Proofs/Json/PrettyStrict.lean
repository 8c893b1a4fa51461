import CartCriteria.Proofs.Json.PrettyScan

/-! Pretty text as a strict document. The text of every value is one, and it is the document that the
value is written as. -/
namespace CartCriteria.Strict

open Json

def grammar : Grammar :=
  ⟨scanValue, scanItems, scanMembers⟩

private theorem skipBlanks_append {blanks cs : List Char} (hblanks : ∀ c ∈ blanks, isBlank c = true)
    (hcs : ∀ c ∈ cs.head?, isBlank c = false) : skipBlanks (blanks ++ cs) = cs := by
  rw [skipBlanks, List.dropWhile_append_of_pos hblanks]
  cases cs with
  | nil => rfl
  | cons c cs => rw [List.dropWhile_cons_of_neg (by simp [hcs c rfl])]

private theorem isBlank_newLine (depth : Nat) : ∀ c ∈ newLine depth, isBlank c = true := by
  intro c hc
  rcases List.mem_cons.mp hc with rfl | hc
  · rfl
  · rw [List.eq_of_mem_replicate hc]
    rfl

private theorem not_isBlank_of_isDigit {c : Char} (hc : c.isDigit = true) : isBlank c = false := by
  rw [Bool.eq_false_iff]
  intro hblank
  simp only [isBlank, Bool.or_eq_true, beq_iff_eq] at hblank
  rcases hblank with ((rfl | rfl) | rfl) | rfl <;> cases hc

private theorem skipBlanks_newLine (depth : Nat) {c : Char} (hc : isBlank c = false)
    (cs : List Char) : skipBlanks (newLine depth ++ c :: cs) = c :: cs :=
  skipBlanks_append (isBlank_newLine depth) (by rintro x hx; cases hx; exact hc)

private theorem skipBlanks_self {c : Char} (hc : isBlank c = false) (cs : List Char) :
    skipBlanks (c :: cs) = c :: cs :=
  @skipBlanks_append [] _ nofun (by rintro x hx; cases hx; exact hc)

private theorem skipBlanks_space {c : Char} (hc : isBlank c = false) (cs : List Char) :
    skipBlanks (' ' :: c :: cs) = c :: cs :=
  @skipBlanks_append [' '] _ (List.forall_mem_singleton.mpr rfl) (by rintro x hx; cases hx; exact hc)

/-- What starts a value is no blank and closes nothing. -/
theorem startsValue_cases {cs : List Char} (h : StartsValue cs) :
    ∃ c tail, cs = c :: tail ∧ isBlank c = false ∧ c ≠ ']' ∧ c ≠ '}' := by
  obtain ⟨c, tail, rfl, hc | hc⟩ := h
  · refine ⟨c, tail, rfl, ?_⟩
    simp only [List.mem_cons, List.not_mem_nil, or_false] at hc
    rcases hc with rfl | rfl | rfl | rfl | rfl | rfl | rfl <;> decide
  · refine ⟨c, tail, rfl, not_isBlank_of_isDigit hc, ?_, ?_⟩ <;>
    · rintro rfl
      cases hc

theorem scanValue_number {c : Char} (hc : c = '-' ∨ c.isDigit = true) (fuel : Nat)
    (tail : List Char) : scanValue (fuel + 1) (c :: tail) =
      (scanNumber (c :: tail)).map fun (n, rest) => (.number n, rest) := by
  rw [scanValue]
  all_goals exact fun _ => startsNumber_ne hc (by decide) (by decide)

private theorem scanValue_string (fuel : Nat) (s : String) (rest : List Char) :
    scanValue (fuel + 1) (stringChars s ++ rest) = some (.string (StringPiece.ofString s), rest) := by
  rw [stringChars, List.cons_append, List.append_assoc, List.singleton_append]
  change (scanString (s.toList.flatMap escapeChar ++ '"' :: rest)).map _ = _
  rw [scanString_escaped]
  rfl

private theorem scanValue_bracket (fuel : Nat) (cs : List Char) :
    scanValue (fuel + 1) ('[' :: cs) =
      match skipBlanks cs with
      | ']' :: rest => some (.array [], rest)
      | rest => (scanItems fuel rest).map fun (items, rest) => (.array items, rest) :=
  rfl

private theorem scanValue_brace (fuel : Nat) (cs : List Char) :
    scanValue (fuel + 1) ('{' :: cs) =
      match skipBlanks cs with
      | '}' :: rest => some (.object [], rest)
      | rest => (scanMembers fuel rest).map fun (members, rest) => (.object members, rest) :=
  rfl

private theorem scanValue_array (fuel depth : Nat) {cs : List Char} (hcs : StartsValue cs) :
    scanValue (fuel + 1) ('[' :: (newLine depth ++ cs)) =
      (scanItems fuel cs).map fun (items, rest) => (.array items, rest) := by
  obtain ⟨c, tail, rfl, hblank, hbracket, -⟩ := startsValue_cases hcs
  rw [scanValue_bracket, skipBlanks_newLine depth hblank]
  split
  · rename_i h
    cases h
    exact absurd rfl hbracket
  · rfl

private theorem scanValue_object (fuel depth : Nat) {cs : List Char} (hcs : StartsValue cs) :
    scanValue (fuel + 1) ('{' :: (newLine depth ++ cs)) =
      (scanMembers fuel cs).map fun (members, rest) => (.object members, rest) := by
  obtain ⟨c, tail, rfl, hblank, -, hbrace⟩ := startsValue_cases hcs
  rw [scanValue_brace, skipBlanks_newLine depth hblank]
  split
  · rename_i h
    cases h
    exact absurd rfl hbrace
  · rfl

private theorem scanItems_none {fuel : Nat} {cs : List Char} (h : scanValue fuel cs = none) :
    scanItems (fuel + 1) cs = none := by
  change (scanValue fuel cs).bind _ = _
  rw [h]
  rfl

private theorem scanItems_last {fuel : Nat} {cs rest : List Char} {d : Document} (depth : Nat)
    (h : scanValue fuel cs = some (d, newLine depth ++ ']' :: rest)) :
    scanItems (fuel + 1) cs = some ([d], rest) := by
  change (scanValue fuel cs).bind _ = _
  rw [h]
  dsimp only [Option.bind_eq_bind, Option.bind_some]
  rw [skipBlanks_newLine depth rfl]
  rfl

private theorem scanItems_more {fuel : Nat} {cs next : List Char} {d : Document} (depth : Nat)
    (hnext : StartsValue next) (h : scanValue fuel cs = some (d, ',' :: (newLine depth ++ next))) :
    scanItems (fuel + 1) cs = (scanItems fuel next).map fun (items, rest) => (d :: items, rest) := by
  obtain ⟨c, tail, rfl, hblank, -⟩ := startsValue_cases hnext
  change (scanValue fuel cs).bind _ = _
  rw [h]
  dsimp only [Option.bind_eq_bind, Option.bind_some]
  rw [skipBlanks_self rfl]
  change (scanItems fuel (skipBlanks (newLine depth ++ c :: tail))).bind _ = _
  rw [skipBlanks_newLine depth hblank]
  cases scanItems fuel (c :: tail) <;> rfl

private theorem scanMembers_key (fuel : Nat) (key : String) {cs : List Char}
    (hcs : StartsValue cs) :
    scanMembers (fuel + 1) (stringChars key ++ ':' :: ' ' :: cs) =
      (scanValue fuel cs).bind fun (item, rest) =>
        match skipBlanks rest with
        | '}' :: rest => some ([(StringPiece.ofString key, item)], rest)
        | ',' :: rest =>
          (scanMembers fuel (skipBlanks rest)).bind fun (members, rest) =>
            some ((StringPiece.ofString key, item) :: members, rest)
        | _ => none := by
  obtain ⟨c, tail, rfl, hblank, -⟩ := startsValue_cases hcs
  rw [stringChars, List.cons_append, List.append_assoc, List.singleton_append]
  change (scanString (key.toList.flatMap escapeChar ++ '"' :: ':' :: ' ' :: c :: tail)).bind _ = _
  rw [scanString_escaped]
  dsimp only [Option.bind_eq_bind, Option.bind_some]
  rw [skipBlanks_self rfl]
  change (scanValue fuel (skipBlanks (' ' :: c :: tail))).bind _ = _
  rw [skipBlanks_space hblank]
  rfl

private theorem scanMembers_none {fuel : Nat} (key : String) {cs : List Char}
    (hcs : StartsValue cs) (h : scanValue fuel cs = none) :
    scanMembers (fuel + 1) (stringChars key ++ ':' :: ' ' :: cs) = none := by
  rw [scanMembers_key fuel key hcs, h]
  rfl

private theorem scanMembers_last {fuel : Nat} {key : String} {cs rest : List Char} {d : Document}
    (depth : Nat) (hcs : StartsValue cs)
    (h : scanValue fuel cs = some (d, newLine depth ++ '}' :: rest)) :
    scanMembers (fuel + 1) (stringChars key ++ ':' :: ' ' :: cs) =
      some ([(StringPiece.ofString key, d)], rest) := by
  rw [scanMembers_key fuel key hcs, h, Option.bind_some]
  dsimp only
  rw [skipBlanks_newLine depth rfl]
  rfl

private theorem scanMembers_more {fuel : Nat} {key : String} {cs next : List Char} {d : Document}
    (depth : Nat) (hcs : StartsValue cs) (hnext : StartsValue next)
    (h : scanValue fuel cs = some (d, ',' :: (newLine depth ++ next))) :
    scanMembers (fuel + 1) (stringChars key ++ ':' :: ' ' :: cs) =
      (scanMembers fuel next).map fun (members, rest) =>
        ((StringPiece.ofString key, d) :: members, rest) := by
  obtain ⟨c, tail, rfl, hblank, -⟩ := startsValue_cases hnext
  rw [scanMembers_key fuel key hcs, h, Option.bind_some]
  dsimp only
  rw [skipBlanks_self rfl]
  change (scanMembers fuel (skipBlanks (newLine depth ++ c :: tail))).bind _ = _
  rw [skipBlanks_newLine depth hblank]
  cases scanMembers fuel (c :: tail) <;> rfl

/-- The scanners of strict documents scan pretty text, and every string is legible to them. -/
theorem grammar_scansPretty : grammar.ScansPretty fun _ => true where
  null _ _ := rfl
  bool _ b _ := by cases b <;> rfl
  number fuel n rest hrest := by
    have hnumber := scanNumber_numberText n hrest.ends
    obtain ⟨c, tail, hstart, hc⟩ := startsNumber_numberText n rest
    rw [hstart] at hnumber ⊢
    exact (scanValue_number hc fuel tail).trans (by rw [hnumber]; rfl)
  string := scanValue_string
  emptyArray _ _ := rfl
  emptyObject _ _ := rfl
  array fuel depth _ := scanValue_array fuel depth
  object fuel depth _ := scanValue_object fuel depth
  items_none := scanItems_none
  items_last depth _ := scanItems_last depth
  items_more depth _ := scanItems_more depth
  members_key := nofun
  members_none := scanMembers_none
  members_last depth _ _ := scanMembers_last depth
  members_more depth _ _ := scanMembers_more depth

/-- The pretty text of a value is a strict document, the one that the value is written as. -/
theorem document?_pretty (v : Json) : document? v.pretty = some (.ofJson v) := by
  obtain ⟨c, tail, hstart, hblank, -⟩ := startsValue_cases (startsValue_prettyChars 0 v [])
  rw [List.append_nil] at hstart
  have hscan := grammar_scansPretty.value_document v
  rw [v.allStrings_true, if_pos rfl] at hscan
  have htext : skipBlanks v.pretty.toList = v.prettyChars 0 := by
    rw [pretty, String.toList_ofList, hstart, skipBlanks_self hblank]
  rw [document?, scanDocument, htext, show scanValue _ _ = _ from hscan]
  rfl

/-- A value within the depth whose numbers are kept is read from its text as it is. -/
theorem ofText?_pretty {v : Json} (hsorted : v.Sorted) (hdepth : v.depth ≤ depthLimit)
    (hkeeps : v.allNumbers (Document.keeps reading) = true) : ofText? v.pretty = some v := by
  rw [ofText?, document?_pretty]
  change json? depthLimit (.ofJson v) = some v
  rw [json?, Document.depth_ofJson, if_pos hdepth]
  exact (Document.toJson?_ofJson_eq_iff reading hsorted).mpr hkeeps

end CartCriteria.Strict
