import CartCriteria.Proofs.Json.PrettyScan

/-! Pretty text as a relaxed document. The text of a value is one, the document that the value is
written as, exactly when none of its strings has a line separator or a paragraph separator. -/
namespace CartCriteria.Relaxed

open Json Text

def grammar : Grammar :=
  ⟨scanValue, scanItems, scanMembers⟩

theorem skipFiller_blank {c : Char} (hc : isRelaxedBlank c = true) (cs : List Char) :
    skipFiller (c :: cs) = skipFiller cs := by
  have hslash : c ≠ '/' := by
    rintro rfl
    cases hc
  rw [skipFiller, skipFrom.eq_def]
  split
  · cases ‹c :: cs = []›
  · exact absurd (List.cons.inj ‹_›).1 hslash
  · exact absurd (List.cons.inj ‹_›).1 hslash
  · cases ‹c :: cs = _ :: _›
    exact if_pos hc
  all_goals cases ‹Filler.between = _›

theorem skipFiller_self {c : Char} (hc : isRelaxedBlank c = false) (hslash : c ≠ '/')
    (cs : List Char) : skipFiller (c :: cs) = c :: cs := by
  rw [skipFiller, skipFrom.eq_def]
  split
  · cases ‹c :: cs = []›
  · exact absurd (List.cons.inj ‹_›).1 hslash
  · exact absurd (List.cons.inj ‹_›).1 hslash
  · cases ‹c :: cs = _ :: _›
    exact if_neg (by simp [hc])
  all_goals cases ‹Filler.between = _›

private theorem skipFiller_spaces (count : Nat) (cs : List Char) :
    skipFiller (List.replicate count ' ' ++ cs) = skipFiller cs := by
  induction count with
  | zero => rfl
  | succ count ih => rw [List.replicate_succ, List.cons_append, skipFiller_blank rfl, ih]

private theorem skipFiller_newLine (depth : Nat) {c : Char} (hc : isRelaxedBlank c = false)
    (hslash : c ≠ '/') (cs : List Char) : skipFiller (newLine depth ++ c :: cs) = c :: cs := by
  rw [newLine, List.cons_append, skipFiller_blank rfl, skipFiller_spaces, skipFiller_self hc hslash]

private theorem not_isRelaxedBlank_of_isDigit {c : Char} (hc : c.isDigit = true) :
    isRelaxedBlank c = false := by
  have hplace : 0x30 ≤ c.toNat ∧ c.toNat ≤ 0x39 := Char.isDigit_iff_toNat.mp hc
  rw [Bool.eq_false_iff]
  intro hblank
  simp only [isRelaxedBlank, isTrimmable, isWhiteSpace, Bool.and_eq_true, Bool.or_eq_true,
    decide_eq_true_eq, beq_iff_eq] at hblank
  rcases hblank.1 with hspace | rfl
  · omega
  · cases hc

/-- What starts a value starts no filler and closes nothing. -/
theorem startsValue_cases {cs : List Char} (h : StartsValue cs) :
    ∃ c tail, cs = c :: tail ∧ isRelaxedBlank c = false ∧ c ≠ '/' ∧ c ≠ ']' ∧ c ≠ '}' := by
  obtain ⟨c, tail, rfl, hc | hc⟩ := h
  · refine ⟨c, tail, rfl, ?_⟩
    simp only [List.mem_cons, List.not_mem_nil, or_false] at hc
    rcases hc with rfl | rfl | rfl | rfl | rfl | rfl | rfl <;> decide
  · refine ⟨c, tail, rfl, not_isRelaxedBlank_of_isDigit hc, ?_, ?_, ?_⟩ <;>
    · rintro rfl
      cases hc

theorem scanValue_number {c : Char} (hc : c = '-' ∨ c.isDigit = true) (fuel : Nat)
    (tail : List Char) : scanValue (fuel + 1) (c :: tail) =
      (scanNumber (c :: tail)).map fun (n, rest) => (.number n, rest) := by
  rw [scanValue]
  all_goals exact fun _ => startsNumber_ne hc (by decide) (by decide)

private theorem scanValue_string (fuel : Nat) (s : String) (rest : List Char) :
    scanValue (fuel + 1) (stringChars s ++ rest) =
      if isLegible s then some (.string (StringPiece.ofString s), rest) else none := by
  rw [stringChars, List.cons_append, List.append_assoc, List.singleton_append]
  change (scanString '"' (s.toList.flatMap escapeChar ++ '"' :: rest)).map _ = _
  rw [scanString_escaped]
  split <;> rfl

theorem scanValue_bracket (fuel : Nat) (cs : List Char) :
    scanValue (fuel + 1) ('[' :: cs) =
      match skipFiller cs with
      | ']' :: rest => some (.array [], rest)
      | rest => (scanItems fuel rest).map fun (items, rest) => (.array items, rest) :=
  rfl

theorem scanValue_brace (fuel : Nat) (cs : List Char) :
    scanValue (fuel + 1) ('{' :: cs) =
      match skipFiller cs with
      | '}' :: rest => some (.object [], rest)
      | rest => (scanMembers fuel rest).map fun (members, rest) => (.object members, rest) :=
  rfl

private theorem scanValue_array (fuel depth : Nat) {cs : List Char} (hcs : StartsValue cs) :
    scanValue (fuel + 1) ('[' :: (newLine depth ++ cs)) =
      (scanItems fuel cs).map fun (items, rest) => (.array items, rest) := by
  obtain ⟨c, tail, rfl, hblank, hslash, hbracket, -⟩ := startsValue_cases hcs
  rw [scanValue_bracket, skipFiller_newLine depth hblank hslash]
  split
  · rename_i h
    cases h
    exact absurd rfl hbracket
  · rfl

private theorem scanValue_object (fuel depth : Nat) {cs : List Char} (hcs : StartsValue cs) :
    scanValue (fuel + 1) ('{' :: (newLine depth ++ cs)) =
      (scanMembers fuel cs).map fun (members, rest) => (.object members, rest) := by
  obtain ⟨c, tail, rfl, hblank, hslash, -, hbrace⟩ := startsValue_cases hcs
  rw [scanValue_brace, skipFiller_newLine depth hblank hslash]
  split
  · rename_i h
    cases h
    exact absurd rfl hbrace
  · rfl

theorem scanItems_none {fuel : Nat} {cs : List Char} (h : scanValue fuel cs = none) :
    scanItems (fuel + 1) cs = none := by
  change (scanValue fuel cs).bind _ = _
  rw [h]
  rfl

/-- The bracket behind an item closes the list. -/
theorem scanItems_close {fuel : Nat} {cs rest tail : List Char} {d : Document}
    (h : scanValue fuel cs = some (d, rest)) (hclose : skipFiller rest = ']' :: tail) :
    scanItems (fuel + 1) cs = some ([d], tail) := by
  change (scanValue fuel cs).bind _ = _
  rw [h]
  dsimp only [Option.bind_eq_bind, Option.bind_some]
  rw [hclose]
  rfl

/-- A comma behind an item has the other items behind it, if anything but the bracket is there. -/
theorem scanItems_comma {fuel : Nat} {cs rest tail more : List Char} {d : Document} {c : Char}
    (h : scanValue fuel cs = some (d, rest)) (hcomma : skipFiller rest = ',' :: tail)
    (hnext : skipFiller tail = c :: more) (hc : c ≠ ']') :
    scanItems (fuel + 1) cs =
      (scanItems fuel (c :: more)).map fun (items, rest) => (d :: items, rest) := by
  change (scanValue fuel cs).bind _ = _
  rw [h]
  dsimp only [Option.bind_eq_bind, Option.bind_some]
  rw [hcomma]
  change (match skipFiller tail with
    | ']' :: rest => some ([d], rest)
    | rest => (scanItems fuel rest).bind fun (items, rest) => some (d :: items, rest)) = _
  rw [hnext]
  split
  · rename_i hclose
    exact absurd (List.cons.inj hclose).1 hc
  · cases scanItems fuel (c :: more) <;> rfl

private theorem scanItems_last {fuel : Nat} {cs rest : List Char} {d : Document} (depth : Nat)
    (h : scanValue fuel cs = some (d, newLine depth ++ ']' :: rest)) :
    scanItems (fuel + 1) cs = some ([d], rest) :=
  scanItems_close h (skipFiller_newLine depth rfl (by decide) rest)

private theorem scanItems_more {fuel : Nat} {cs next : List Char} {d : Document} (depth : Nat)
    (hnext : StartsValue next) (h : scanValue fuel cs = some (d, ',' :: (newLine depth ++ next))) :
    scanItems (fuel + 1) cs = (scanItems fuel next).map fun (items, rest) => (d :: items, rest) := by
  obtain ⟨c, tail, rfl, hblank, hslash, hbracket, -⟩ := startsValue_cases hnext
  exact scanItems_comma h (skipFiller_self rfl (by decide) _)
    (skipFiller_newLine depth hblank hslash tail) hbracket

section Members

variable {fuel : Nat} {cs behind value rest tail more : List Char} {key : List StringPiece}
  {d : Document} {c : Char}

theorem scanMembers_key_none (fuel : Nat) (h : scanKey cs = none) :
    scanMembers (fuel + 1) cs = none := by
  change (scanKey cs).bind _ = _
  rw [h]
  rfl

private theorem scanMembers_key (fuel : Nat) (hkey : scanKey cs = some (key, behind))
    (hcolon : skipFiller behind = ':' :: value) :
    scanMembers (fuel + 1) cs = (scanValue fuel (skipFiller value)).bind fun (item, rest) =>
      match skipFiller rest with
      | '}' :: rest => some ([(key, item)], rest)
      | ',' :: rest =>
        match skipFiller rest with
        | '}' :: rest => some ([(key, item)], rest)
        | rest =>
          (scanMembers fuel rest).bind fun (members, rest) => some ((key, item) :: members, rest)
      | _ => none := by
  change (scanKey cs).bind _ = _
  rw [hkey]
  dsimp only [Option.bind_eq_bind, Option.bind_some]
  rw [hcolon]
  rfl

theorem scanMembers_value_none (hkey : scanKey cs = some (key, behind))
    (hcolon : skipFiller behind = ':' :: value) (h : scanValue fuel (skipFiller value) = none) :
    scanMembers (fuel + 1) cs = none := by
  rw [scanMembers_key fuel hkey hcolon, h]
  rfl

/-- The brace behind a member closes the object. -/
theorem scanMembers_close (hkey : scanKey cs = some (key, behind))
    (hcolon : skipFiller behind = ':' :: value)
    (h : scanValue fuel (skipFiller value) = some (d, rest))
    (hclose : skipFiller rest = '}' :: tail) :
    scanMembers (fuel + 1) cs = some ([(key, d)], tail) := by
  rw [scanMembers_key fuel hkey hcolon, h, Option.bind_some]
  dsimp only
  rw [hclose]
  rfl

/-- A comma behind a member has the other members behind it, if anything but the brace is there. -/
theorem scanMembers_comma (hkey : scanKey cs = some (key, behind))
    (hcolon : skipFiller behind = ':' :: value)
    (h : scanValue fuel (skipFiller value) = some (d, rest))
    (hcomma : skipFiller rest = ',' :: tail) (hnext : skipFiller tail = c :: more) (hc : c ≠ '}') :
    scanMembers (fuel + 1) cs =
      (scanMembers fuel (c :: more)).map fun (members, rest) => ((key, d) :: members, rest) := by
  rw [scanMembers_key fuel hkey hcolon, h, Option.bind_some]
  dsimp only
  rw [hcomma]
  change (match skipFiller tail with
    | '}' :: rest => some ([(key, d)], rest)
    | rest => (scanMembers fuel rest).bind fun (members, rest) =>
      some ((key, d) :: members, rest)) = _
  rw [hnext]
  split
  · rename_i hclose
    exact absurd (List.cons.inj hclose).1 hc
  · cases scanMembers fuel (c :: more) <;> rfl

end Members

private theorem scanKey_string {key : String} (hkey : isLegible key = true) (rest : List Char) :
    scanKey (stringChars key ++ rest) = some (StringPiece.ofString key, rest) := by
  rw [stringChars, List.cons_append, List.append_assoc, List.singleton_append]
  change scanString '"' (key.toList.flatMap escapeChar ++ '"' :: rest) = _
  rw [scanString_escaped, if_pos hkey]

private theorem scanMembers_illegible (fuel : Nat) {key : String} (cs : List Char)
    (hkey : isLegible key = false) : scanMembers (fuel + 1) (stringChars key ++ cs) = none := by
  apply scanMembers_key_none
  rw [stringChars, List.cons_append, List.append_assoc, List.singleton_append]
  change scanString '"' (key.toList.flatMap escapeChar ++ '"' :: cs) = _
  rw [scanString_escaped, hkey]
  rfl

private theorem skipFiller_space {cs : List Char} (hcs : StartsValue cs) :
    skipFiller (' ' :: cs) = cs := by
  obtain ⟨c, tail, rfl, hblank, hslash, -⟩ := startsValue_cases hcs
  rw [skipFiller_blank rfl, skipFiller_self hblank hslash]

private theorem scanMembers_none {fuel : Nat} (key : String) {cs : List Char}
    (hcs : StartsValue cs) (h : scanValue fuel cs = none) :
    scanMembers (fuel + 1) (stringChars key ++ ':' :: ' ' :: cs) = none := by
  cases hkey : isLegible key with
  | false => exact scanMembers_illegible fuel _ hkey
  | true =>
    exact scanMembers_value_none (scanKey_string hkey _) (skipFiller_self rfl (by decide) _)
      ((congrArg _ (skipFiller_space hcs)).trans h)

private theorem scanMembers_last {fuel : Nat} {key : String} {cs rest : List Char} {d : Document}
    (depth : Nat) (hkey : isLegible key = true) (hcs : StartsValue cs)
    (h : scanValue fuel cs = some (d, newLine depth ++ '}' :: rest)) :
    scanMembers (fuel + 1) (stringChars key ++ ':' :: ' ' :: cs) =
      some ([(StringPiece.ofString key, d)], rest) :=
  scanMembers_close (scanKey_string hkey _) (skipFiller_self rfl (by decide) _)
    ((congrArg _ (skipFiller_space hcs)).trans h) (skipFiller_newLine depth rfl (by decide) rest)

private theorem scanMembers_more {fuel : Nat} {key : String} {cs next : List Char} {d : Document}
    (depth : Nat) (hkey : isLegible key = true) (hcs : StartsValue cs) (hnext : StartsValue next)
    (h : scanValue fuel cs = some (d, ',' :: (newLine depth ++ next))) :
    scanMembers (fuel + 1) (stringChars key ++ ':' :: ' ' :: cs) =
      (scanMembers fuel next).map fun (members, rest) =>
        ((StringPiece.ofString key, d) :: members, rest) := by
  obtain ⟨c, tail, rfl, hblank, hslash, -, hbrace⟩ := startsValue_cases hnext
  exact scanMembers_comma (scanKey_string hkey _) (skipFiller_self rfl (by decide) _)
    ((congrArg _ (skipFiller_space hcs)).trans h) (skipFiller_self rfl (by decide) _)
    (skipFiller_newLine depth hblank hslash tail) hbrace

/-- The scanners of relaxed documents scan pretty text; a string with a separator is not legible to
them. -/
theorem grammar_scansPretty : grammar.ScansPretty isLegible where
  null _ _ := rfl
  bool _ b _ := by cases b <;> rfl
  number fuel n rest hrest := by
    have hnumber := scanNumber_numberText n hrest
    obtain ⟨c, tail, hstart, hc⟩ := startsNumber_numberText n rest
    rw [hstart] at hnumber ⊢
    exact (scanValue_number hc fuel tail).trans (by rw [hnumber]; rfl)
  string := scanValue_string
  emptyArray _ _ := rfl
  emptyObject _ _ := rfl
  array fuel depth _ := scanValue_array fuel depth
  object fuel depth _ := scanValue_object fuel depth
  items_none := scanItems_none
  items_last depth _ := scanItems_last depth
  items_more depth _ := scanItems_more depth
  members_key fuel _ := scanMembers_illegible fuel
  members_none := scanMembers_none
  members_last depth _ := scanMembers_last depth
  members_more depth _ := scanMembers_more depth

/-- The pretty text of a value is a relaxed document when its strings are legible, the one that the
value is written as. -/
theorem document?_pretty (v : Json) :
    document? v.pretty = if v.allStrings isLegible then some (.ofJson v) else none := by
  obtain ⟨c, tail, hstart, hblank, hslash, -⟩ := startsValue_cases (startsValue_prettyChars 0 v [])
  rw [List.append_nil] at hstart
  have hscan := grammar_scansPretty.value_document v
  have htext : skipFiller v.pretty.toList = v.prettyChars 0 := by
    rw [pretty, String.toList_ofList, hstart, skipFiller_self hblank hslash]
  rw [document?, htext, show scanValue _ _ = _ from hscan]
  split <;> rfl

end CartCriteria.Relaxed
