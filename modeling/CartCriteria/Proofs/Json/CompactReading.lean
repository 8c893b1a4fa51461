import CartCriteria.Proofs.Json.PrettyScan

/-! Compact text is read in one way. It ends in one place whatever follows, as long as what follows
does not go on a number, and no other value is written so. -/
namespace CartCriteria

/-- A number is spelled as no other. -/
theorem JsonNumber.spelling_injective {n m : JsonNumber} (h : n.spelling = m.spelling) : n = m := by
  have hnumeral : n.numeral = m.numeral := (WrittenNumber.decimal.inj h).2
  cases n with
  | integer n hn =>
    cases m with
    | integer m hm =>
      have hread := Strict.number?_integer hn
      rw [h, Strict.number?_integer hm] at hread
      exact (Option.some.inj hread).symm
    | binary y =>
      have hwhole := isWhole_binary y
      rw [← hnumeral, isWhole_integer hn] at hwhole
      cases hwhole
  | binary x =>
    cases m with
    | integer m hm =>
      have hwhole := isWhole_binary x
      rw [hnumeral, isWhole_integer hm] at hwhole
      cases hwhole
    | binary y =>
      have hread := Relaxed.json?_binary x
      rw [h, Relaxed.json?_binary y] at hread
      exact (Json.number.inj (Option.some.inj hread)).symm

namespace Json
open Numeral (Ends ends_cons ends_nil)

/-- The text of a number ends in one place, and no other number has it. -/
theorem numberText_cancel {n m : JsonNumber} {rest more : List Char} (hrest : Ends rest)
    (hmore : Ends more)
    (h : (numberText n).toList ++ rest = (numberText m).toList ++ more) : n = m ∧ rest = more := by
  have hscan := Strict.scanNumber_numberText n hrest
  rw [h, Strict.scanNumber_numberText m hmore] at hscan
  obtain ⟨hspelling, rfl⟩ := Prod.mk.inj (Option.some.inj hscan)
  exact ⟨JsonNumber.spelling_injective hspelling.symm, rfl⟩

private theorem stringChars_cancel {s t : String} {rest more : List Char}
    (h : stringChars s ++ rest = stringChars t ++ more) : s = t ∧ rest = more := by
  simp only [stringChars, List.cons_append, List.append_assoc, List.nil_append, List.cons.injEq,
    true_and] at h
  have hscan := Strict.scanString_escaped s rest
  rw [h, Strict.scanString_escaped t more] at hscan
  obtain ⟨hpieces, rfl⟩ := Prod.mk.inj (Option.some.inj hscan)
  have htext := StringPiece.text?_ofString Strict.pairChar s
  rw [← hpieces, StringPiece.text?_ofString] at htext
  exact ⟨(Option.some.inj htext).symm, rfl⟩

def kindOfFirst? (c : Char) : Option String :=
  if c = '-' ∨ c.isDigit = true then some "number"
  else match c with
    | 'n' => some "null"
    | 't' | 'f' => some "boolean"
    | '"' => some "string"
    | '[' => some "array"
    | '{' => some "object"
    | _ => none

/-- The first character tells what kind of value a text is of. -/
theorem compactChars_eq_cons (v : Json) :
    ∃ c tail, v.compactChars = c :: tail ∧ kindOfFirst? c = some v.kindName := by
  cases v with
  | null => exact ⟨_, _, rfl, rfl⟩
  | bool b => cases b <;> exact ⟨_, _, rfl, rfl⟩
  | number n =>
    obtain ⟨c, tail, hchars, hc⟩ := startsNumber_numberText n []
    rw [List.append_nil] at hchars
    exact ⟨c, tail, hchars, if_pos hc⟩
  | string s => exact ⟨_, _, rfl, rfl⟩
  | array items => cases items <;> exact ⟨_, _, rfl, rfl⟩
  | object members => cases members <;> exact ⟨_, _, rfl, rfl⟩

variable {rest more : List Char}

private theorem kindName_eq {v w : Json} (h : v.compactChars ++ rest = w.compactChars ++ more) :
    v.kindName = w.kindName := by
  obtain ⟨c, tail, hv, hc⟩ := compactChars_eq_cons v
  obtain ⟨d, tail', hw, hd⟩ := compactChars_eq_cons w
  rw [hv, hw] at h
  cases (List.cons.inj h).1
  exact Option.some.inj (hc.symm.trans hd)

/-- The text of a value does not start as what closes a list. -/
theorem close_ne_compactChars {close : Char} (hclose : kindOfFirst? close = none) (v : Json) :
    close :: rest ≠ v.compactChars ++ more := by
  intro h
  obtain ⟨c, tail, hv, hc⟩ := compactChars_eq_cons v
  rw [hv] at h
  cases (List.cons.inj h).1
  rw [hclose] at hc
  cases hc

private theorem ends_compactItems (items : List Json) : Ends (compactItems items ++ rest) := by
  cases items <;> exact ends_cons.mpr (by decide)

private theorem ends_compactMembers (members : List (String × Json)) :
    Ends (compactMembers members ++ rest) := by
  cases members <;> exact ends_cons.mpr (by decide)

mutual

/-- Two texts with something behind them are the same only when the values are, and what is behind
them. -/
theorem compactChars_cancel : ∀ {v w : Json} {rest more : List Char}, Ends rest → Ends more →
    v.compactChars ++ rest = w.compactChars ++ more → v = w ∧ rest = more
  | null, w, rest, more, _, _, h => by
    have hkind := kindName_eq h
    cases w with
    | null => exact ⟨rfl, List.append_cancel_left h⟩
    | _ => simp [kindName] at hkind
  | bool b, w, rest, more, _, _, h => by
    have hkind := kindName_eq h
    cases w with
    | bool b' =>
      by_cases hb : b = b'
      · subst hb
        exact ⟨rfl, List.append_cancel_left h⟩
      · cases b <;> cases b'
        · exact absurd rfl hb
        · cases (List.cons.inj h).1
        · cases (List.cons.inj h).1
        · exact absurd rfl hb
    | _ => simp [kindName] at hkind
  | number n, w, rest, more, hrest, hmore, h => by
    have hkind := kindName_eq h
    cases w with
    | number m => exact (numberText_cancel hrest hmore h).imp_left (congrArg number)
    | _ => simp [kindName] at hkind
  | string s, w, rest, more, _, _, h => by
    have hkind := kindName_eq h
    cases w with
    | string t => exact (stringChars_cancel h).imp_left (congrArg string)
    | _ => simp [kindName] at hkind
  | array [], w, rest, more, _, _, h => by
    have hkind := kindName_eq h
    cases w with
    | array ys =>
      cases ys with
      | nil => exact ⟨rfl, List.append_cancel_left h⟩
      | cons y ys =>
        simp only [compactChars, List.cons_append, List.append_assoc, List.nil_append,
          List.cons.injEq, true_and] at h
        exact absurd h (close_ne_compactChars rfl y)
    | _ => simp [kindName] at hkind
  | array (x :: xs), w, rest, more, _, _, h => by
    have hkind := kindName_eq h
    cases w with
    | array ys =>
      cases ys with
      | nil =>
        simp only [compactChars, List.cons_append, List.append_assoc, List.nil_append,
          List.cons.injEq, true_and] at h
        exact absurd h.symm (close_ne_compactChars rfl x)
      | cons y ys =>
        -- Behind their first characters the texts go on as in the middle of a list.
        have hitems : compactItems (x :: xs) ++ rest = compactItems (y :: ys) ++ more :=
          congrArg (',' :: ·) (List.cons.inj h).2
        exact (compactItems_cancel hitems).imp_left (congrArg array)
    | _ => simp [kindName] at hkind
  | object [], w, rest, more, _, _, h => by
    have hkind := kindName_eq h
    cases w with
    | object ys =>
      cases ys with
      | nil => exact ⟨rfl, List.append_cancel_left h⟩
      | cons y ys => cases (List.cons.inj (List.cons.inj h).2).1
    | _ => simp [kindName] at hkind
  | object ((k, x) :: xs), w, rest, more, _, _, h => by
    have hkind := kindName_eq h
    cases w with
    | object ys =>
      cases ys with
      | nil => cases (List.cons.inj (List.cons.inj h).2).1
      | cons y ys =>
        obtain ⟨l, y⟩ := y
        have hmembers :
            compactMembers ((k, x) :: xs) ++ rest = compactMembers ((l, y) :: ys) ++ more :=
          congrArg (',' :: ·) (List.cons.inj h).2
        exact (compactMembers_cancel hmembers).imp_left (congrArg object)
    | _ => simp [kindName] at hkind

private theorem compactItems_cancel : ∀ {xs ys : List Json} {rest more : List Char},
    compactItems xs ++ rest = compactItems ys ++ more → xs = ys ∧ rest = more
  | [], ys, rest, more, h => by
    cases ys with
    | nil => exact ⟨rfl, List.append_cancel_left h⟩
    | cons y ys => cases (List.cons.inj h).1
  | x :: xs, ys, rest, more, h => by
    cases ys with
    | nil => cases (List.cons.inj h).1
    | cons y ys =>
      simp only [compactItems, List.cons_append, List.append_assoc, List.cons.injEq, true_and] at h
      obtain ⟨rfl, hitems⟩ := compactChars_cancel (ends_compactItems xs) (ends_compactItems ys) h
      obtain ⟨rfl, hrest⟩ := compactItems_cancel hitems
      exact ⟨rfl, hrest⟩

private theorem compactMembers_cancel : ∀ {xs ys : List (String × Json)} {rest more : List Char},
    compactMembers xs ++ rest = compactMembers ys ++ more → xs = ys ∧ rest = more
  | [], ys, rest, more, h => by
    cases ys with
    | nil => exact ⟨rfl, List.append_cancel_left h⟩
    | cons y ys => cases (List.cons.inj h).1
  | (k, x) :: xs, ys, rest, more, h => by
    cases ys with
    | nil => cases (List.cons.inj h).1
    | cons y ys =>
      obtain ⟨l, y⟩ := y
      simp only [compactMembers, List.cons_append, List.append_assoc, List.cons.injEq,
        true_and] at h
      obtain ⟨rfl, hvalue⟩ := stringChars_cancel h
      obtain ⟨rfl, hmembers⟩ := compactChars_cancel (ends_compactMembers xs)
        (ends_compactMembers ys) (List.cons.inj hvalue).2
      obtain ⟨rfl, hrest⟩ := compactMembers_cancel hmembers
      exact ⟨rfl, hrest⟩

end

/-- No two values have the same compact text. -/
theorem compact_injective {v w : Json} (h : v.compact = w.compact) : v = w := by
  refine (compactChars_cancel ends_nil ends_nil ?_).1
  rw [List.append_nil, List.append_nil]
  exact String.ofList_injective h

end Json
end CartCriteria
