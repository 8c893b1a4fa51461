import CartCriteria.Proofs.Json.StrictTokens

/-! Strict text read as relaxed. Each strict document is a relaxed one, and the same, unless a line
separator or a paragraph separator stands in one of its strings as it is; then it is none. -/
namespace CartCriteria

open Text (isRelaxedBlank)

namespace Document

mutual

/-- Whether no string of a document, its keys among them, has a separator in it as such. -/
def isLegible : Document → Bool
  | string pieces => pieces.all StringPiece.isLegible
  | array items => areLegible items
  | object members => membersAreLegible members
  | _ => true

def areLegible : List Document → Bool
  | [] => true
  | d :: rest => isLegible d && areLegible rest

def membersAreLegible : List (List StringPiece × Document) → Bool
  | [] => true
  | (key, d) :: rest =>
    key.all StringPiece.isLegible && (isLegible d && membersAreLegible rest)

end

end Document

namespace Strict

private theorem startsValue_of_scanValue {fuel : Nat} {cs rest : List Char} {d : Document}
    (h : scanValue fuel cs = some (d, rest)) : StartsValue cs := by
  cases fuel with
  | zero => cases h
  | succ fuel =>
    rw [scanValue.eq_def] at h
    dsimp only at h
    split at h
    · exact ⟨_, _, rfl, .inl (by decide)⟩
    · exact ⟨_, _, rfl, .inl (by decide)⟩
    · exact ⟨_, _, rfl, .inl (by decide)⟩
    · exact ⟨_, _, rfl, .inl (by decide)⟩
    · exact ⟨_, _, rfl, .inl (by decide)⟩
    · exact ⟨_, _, rfl, .inl (by decide)⟩
    · obtain ⟨⟨n, tail⟩, hn, -⟩ := Option.map_eq_some_iff.mp h
      obtain ⟨c, more, rfl, rfl | hc⟩ := startsNumber_of_scanNumber hn
      · exact ⟨'-', more, rfl, .inl (by decide)⟩
      · exact ⟨c, more, rfl, .inr hc⟩

private theorem startsValue_of_scanItems {fuel : Nat} {cs rest : List Char} {items : List Document}
    (h : scanItems fuel cs = some (items, rest)) : StartsValue cs := by
  cases fuel with
  | zero => cases h
  | succ fuel =>
    rw [scanItems] at h
    obtain ⟨⟨d, tail⟩, hd, -⟩ := Option.bind_eq_some_iff.mp h
    exact startsValue_of_scanValue hd

private theorem startsKey_of_scanMembers {fuel : Nat} {cs rest : List Char}
    {members : List (List StringPiece × Document)}
    (h : scanMembers fuel cs = some (members, rest)) : ∃ tail, cs = '"' :: tail := by
  cases fuel with
  | zero => cases h
  | succ fuel =>
    rw [scanMembers.eq_def] at h
    dsimp only at h
    split at h
    · exact ⟨_, rfl⟩
    · cases h

private theorem skipFiller_value {cs : List Char} (h : StartsValue (skipBlanks cs)) :
    ∃ c tail, skipBlanks cs = c :: tail ∧ Relaxed.skipFiller cs = c :: tail ∧ c ≠ ']' ∧
      c ≠ '}' := by
  obtain ⟨c, tail, hcs, hblank, hslash, hbracket, hbrace⟩ := Relaxed.startsValue_cases h
  refine ⟨c, tail, hcs, skipFiller_eq hcs ?_, hbracket, hbrace⟩
  rintro x hx
  cases hx
  exact ⟨hblank, hslash⟩

private theorem skipFiller_token {cs tail : List Char} {token : Char}
    (h : skipBlanks cs = token :: tail) (htoken : isRelaxedBlank token = false ∧ token ≠ '/') :
    Relaxed.skipFiller cs = token :: tail := by
  apply skipFiller_eq h
  rintro c hc
  cases hc
  exact htoken

section Steps

-- Whether a key, what stands at it, and what comes behind are legible.
variable {legibleKey legible legibleRest : Bool} {fuel : Nat}
  {cs behind value rest tail more last : List Char} {key : List StringPiece} {d : Document}
  {items : List Document} {members : List (List StringPiece × Document)} {c : Char}

private theorem relaxedItems_close
    (h : Relaxed.scanValue fuel cs = if legible then some (d, rest) else none)
    (hclose : Relaxed.skipFiller rest = ']' :: tail) :
    Relaxed.scanItems (fuel + 1) cs = if legible then some ([d], tail) else none := by
  cases legible with
  | false => exact Relaxed.scanItems_none h
  | true => exact Relaxed.scanItems_close h hclose

private theorem relaxedItems_comma
    (h : Relaxed.scanValue fuel cs = if legible then some (d, rest) else none)
    (hcomma : Relaxed.skipFiller rest = ',' :: tail) (hnext : Relaxed.skipFiller tail = c :: more)
    (hc : c ≠ ']')
    (hitems : Relaxed.scanItems fuel (c :: more) =
      if legibleRest then some (items, last) else none) :
    Relaxed.scanItems (fuel + 1) cs =
      if legible && legibleRest then some (d :: items, last) else none := by
  cases legible with
  | false => exact Relaxed.scanItems_none h
  | true =>
    rw [Relaxed.scanItems_comma h hcomma hnext hc, hitems, Bool.true_and]
    split <;> rfl

private theorem relaxedMembers_close
    (hkey : Relaxed.scanKey cs = if legibleKey then some (key, behind) else none)
    (hcolon : Relaxed.skipFiller behind = ':' :: value)
    (h : Relaxed.scanValue fuel (Relaxed.skipFiller value) =
      if legible then some (d, rest) else none)
    (hclose : Relaxed.skipFiller rest = '}' :: tail) :
    Relaxed.scanMembers (fuel + 1) cs =
      if legibleKey && legible then some ([(key, d)], tail) else none := by
  cases legibleKey with
  | false => exact Relaxed.scanMembers_key_none fuel hkey
  | true =>
    cases legible with
    | false => exact Relaxed.scanMembers_value_none hkey hcolon h
    | true => exact Relaxed.scanMembers_close hkey hcolon h hclose

private theorem relaxedMembers_comma
    (hkey : Relaxed.scanKey cs = if legibleKey then some (key, behind) else none)
    (hcolon : Relaxed.skipFiller behind = ':' :: value)
    (h : Relaxed.scanValue fuel (Relaxed.skipFiller value) =
      if legible then some (d, rest) else none)
    (hcomma : Relaxed.skipFiller rest = ',' :: tail) (hnext : Relaxed.skipFiller tail = c :: more)
    (hc : c ≠ '}')
    (hmembers : Relaxed.scanMembers fuel (c :: more) =
      if legibleRest then some (members, last) else none) :
    Relaxed.scanMembers (fuel + 1) cs =
      if legibleKey && (legible && legibleRest) then some ((key, d) :: members, last)
      else none := by
  cases legibleKey with
  | false => exact Relaxed.scanMembers_key_none fuel hkey
  | true =>
    cases legible with
    | false => exact Relaxed.scanMembers_value_none hkey hcolon h
    | true =>
      rw [Relaxed.scanMembers_comma hkey hcolon h hcomma hnext hc, hmembers, Bool.true_and,
        Bool.true_and]
      split <;> rfl

end Steps

mutual

private theorem scanValue_relaxed : ∀ (fuel : Nat) {cs rest : List Char} {d : Document},
    scanValue fuel cs = some (d, rest) → (∀ c ∈ rest.head?, c ≠ 'x' ∧ c ≠ 'X') →
      Relaxed.scanValue fuel cs = if d.isLegible then some (d, rest) else none
  | 0, _, _, _, h, _ => by cases h
  | fuel + 1, cs, rest, d, h, hrest => by
    rw [scanValue.eq_def] at h
    dsimp only at h
    split at h
    · cases h
      rfl
    · cases h
      rfl
    · cases h
      rfl
    · obtain ⟨⟨pieces, tail⟩, hpieces, h⟩ := Option.map_eq_some_iff.mp h
      cases h
      change (Relaxed.scanString '"' _).map _ = _
      rw [scanString_relaxed hpieces, Document.isLegible]
      split <;> rfl
    · split at h
      · rename_i hskip
        cases h
        rw [Relaxed.scanValue_bracket, skipFiller_token hskip (by decide)]
        rfl
      · obtain ⟨⟨items, tail⟩, hitems, h⟩ := Option.map_eq_some_iff.mp h
        cases h
        obtain ⟨c, more, hcs, hskip, hbracket, -⟩ :=
          skipFiller_value (startsValue_of_scanItems hitems)
        rw [hcs] at hitems
        rw [Relaxed.scanValue_bracket, hskip]
        split
        · rename_i hclose
          exact absurd (List.cons.inj hclose).1 hbracket
        · rw [scanItems_relaxed fuel hitems, Document.isLegible]
          split <;> rfl
    · split at h
      · rename_i hskip
        cases h
        rw [Relaxed.scanValue_brace, skipFiller_token hskip (by decide)]
        rfl
      · obtain ⟨⟨members, tail⟩, hmembers, h⟩ := Option.map_eq_some_iff.mp h
        cases h
        obtain ⟨more, hcs⟩ := startsKey_of_scanMembers hmembers
        rw [hcs] at hmembers
        rw [Relaxed.scanValue_brace, skipFiller_token hcs (by decide)]
        change (Relaxed.scanMembers fuel _).map _ = _
        rw [scanMembers_relaxed fuel hmembers, Document.isLegible]
        split <;> rfl
    · obtain ⟨⟨n, tail⟩, hn, h⟩ := Option.map_eq_some_iff.mp h
      cases h
      have hrelaxed := scanNumber_relaxed hn hrest
      obtain ⟨c, more, rfl, hc⟩ := startsNumber_of_scanNumber hn
      rw [Relaxed.scanValue_number hc, hrelaxed]
      rfl

private theorem scanItems_relaxed : ∀ (fuel : Nat) {cs rest : List Char} {items : List Document},
    scanItems fuel cs = some (items, rest) →
      Relaxed.scanItems fuel cs = if Document.areLegible items then some (items, rest) else none
  | 0, _, _, _, h => by cases h
  | fuel + 1, cs, rest, items, h => by
    rw [scanItems] at h
    obtain ⟨⟨d, tail⟩, hd, h⟩ := Option.bind_eq_some_iff.mp h
    dsimp only at h
    split at h
    · rename_i hclose
      cases h
      have hvalue := scanValue_relaxed fuel hd (not_mark_of_token hclose (by decide))
      rw [Document.areLegible, Document.areLegible, Bool.and_true]
      exact relaxedItems_close hvalue (skipFiller_token hclose (by decide))
    · rename_i more hcomma
      obtain ⟨⟨behind, last⟩, hbehind, h⟩ := Option.bind_eq_some_iff.mp h
      cases h
      obtain ⟨c, next, hcs, hskip, hbracket, -⟩ :=
        skipFiller_value (startsValue_of_scanItems hbehind)
      rw [hcs] at hbehind
      exact relaxedItems_comma
        (scanValue_relaxed fuel hd (not_mark_of_token hcomma (by decide)))
        (skipFiller_token hcomma (by decide)) hskip hbracket (scanItems_relaxed fuel hbehind)
    · cases h

private theorem scanMembers_relaxed : ∀ (fuel : Nat) {cs rest : List Char}
    {members : List (List StringPiece × Document)},
    scanMembers fuel cs = some (members, rest) →
      Relaxed.scanMembers fuel cs =
        if Document.membersAreLegible members then some (members, rest) else none
  | 0, _, _, _, h => by cases h
  | fuel + 1, cs, rest, members, h => by
    rw [scanMembers.eq_def] at h
    dsimp only at h
    split at h
    · obtain ⟨⟨key, behind⟩, hkey, h⟩ := Option.bind_eq_some_iff.mp h
      dsimp only at h
      split at h
      · rename_i value hcolon
        obtain ⟨⟨d, tail⟩, hd, h⟩ := Option.bind_eq_some_iff.mp h
        obtain ⟨c, next, hcs, hskip, -⟩ := skipFiller_value (startsValue_of_scanValue hd)
        rw [hcs, ← hskip] at hd
        dsimp only at h
        split at h
        · rename_i hclose
          cases h
          rw [Document.membersAreLegible, Document.membersAreLegible, Bool.and_true]
          exact relaxedMembers_close (scanString_relaxed hkey)
            (skipFiller_token hcolon (by decide))
            (scanValue_relaxed fuel hd (not_mark_of_token hclose (by decide)))
            (skipFiller_token hclose (by decide))
        · rename_i more hcomma
          obtain ⟨⟨others, last⟩, hothers, h⟩ := Option.bind_eq_some_iff.mp h
          cases h
          obtain ⟨start, hstart⟩ := startsKey_of_scanMembers hothers
          rw [hstart] at hothers
          exact relaxedMembers_comma (scanString_relaxed hkey)
            (skipFiller_token hcolon (by decide))
            (scanValue_relaxed fuel hd (not_mark_of_token hcomma (by decide)))
            (skipFiller_token hcomma (by decide)) (skipFiller_token hstart (by decide)) (by decide)
            (scanMembers_relaxed fuel hothers)
        · cases h
      · cases h
    · cases h

end

/-- A strict document is a relaxed one, the same, if it is legible; otherwise it is none. -/
theorem document?_relaxed {text : String} {d : Document} (h : document? text = some d) :
    Relaxed.document? text = if d.isLegible then some d else none := by
  obtain ⟨⟨d, rest⟩, hscan, h⟩ := Option.bind_eq_some_iff.mp h
  dsimp only at h
  split at h
  · rename_i hrest
    cases h
    have hrest := List.isEmpty_iff.mp hrest
    have hnone : ∀ {p : Char → Prop}, ∀ c ∈ ([] : List Char).head?, p c := by
      intro p c hc
      cases hc
    have hscan : scanValue (2 * (skipBlanks text.toList).length) (skipBlanks text.toList) =
        some (d, rest) := hscan
    obtain ⟨c, tail, hcs, hskip, -⟩ := skipFiller_value (startsValue_of_scanValue hscan)
    rw [hcs, ← hskip] at hscan
    rw [Relaxed.document?, scanValue_relaxed _ hscan (not_mark_of_skipBlanks hrest hnone)]
    cases d.isLegible with
    | true =>
      change (if (Relaxed.skipFiller rest).isEmpty then some d else none) = some d
      rw [skipFiller_eq hrest hnone]
      rfl
    | false => rfl
  · cases h

end Strict
end CartCriteria
