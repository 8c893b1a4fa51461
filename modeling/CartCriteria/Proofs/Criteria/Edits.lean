import CartCriteria.Criteria.Basic
import CartCriteria.Proofs.Condition.Forms
import CartCriteria.Proofs.Dictionary

/-! Edits of a record. A path that does not lead through the edited member may still end on an object
above it, and that object changes; but every object looks the same to a condition. -/
namespace CartCriteria

/-- An edit of one member of an object: it gets a value, whether it had one or not, or goes. -/
inductive MemberEdit
  | put (v : Json)
  | remove

def MemberEdit.apply (edit : MemberEdit) (key : String) (members : List (String × Json)) :
    List (String × Json) :=
  match edit with
  | put v => Dictionary.insert key v members
  | remove => Dictionary.erase key members

/-- An edit of one member leaves the others alone. -/
theorem MemberEdit.find?_apply_of_ne (edit : MemberEdit) {key other : String}
    (members : List (String × Json)) (h : other ≠ key) :
    Dictionary.find? other (edit.apply key members) = Dictionary.find? other members := by
  cases edit with
  | put v => exact Dictionary.find?_insert_of_ne v members h
  | remove => exact Dictionary.find?_erase_of_ne members h

/-- A value after an edit of the member under `key` in the object that a chain of keys leads to. There
is none unless the chain leads through objects to an object. -/
def Json.edit? (edit : MemberEdit) (key : String) : Json → List String → Option Json
  | object members, [] => some (object (edit.apply key members))
  | object members, next :: above =>
    match Dictionary.find? next members with
    | none => none
    | some v => (v.edit? edit key above).map fun v => object (Dictionary.insert next v members)
  | _, _ => none

namespace Json

variable {edit : MemberEdit} {record edited : Json} {key next : String} {above : List String}

private theorem edit?_nil (h : record.edit? edit key [] = some edited) :
    ∃ members, record = object members ∧ edited = object (edit.apply key members) := by
  cases record with
  | object members =>
    cases h
    exact ⟨members, rfl, rfl⟩
  | null | bool | number | string | array => cases h

private theorem edit?_cons (h : record.edit? edit key (next :: above) = some edited) :
    ∃ members v w, record = object members ∧ Dictionary.find? next members = some v ∧
      v.edit? edit key above = some w ∧ edited = object (Dictionary.insert next w members) := by
  cases record with
  | object members =>
    rw [edit?] at h
    cases hfound : Dictionary.find? next members with
    | none =>
      rw [hfound] at h
      cases h
    | some v =>
      rw [hfound] at h
      obtain ⟨w, hw, rfl⟩ := Option.map_eq_some_iff.mp h
      exact ⟨members, v, w, rfl, hfound, hw, rfl⟩
  | null | bool | number | string | array => cases h

end Json

namespace Resolution

variable {edit : MemberEdit} {record edited : Json} {key : String} {above path : List String}

private theorem walk_cons_found {segment : String} {v : Json}
    (h : walk record (segment :: path) = found v) :
    ∃ members next, record = .object members ∧ Dictionary.find? segment members = some next ∧
      walk next path = found v := by
  cases record with
  | object members =>
    rw [walk] at h
    cases hfound : Dictionary.find? segment members with
    | none =>
      rw [hfound] at h
      cases h
    | some next =>
      rw [hfound] at h
      exact ⟨members, next, rfl, hfound, h⟩
  | null | bool | number | string | array => cases h

/-- Where a chain of keys leads through objects to an object, any member of that object can be edited,
and the chain leads to the object after the edit. -/
theorem exists_edit? (edit : MemberEdit) (key : String) {members : List (String × Json)}
    (habove : walk record above = found (.object members)) :
    ∃ edited, record.edit? edit key above = some edited ∧
      walk edited above = found (.object (edit.apply key members)) := by
  induction above generalizing record with
  | nil =>
    cases habove
    exact ⟨_, rfl, rfl⟩
  | cons next rest ih =>
    obtain ⟨held, v, rfl, hfound, hrest⟩ := walk_cons_found habove
    obtain ⟨w, hw, hwalk⟩ := ih hrest
    refine ⟨.object (Dictionary.insert next w held), ?_, ?_⟩
    · rw [Json.edit?, hfound]
      dsimp only
      rw [hw]
      rfl
    · rw [walk, Dictionary.find?_insert_self]
      exact hwalk

/-- A path that does not lead through the edited member leads where it led, or it ends on an object
before and after. The induction follows the chain of keys as long as the path does. -/
theorem walk_edit? (hedit : record.edit? edit key above = some edited)
    (hpath : ¬ above ++ [key] <+: path) :
    walk edited path = walk record path ∨
      ∃ before after, walk record path = found (.object before) ∧
        walk edited path = found (.object after) := by
  induction above generalizing record edited path with
  | nil =>
    obtain ⟨members, rfl, rfl⟩ := Json.edit?_nil hedit
    cases path with
    | nil => exact .inr ⟨_, _, rfl, rfl⟩
    | cons segment segments =>
      have hother : segment ≠ key := by
        rintro rfl
        exact hpath ((List.prefix_cons_inj segment).mpr List.nil_prefix)
      rw [walk, walk, MemberEdit.find?_apply_of_ne edit members hother]
      exact .inl rfl
  | cons next rest ih =>
    obtain ⟨members, v, w, rfl, hv, hw, rfl⟩ := Json.edit?_cons hedit
    cases path with
    | nil => exact .inr ⟨_, _, rfl, rfl⟩
    | cons segment segments =>
      rw [walk, walk]
      by_cases hsame : segment = next
      · subst hsame
        rw [Dictionary.find?_insert_self, hv]
        exact ih hw fun hprefix => hpath ((List.prefix_cons_inj segment).mpr hprefix)
      · rw [Dictionary.find?_insert_of_ne w members hsame]
        exact .inl rfl

end Resolution

namespace Condition

/-- A condition does not tell objects apart. -/
theorem holdsAt_object (c : Condition) (members others : List (String × Json)) :
    c.holdsAt (.found (.object members)) = c.holdsAt (.found (.object others)) := by
  have hstring : Loose.stringOf (some (.object members)) =
      Loose.stringOf (some (.object others)) := rfl
  have hprimitive : Loose.primitive (some (.object members)) =
      Loose.primitive (some (.object others)) := rfl
  exact holdsOf_congr hstring c (.inr hprimitive)

end Condition

namespace Criteria

/-- The members of an object that a chain of keys leads to through objects can be edited, and then the
verdict of all criteria is the same none of whose paths starts with the chain and the edited key. -/
theorem eligible_edit? (edit : MemberEdit) (key : String) {record : Json} {above : List String}
    {members : List (String × Json)}
    (habove : Resolution.walk record above = .found (.object members)) :
    ∃ edited, record.edit? edit key above = some edited ∧
      Resolution.walk edited above = .found (.object (edit.apply key members)) ∧
      ∀ criteria : Criteria,
        (∀ e ∈ criteria.entries, ¬ above ++ [key] <+: Resolution.segments e.1) →
        criteria.eligible edited = criteria.eligible record := by
  obtain ⟨edited, hedit, hwalk⟩ := Resolution.exists_edit? edit key habove
  refine ⟨edited, hedit, hwalk, ?_⟩
  intro criteria hpaths
  rw [eligible, eligible, Bool.eq_iff_iff, List.all_eq_true, List.all_eq_true]
  refine forall₂_congr fun e he => ?_
  rw [meets, meets, Resolution.ofPath, Resolution.ofPath]
  rcases Resolution.walk_edit? hedit (hpaths e he) with hsame | ⟨before, after, hbefore, hafter⟩
  · rw [hsame]
  · rw [hbefore, hafter, Condition.holdsAt_object e.2 after before]

private def besideAndAbove : Criteria :=
  ⟨[("user.name", .literal (.string "Ann")), ("user", .unrecognized (.object []))]⟩

private def named : Json :=
  .object [("user", .object [("home.town", .string "Ulm"), ("name", .string "Ann")])]

/-- The key of the removed member has a dot in it. -/
theorem eligible_edit?_beside_and_above :
    Resolution.walk named ["user"] =
      .found (.object [("home.town", .string "Ulm"), ("name", .string "Ann")]) ∧
    named.edit? .remove "home.town" ["user"] =
      some (.object [("user", .object [("name", .string "Ann")])]) ∧
    (∀ e ∈ besideAndAbove.entries, ¬ ["user", "home.town"] <+: Resolution.segments e.1) ∧
    besideAndAbove.eligible named = true ∧
    besideAndAbove.eligible (.object [("user", .object [("name", .string "Ann")])]) = true := by
  have habove : Resolution.walk named ["user"] =
      .found (.object [("home.town", .string "Ulm"), ("name", .string "Ann")]) := rfl
  have hpaths : ∀ e ∈ besideAndAbove.entries,
      ¬ ["user", "home.town"] <+: Resolution.segments e.1 := by
    decide +kernel
  have hbefore : besideAndAbove.eligible named = true := by decide +kernel
  obtain ⟨edited, hedit, -, hsame⟩ := eligible_edit? .remove "home.town" habove
  cases hedit
  exact ⟨habove, rfl, hpaths, hbefore, (hsame _ hpaths).trans hbefore⟩

end Criteria
end CartCriteria
