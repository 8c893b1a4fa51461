import CartCriteria.Criteria.Basic

/-! Conditions on what is absent. Absence has no order to any bound and only one string form, so a
condition without that form in it, and without a conjunction of nothing, asks for a value. -/
namespace CartCriteria

/-- What is absent stands in no order to anything, as not-a-number does. -/
theorem Loose.compare?_none (bound : Option Json) : compare? none bound = none := by
  rw [compare?, primitive]
  cases primitive bound <;> rfl

namespace Condition

def readsAsAbsent (v : Json) : Bool :=
  Loose.stringForm v == "undefined"

mutual

/-- Whether no node of the condition, at any depth, is a conjunction without operands or names a value
that reads as absent. Bounds of comparisons do not count. -/
def asksForValue : Condition → Bool
  | literal v => !readsAsAbsent v
  | compare _ _ => true
  | isIn candidates => candidates.all fun v => !readsAsAbsent v
  | all operands => !operands.isEmpty && eachAsksForValue operands
  | any operands => eachAsksForValue operands
  | unrecognized v => !readsAsAbsent v
  | invalid _ => true

def eachAsksForValue : List Condition → Bool
  | [] => true
  | c :: rest => asksForValue c && eachAsksForValue rest

end

private theorem equal_none (v : Json) : Loose.equal none (some v) = readsAsAbsent v :=
  Bool.beq_comm

mutual

/-- What is absent does not meet a condition that asks for a value. A conjunction fails already at
its first operand, which has to be there. -/
theorem holdsOf_none : ∀ {c : Condition}, c.asksForValue = true → c.holdsOf none = false
  | literal v, h | unrecognized v, h => by
    rw [asksForValue, Bool.not_eq_true'] at h
    rw [holdsOf, equal_none, h]
  | compare op bound, _ => by
    rw [holdsOf, Loose.compare?_none]
    cases op <;> rfl
  | isIn candidates, h => by
    rw [asksForValue, List.all_eq_true] at h
    rw [holdsOf, isCandidate, List.any_eq_false]
    intro v hv
    have hpresent := h v hv
    rw [Bool.not_eq_true'] at hpresent
    exact Bool.eq_false_iff.mp hpresent
  | all [], h => by cases h
  | all (c :: rest), h => by
    rw [asksForValue, eachAsksForValue, Bool.and_eq_true_iff, Bool.and_eq_true_iff] at h
    rw [holdsOf, allHoldOf, holdsOf_none h.2.1, Bool.false_and]
  | any operands, h => anyHoldsOf_none h
  | invalid _, _ => rfl

private theorem anyHoldsOf_none : ∀ {cs : List Condition},
    eachAsksForValue cs = true → anyHoldsOf none cs = false
  | [], _ => rfl
  | c :: rest, h => by
    obtain ⟨hfirst, hrest⟩ := Bool.and_eq_true_iff.mp h
    rw [anyHoldsOf, holdsOf_none hfirst, anyHoldsOf_none hrest, Bool.or_self]

end

example : (Condition.all []).holdsOf none = true := rfl

/-- Where a condition that asks for a value holds, there is one: the path leads somewhere, and of the
entries of a projection only those that are present meet the condition. -/
theorem present_of_holdsAt {c : Condition} {r : Resolution} (hasks : c.asksForValue = true)
    (hholds : c.holdsAt r = true) :
    r.isMissing = false ∧ ∀ entries, r = .projected entries →
      (∃ v, some v ∈ entries ∧ c.holdsOf (some v) = true) ∧
      ∀ e ∈ entries, c.holdsOf e = true → e.isSome = true := by
  have hnone := holdsOf_none hasks
  have hpresent : ∀ e : Option Json, c.holdsOf e = true → ∃ v, e = some v := by
    intro e he
    cases e with
    | none =>
      rw [hnone] at he
      cases he
    | some v => exact ⟨v, rfl⟩
  cases r with
  | missing =>
    rw [holdsAt, hnone] at hholds
    cases hholds
  | found v =>
    refine ⟨rfl, ?_⟩
    intro entries hentries
    cases hentries
  | projected entries =>
    refine ⟨rfl, ?_⟩
    intro _ hentries
    cases hentries
    refine ⟨?_, ?_⟩
    · obtain ⟨e, hmem, he⟩ := List.any_eq_true.mp hholds
      obtain ⟨v, rfl⟩ := hpresent e he
      exact ⟨v, hmem, he⟩
    · intro e _ he
      obtain ⟨v, rfl⟩ := hpresent e he
      rfl

end Condition

namespace Criteria

/-- A record that meets criteria has something at the path of every entry whose condition asks for a
value. A projection has an entry there that is present and meets the condition, and no absent entry
meets it. -/
theorem present_of_eligible {record : Json} {criteria : Criteria} {path : String} {c : Condition}
    (heligible : criteria.eligible record = true) (hentry : (path, c) ∈ criteria.entries)
    (hasks : c.asksForValue = true) :
    (Resolution.ofPath record path).isMissing = false ∧
    ∀ entries, Resolution.ofPath record path = .projected entries →
      (∃ v, some v ∈ entries ∧ c.holdsOf (some v) = true) ∧
      ∀ e ∈ entries, c.holdsOf e = true → e.isSome = true :=
  Condition.present_of_holdsAt hasks (List.all_eq_true.mp heligible _ hentry)

private def secondPriced : Json :=
  .object [("items", .array [.object [], .object [("price", .string "7")]])]

private def priced : Condition :=
  .all [.any [.compare .gt (.string "5"), .isIn [.null, .string ""]]]

/-- One of two projected entries is absent, and the other one decides. -/
theorem present_of_eligible_projected :
    Criteria.eligible secondPriced ⟨[("items.price", priced)]⟩ = true ∧
    priced.asksForValue = true ∧
    Resolution.ofPath secondPriced "items.price" = .projected [none, some (.string "7")] ∧
    (Resolution.ofPath secondPriced "items.price").isMissing = false ∧
    (∃ v, some v ∈ [none, some (.string "7")] ∧ priced.holdsOf (some v) = true) ∧
    ∀ e ∈ [none, some (.string "7")], priced.holdsOf e = true → e.isSome = true := by
  have heligible : Criteria.eligible secondPriced ⟨[("items.price", priced)]⟩ = true := by
    decide +kernel
  have hasks : priced.asksForValue = true := by decide +kernel
  have hprojected : Resolution.ofPath secondPriced "items.price" =
      .projected [none, some (.string "7")] := rfl
  obtain ⟨hfound, hentries⟩ := present_of_eligible heligible List.mem_cons_self hasks
  exact ⟨heligible, hasks, hprojected, hfound, hentries _ hprojected⟩

end Criteria
end CartCriteria
