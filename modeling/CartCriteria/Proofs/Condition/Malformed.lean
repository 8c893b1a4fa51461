import CartCriteria.Proofs.Criteria.Direct
import CartCriteria.Proofs.Loose.NumberForm

/-! Malformed connectives. A connective whose payload is no object asks for an object or never holds,
and so does every condition that cannot hold without it. It never turns into a conjunction of nothing,
however deep it lies and whatever stands beside it. -/
namespace CartCriteria

namespace Loose

/-- The string form of a number reads as a number, so it is none of the other texts. -/
theorem numberString_ne {s : String} (hs : textNumber s = .nan) (n : JsonNumber) :
    numberString n ≠ s := by
  rintro rfl
  obtain ⟨i, hi⟩ := exists_rank?_of_isScalar (a := some (.number n)) rfl
  change n.toBinary64.rank? = some i at hi
  rw [← Binary64.rank?_plainZero, ← textNumber_numberString, hs] at hi
  cases hi

/-- Only texts, arrays and objects can look like an object. -/
theorem not_looksLikeObject {v : Option Json} (hv : isTextual v = false) :
    Direct.looksLikeObject v = false := by
  cases v with
  | none => rfl
  | some v =>
    cases v with
    | null => rfl
    | bool b => cases b <;> rfl
    | number n => exact beq_false_of_ne (numberString_ne (by decide +kernel) n)
    | string | array | object => cases hv

end Loose

namespace Condition

/-- The condition objects that are malformed or cannot hold without one that is: the first operator is
a connective whose payload is no object, or it is `all` over some such object, or `any` over nothing
else. Each entry of a payload counts as an object of its own. -/
inductive Malformed : Json → Prop
  | payload {members : List (String × Json)} {op : Operator} {payload : Json}
    (hfirst : Direct.operatorIn? members = some (op, payload)) (hop : op = .all ∨ op = .any)
    (hpayload : payload.members? = none) : Malformed (.object members)
  | all {members entries : List (String × Json)} {m : String × Json}
    (hfirst : Direct.operatorIn? members = some (.all, .object entries)) (hm : m ∈ entries)
    (hmalformed : Malformed (.object [m])) : Malformed (.object members)
  | any {members entries : List (String × Json)}
    (hfirst : Direct.operatorIn? members = some (.any, .object entries))
    (hmalformed : ∀ m ∈ entries, Malformed (.object [m])) : Malformed (.object members)

/-- What satisfies a malformed condition looks like an object. The induction is on why the condition is
malformed; of a conjunction the malformed entry is enough, of a disjunction the entry that holds. -/
theorem Malformed.looksLikeObject {v : Option Json} {m : Json} (hm : Malformed m)
    (hholds : Direct.satisfies v m = true) : Direct.looksLikeObject v = true := by
  induction hm with
  | @payload members op payload hfirst hop hpayload =>
    rw [Direct.satisfies_object, hfirst] at hholds
    cases payload with
    | object entries => cases hpayload
    | array | string =>
      rcases hop with rfl | rfl <;> exact (Bool.and_eq_true_iff.mp hholds).2
    | null | bool | number => rcases hop with rfl | rfl <;> cases hholds
  | all hfirst hm _ ih =>
    rw [Direct.satisfies_object, hfirst] at hholds
    exact ih (List.all_eq_true.mp hholds _ hm)
  | any hfirst _ ih =>
    rw [Direct.satisfies_object, hfirst] at hholds
    obtain ⟨entry, hentry, hholds⟩ := List.any_eq_true.mp hholds
    exact ih entry hentry hholds

/-- A malformed condition holds only of values whose string form is that of an object. So nothing that
is absent, null, a boolean or a number ever passes it. -/
theorem stringOf_of_malformed {m : Json} (hm : Malformed m) (v : Option Json) :
    ((ofJson m).holdsOf v = true → Loose.stringOf v = "[object Object]") ∧
    (Loose.isTextual v = false → (ofJson m).holdsOf v = false) := by
  rw [Direct.holdsOf_ofJson]
  refine ⟨?_, ?_⟩
  · intro hholds
    exact beq_iff_eq.mp (hm.looksLikeObject hholds)
  · intro hv
    rw [Bool.eq_false_iff]
    intro hholds
    have hlooks := hm.looksLikeObject hholds
    rw [Loose.not_looksLikeObject hv] at hlooks
    cases hlooks

private def malformedDeep : Json :=
  .object [("name", .string "x"), ("or", .object [
    ("and", .object [("gte", .string "a"), ("or", .array [.object [("gt", .null)]])]),
    ("or", .string "ab")])]

private theorem malformedDeep_malformed : Malformed malformedDeep := by
  have hlist : Malformed (.object [("or", .array [.object [("gt", .null)]])]) :=
    .payload rfl (.inr rfl) rfl
  have htext : Malformed (.object [("or", .string "ab")]) := .payload rfl (.inr rfl) rfl
  refine .any rfl ?_
  rw [List.forall_mem_cons, List.forall_mem_singleton]
  exact ⟨.all rfl (by simp) hlist, htext⟩

/-- A list of one object passes, since its string form is that of its item. -/
theorem stringOf_of_malformed_deep :
    Malformed malformedDeep ∧
    (ofJson malformedDeep).holdsOf (some (.array [.object []])) = true ∧
    Loose.stringOf (some (.array [.object []])) = "[object Object]" ∧
    Loose.isTextual (some .null) = false ∧
    (ofJson malformedDeep).holdsOf (some .null) = false := by
  obtain ⟨honly, -⟩ := stringOf_of_malformed malformedDeep_malformed (some (.array [.object []]))
  obtain ⟨-, hnever⟩ := stringOf_of_malformed malformedDeep_malformed (some .null)
  have hholds : (ofJson malformedDeep).holdsOf (some (.array [.object []])) = true := by
    decide +kernel
  exact ⟨malformedDeep_malformed, hholds, honly hholds, rfl, hnever rfl⟩

end Condition
end CartCriteria
