import CartCriteria.Condition.Match
import CartCriteria.Proofs.Text.Units16

/-! The loose order by the kinds of value that it compares. Texts, arrays and objects are ordered as
texts among themselves; with any other value on one side both are ordered as numbers, and what is no
number has no order. The comparisons are total within a kind, but not transitive across kinds. -/
namespace CartCriteria

namespace Binary64

private theorem rank?_eq_none_iff {x : Binary64} : x.rank? = none ↔ x = nan := by
  cases x <;> simp [rank?]

/-- Numbers compare as their ranks do. -/
theorem compare?_of_rank? {x y : Binary64} {i j : Int} (hx : x.rank? = some i)
    (hy : y.rank? = some j) : x.compare? y = some (compare i j) := by
  rw [compare?, hx, hy]

/-- Exchanging the sides reverses the order. -/
theorem compare?_swap (x y : Binary64) : y.compare? x = (x.compare? y).map Ordering.swap := by
  rw [compare?, compare?]
  cases x.rank? with
  | none => cases y.rank? <;> rfl
  | some i =>
    cases y.rank? with
    | none => rfl
    | some j => exact congrArg some Std.OrientedOrd.eq_swap

private theorem compare?_eq_none_iff {x y : Binary64} :
    x.compare? y = none ↔ x = nan ∨ y = nan := by
  rw [← rank?_eq_none_iff, ← rank?_eq_none_iff, compare?]
  cases x.rank? <;> cases y.rank? <;> simp

/-- A sign and a magnitude always make a number. -/
theorem ofMagnitude_ne_nan (negative : Bool) (k : Nat) : ofMagnitude negative k ≠ nan := by
  rw [ofMagnitude]
  split <;> simp

theorem ofNat_ne_nan (n : Nat) : ofNat n ≠ nan :=
  ofMagnitude_ne_nan _ _

private theorem ofInt_ne_nan (n : Int) : ofInt n ≠ nan :=
  ofMagnitude_ne_nan _ _

end Binary64

namespace Loose

def isTextual : Option Json → Bool
  | some (.string _) | some (.array _) | some (.object _) => true
  | _ => false

def isScalar : Option Json → Bool
  | some .null | some (.bool _) | some (.number _) => true
  | _ => false

private theorem Primitive.compare?_number_left (x : Binary64) (q : Primitive) :
    (number x).compare? q = x.compare? q.toNumber := by
  cases q <;> rfl

private theorem Primitive.compare?_number_right (p : Primitive) (y : Binary64) :
    p.compare? (number y) = p.toNumber.compare? y := by
  cases p <;> rfl

private theorem primitive_eq (a : Option Json) :
    primitive a = if isTextual a then .text (stringOf a) else .number (numberOf a) := by
  cases a with
  | none => rfl
  | some v => cases v <;> rfl

/-- Of a textual value the primitive is its string form. -/
theorem primitive_of_isTextual {a : Option Json} (h : isTextual a = true) :
    primitive a = .text (stringOf a) := by
  rw [primitive_eq, if_pos h]

private theorem toNumber_primitive (a : Option Json) : (primitive a).toNumber = numberOf a :=
  rfl

variable {a b : Option Json}

/-- Textual values are ordered by their string forms. -/
theorem compare?_of_isTextual (ha : isTextual a = true) (hb : isTextual b = true) :
    compare? a b = some (Text.compareUnits16 (stringOf a) (stringOf b)) := by
  rw [compare?, primitive_eq a, primitive_eq b, if_pos ha, if_pos hb, Primitive.compare?]

/-- Values that are not both textual are ordered by their numeric forms. -/
theorem compare?_of_not_isTextual (h : ¬ (isTextual a = true ∧ isTextual b = true)) :
    compare? a b = (numberOf a).compare? (numberOf b) := by
  rw [compare?]
  by_cases ha : isTextual a = true
  · have hb : ¬ isTextual b = true := fun hb => h ⟨ha, hb⟩
    rw [primitive_eq b, if_neg hb, Primitive.compare?_number_right, toNumber_primitive]
  · rw [primitive_eq a, if_neg ha, Primitive.compare?_number_left, toNumber_primitive]

/-- Exchanging the sides reverses the order. -/
theorem compare?_swap (a b : Option Json) : compare? b a = (compare? a b).map Ordering.swap := by
  by_cases h : isTextual a = true ∧ isTextual b = true
  · rw [compare?_of_isTextual h.1 h.2, compare?_of_isTextual h.2 h.1, Text.compareUnits16_eq,
      Text.compareUnits16_eq]
    exact congrArg some Std.OrientedCmp.eq_swap
  · rw [compare?_of_not_isTextual h, compare?_of_not_isTextual (fun hba => h hba.symm)]
    exact Binary64.compare?_swap _ _

/-- Two values have no order exactly when numbers are asked for and one side has none. -/
theorem compare?_eq_none_iff : compare? a b = none ↔
    ¬ (isTextual a = true ∧ isTextual b = true) ∧ (numberOf a = .nan ∨ numberOf b = .nan) := by
  by_cases h : isTextual a = true ∧ isTextual b = true
  · simp [compare?_of_isTextual h.1 h.2, h]
  · rw [compare?_of_not_isTextual h, Binary64.compare?_eq_none_iff]
    exact (and_iff_right h).symm

private theorem numberOf_ne_nan : ∀ {a : Option Json}, isScalar a = true → numberOf a ≠ .nan
  | some .null, _ => Binary64.ofNat_ne_nan 0
  | some (.bool _), _ => Binary64.ofNat_ne_nan _
  | some (.number (.integer n _)), _ => Binary64.ofInt_ne_nan n
  | some (.number (.binary _)), _ => Binary64.noConfusion

/-- Null, booleans and numbers have a place among all numbers. -/
theorem exists_rank?_of_isScalar (h : isScalar a = true) :
    ∃ i, (numberOf a).rank? = some i :=
  Option.ne_none_iff_exists'.mp (mt Binary64.rank?_eq_none_iff.mp (numberOf_ne_nan h))

private theorem not_isTextual_of_isScalar : ∀ {a : Option Json}, isScalar a = true →
    ¬ isTextual a = true
  | some .null, _ | some (.bool _), _ | some (.number _), _ => Bool.false_ne_true

end Loose

namespace Comparison

open Loose (isTextual isScalar)

def relates (op : Comparison) (a b : Option Json) : Bool :=
  op.holds (Loose.compare? a b)

/-- The comparison that holds when the sides are exchanged. -/
def converse : Comparison → Comparison
  | gt => lt
  | lt => gt
  | gte => lte
  | lte => gte

private theorem relates_converse (op : Comparison) (a b : Option Json) :
    op.converse.relates b a = op.relates a b := by
  rw [relates, relates, Loose.compare?_swap a b]
  cases op <;> rcases Loose.compare? a b with _ | _ | _ | _ <;> rfl

private theorem holds_eq_false_iff (order : Option Ordering) :
    (∀ op : Comparison, op.holds order = false) ↔ order = none := by
  constructor
  · intro h
    cases order with
    | none => rfl
    | some order =>
      cases order with
      | lt => cases h lt
      | eq => cases h lte
      | gt => cases h gt
  · rintro rfl op
    cases op <;> rfl

private theorem holds_lte_some (order : Ordering) : lte.holds (some order) = order.isLE := by
  cases order <;> rfl

/-- Among values of one kind, any two are related by `lte` one way or the other, and `lte` is
transitive. -/
structure TotalPreorderOn (kind : Option Json → Bool) : Prop where
  total : ∀ {a b}, kind a = true → kind b = true →
    lte.relates a b = true ∨ lte.relates b a = true
  trans : ∀ {a b c}, kind a = true → kind b = true → kind c = true →
    lte.relates a b = true → lte.relates b c = true → lte.relates a c = true

private theorem totalPreorderOn_of_key {K : Type} [Ord K] [Std.TransOrd K]
    {kind : Option Json → Bool} (key : Option Json → K)
    (hkey : ∀ {a b}, kind a = true → kind b = true →
      Loose.compare? a b = some (compare (key a) (key b))) : TotalPreorderOn kind := by
  have hlte : ∀ {a b}, kind a = true → kind b = true →
      lte.relates a b = (compare (key a) (key b)).isLE := by
    intro a b ha hb
    rw [relates, hkey ha hb, holds_lte_some]
  constructor
  case total =>
    intro a b ha hb
    rw [hlte ha hb, hlte hb ha, Std.OrientedOrd.eq_swap (a := key b)]
    cases compare (key a) (key b) <;> simp
  case trans =>
    intro a b c ha hb hc hab hbc
    rw [hlte ha hb] at hab
    rw [hlte hb hc] at hbc
    rw [hlte ha hc]
    exact Std.TransOrd.isLE_trans hab hbc

private theorem totalPreorderOn_isTextual : TotalPreorderOn isTextual := by
  apply totalPreorderOn_of_key (fun a => Text.units16 (Loose.stringOf a))
  intro a b ha hb
  rw [Loose.compare?_of_isTextual ha hb, Text.compareUnits16, Text.compareLists_eq]

private theorem totalPreorderOn_isScalar : TotalPreorderOn isScalar := by
  apply totalPreorderOn_of_key (fun a => (Loose.numberOf a).rank?.getD 0)
  intro a b ha hb
  obtain ⟨i, hi⟩ := Loose.exists_rank?_of_isScalar ha
  obtain ⟨j, hj⟩ := Loose.exists_rank?_of_isScalar hb
  have hboth : ¬ (isTextual a = true ∧ isTextual b = true) := fun h =>
    Loose.not_isTextual_of_isScalar ha h.1
  rw [Loose.compare?_of_not_isTextual hboth, Binary64.compare?_of_rank? hi hj, hi, hj]
  rfl

/-- The four comparisons are one order. Exchanging the sides reverses it; either nothing is related,
which is so exactly when numbers are asked for and one side is none, or of `gt` and `lte` exactly one
holds, and of `lt` and `gte` too; and the order is total and transitive among textual values and
among scalars. -/
theorem comparisons_coherent :
    (∀ a b : Option Json,
      Loose.compare? b a = (Loose.compare? a b).map Ordering.swap ∧
      gt.relates a b = lt.relates b a ∧
      gte.relates a b = lte.relates b a ∧
      ((∀ op : Comparison, op.relates a b = false) ↔
        ¬ (isTextual a = true ∧ isTextual b = true) ∧
          (Loose.numberOf a = .nan ∨ Loose.numberOf b = .nan)) ∧
      ((∀ op : Comparison, op.relates a b = false) ∨
        (gt.relates a b ^^ lte.relates a b) = true ∧
          (lt.relates a b ^^ gte.relates a b) = true)) ∧
    TotalPreorderOn isTextual ∧ TotalPreorderOn isScalar := by
  refine ⟨?_, totalPreorderOn_isTextual, totalPreorderOn_isScalar⟩
  intro a b
  refine ⟨Loose.compare?_swap a b, relates_converse lt b a, relates_converse lte b a, ?_, ?_⟩
  · exact (holds_eq_false_iff _).trans Loose.compare?_eq_none_iff
  · cases h : Loose.compare? a b with
    | none => exact .inl ((holds_eq_false_iff _).mpr h)
    | some order =>
      right
      simp only [relates, h]
      cases order <;> exact ⟨rfl, rfl⟩

/-- Across kinds the comparisons are not transitive: as texts `10` comes before `9`. -/
example : lte.relates (some (.string "10")) (some (.string "9")) = true ∧
    lte.relates (some (.string "9")) (some (.number (.integer 9 (by decide)))) = true ∧
    lte.relates (some (.string "10")) (some (.number (.integer 9 (by decide)))) = false := by
  decide +kernel

end Comparison

/-- A condition with a comparison relates a value to its bound. -/
theorem Condition.holdsOf_compare (op : Comparison) (v : Option Json) (bound : Json) :
    (compare op bound).holdsOf v = op.relates v (some bound) := by
  rw [holdsOf, Comparison.relates]

namespace Loose

/-- Textual values always have an order. They are equal in it when their string forms are, which is
when `gte` and `lte` both hold, and otherwise the form that precedes the other is below it. -/
theorem compare?_textual {a b : Json} (ha : isTextual (some a) = true)
    (hb : isTextual (some b) = true) :
    ∃ order, compare? (some a) (some b) = some order ∧
      (order = .eq ↔ stringForm a = stringForm b) ∧
      (order = .lt ↔ Text.Precedes (stringForm a).toList (stringForm b).toList) ∧
      ((Condition.compare .gte b).holdsOf (some a) = true ∧
        (Condition.compare .lte b).holdsOf (some a) = true ↔
          equal (some a) (some b) = true) := by
  refine ⟨_, compare?_of_isTextual ha hb, Text.compareUnits16_eq_eq_iff _ _,
    Text.compareUnits16_eq_lt_iff _ _, ?_⟩
  rw [Condition.holdsOf_compare, Condition.holdsOf_compare, Comparison.relates, Comparison.relates,
    compare?_of_isTextual ha hb, equal, beq_iff_eq, ← Text.compareUnits16_eq_eq_iff]
  cases Text.compareUnits16 (stringOf (some a)) (stringOf (some b)) <;> decide

/-- A list whose string form is `n,😀`, with a character beyond 16 bits. -/
private def emojiList : Json := .array [.string "n", .string "😀"]

/-- The character of 16 bits stands above the one beyond them, though its code point is lower. -/
theorem compare?_textual_supplementary :
    isTextual (some emojiList) = true ∧ isTextual (some (.string "n,\uffff!")) = true ∧
    Text.Precedes "n,😀".toList "n,\uffff!".toList ∧
    compare? (some emojiList) (some (.string "n,\uffff!")) = some .lt := by
  have hlist : isTextual (some emojiList) = true := rfl
  have htext : isTextual (some (.string "n,\uffff!")) = true := rfl
  have hprecedes : Text.Precedes "n,😀".toList "n,\uffff!".toList :=
    .inr ⟨['n', ','], '😀', '\uffff', [], ['!'], rfl, rfl, by decide, by decide⟩
  obtain ⟨order, horder, -, hlt, -⟩ := compare?_textual hlist htext
  rw [hlt.mpr hprecedes] at horder
  exact ⟨hlist, htext, hprecedes, horder⟩

end Loose
end CartCriteria
