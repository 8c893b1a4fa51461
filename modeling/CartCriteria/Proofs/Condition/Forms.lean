import CartCriteria.Proofs.Loose.Order

/-! What a condition sees of a value. Equality and membership see its string form. A comparison sees
besides whether the value is textual, and the numeric form of a value that is not; so among textual
values, and where nothing is compared, the string form is all there is to see. -/
namespace CartCriteria.Condition

open Loose (stringOf primitive isTextual)

mutual

/-- Whether no node of the condition, at any depth, is a comparison. -/
def comparesNothing : Condition → Bool
  | compare _ _ => false
  | all operands | any operands => noneCompares operands
  | literal _ | isIn _ | unrecognized _ | invalid _ => true

def noneCompares : List Condition → Bool
  | [] => true
  | c :: rest => comparesNothing c && noneCompares rest

end

private theorem noneCompares_iff {cs : List Condition} :
    noneCompares cs = true ↔ ∀ c ∈ cs, c.comparesNothing = true := by
  induction cs with
  | nil => simp [noneCompares]
  | cons c rest ih => rw [noneCompares, Bool.and_eq_true_iff, ih, List.forall_mem_cons]

variable {v w : Option Json}

/-- A condition sees no more of a value than its string form and, where it compares, what the value is
when values are ordered. -/
theorem holdsOf_congr (hstring : stringOf v = stringOf w) (c : Condition)
    (hprimitive : c.comparesNothing = true ∨ primitive v = primitive w) :
    c.holdsOf v = c.holdsOf w := by
  -- What is known of a connective is known of each operand.
  have operand {operands : List Condition}
      (h : noneCompares operands = true ∨ primitive v = primitive w) :
      ∀ c ∈ operands, c.comparesNothing = true ∨ primitive v = primitive w :=
    fun c hc => h.imp_left fun hnone => noneCompares_iff.mp hnone c hc
  induction c with
  | literal expected => rw [holdsOf, holdsOf, Loose.equal, Loose.equal, hstring]
  | unrecognized expected => rw [holdsOf, holdsOf, Loose.equal, Loose.equal, hstring]
  | isIn candidates => simp only [holdsOf, isCandidate, Loose.equal, hstring]
  | invalid _ => rfl
  | compare op bound =>
    rcases hprimitive with hnone | hsame
    · cases hnone
    · rw [holdsOf, holdsOf, Loose.compare?, Loose.compare?, hsame]
  | all operands ih =>
    rw [holdsOf, holdsOf, allHoldOf_eq_all, allHoldOf_eq_all, Bool.eq_iff_iff, List.all_eq_true,
      List.all_eq_true]
    exact forall₂_congr fun c hc => by rw [ih c hc (operand hprimitive c hc)]
  | any operands ih =>
    rw [holdsOf, holdsOf, anyHoldsOf_eq_any, anyHoldsOf_eq_any, Bool.eq_iff_iff, List.any_eq_true,
      List.any_eq_true]
    exact exists_congr fun c => and_congr_right fun hc => by
      rw [ih c hc (operand hprimitive c hc)]

private theorem stringOf_eq_of_literal
    (h : (literal (.string (stringOf v))).holdsOf v = (literal (.string (stringOf v))).holdsOf w) :
    stringOf v = stringOf w := by
  have hself : (literal (.string (stringOf v))).holdsOf v = true := beq_iff_eq.mpr rfl
  rw [h] at hself
  exact (beq_iff_eq.mp hself).symm

/-- Conditions see values through their forms alone. Two values, either of which may be absent, meet
the same conditions without comparisons exactly when they have one string form, and two textual values
do so for all conditions; hence an array is what the text is that joins the forms of its items, and
every object is one text. -/
theorem alike_iff_stringOf_eq :
    (∀ v w : Option Json,
      (∀ c : Condition, c.comparesNothing = true → c.holdsOf v = c.holdsOf w) ↔
        stringOf v = stringOf w) ∧
    (∀ v w : Option Json, isTextual v = true → isTextual w = true →
      ((∀ c : Condition, c.holdsOf v = c.holdsOf w) ↔ stringOf v = stringOf w)) ∧
    ∀ c : Condition,
      (∀ items : List Json, c.holdsOf (some (.array items)) =
        c.holdsOf (some (.string (Loose.joinCommas (Loose.itemStrings items))))) ∧
      ∀ members : List (String × Json), c.holdsOf (some (.object members)) =
        c.holdsOf (some (.string "[object Object]")) := by
  have textual : ∀ v w : Option Json, isTextual v = true → isTextual w = true →
      stringOf v = stringOf w → ∀ c : Condition, c.holdsOf v = c.holdsOf w := by
    intro v w hv hw hstring c
    apply holdsOf_congr hstring c
    rw [Loose.primitive_of_isTextual hv, Loose.primitive_of_isTextual hw, hstring]
    exact .inr rfl
  refine ⟨?_, ?_, ?_⟩
  · intro v w
    exact ⟨fun h => stringOf_eq_of_literal (h _ rfl), fun h c hc => holdsOf_congr h c (.inl hc)⟩
  · intro v w hv hw
    exact ⟨fun h => stringOf_eq_of_literal (h _), textual v w hv hw⟩
  · intro c
    refine ⟨?_, ?_⟩
    · intro items
      exact textual (some (.array items)) (some (.string _)) rfl rfl rfl c
    · intro members
      exact textual (some (.object members)) (some (.string _)) rfl rfl rfl c

/-- Null and its string form are told apart as soon as something is compared. -/
example : stringOf (some .null) = stringOf (some (.string "null")) ∧
    (compare .gte (.number (.integer 0 (by decide)))).holdsOf (some .null) = true ∧
    (compare .gte (.number (.integer 0 (by decide)))).holdsOf (some (.string "null")) = false := by
  decide +kernel

private def listed : Json := .array [.string "a", .null]

private def behindA : Condition :=
  .all [.compare .gt (.string "a"), .any [.invalid .null, .isIn [.null, .string "a,"]]]

private def undefinedOrNull : Condition :=
  .any [.literal .null, .all [.isIn [.string "undefined"]]]

/-- A list and a text that compare alike, and an absent value that a text stands for unless something
is compared. -/
theorem alike_iff_stringOf_eq_listed :
    isTextual (some listed) = true ∧ isTextual (some (.string "a,")) = true ∧
    stringOf (some listed) = stringOf (some (.string "a,")) ∧
    behindA.holdsOf (some listed) = true ∧ behindA.holdsOf (some (.string "a,")) = true ∧
    undefinedOrNull.comparesNothing = true ∧ stringOf none = stringOf (some (.string "undefined")) ∧
    undefinedOrNull.holdsOf none = true ∧
    undefinedOrNull.holdsOf (some (.string "undefined")) = true := by
  obtain ⟨hplain, htextual, -⟩ := alike_iff_stringOf_eq
  have hstring : stringOf (some listed) = stringOf (some (.string "a,")) := rfl
  have hlisted : behindA.holdsOf (some listed) = true := by decide +kernel
  have habsent : undefinedOrNull.holdsOf none = true := by decide +kernel
  have hsame := (htextual (some listed) (some (.string "a,")) rfl rfl).mpr hstring behindA
  have halso := (hplain none (some (.string "undefined"))).mpr rfl undefinedOrNull rfl
  exact ⟨rfl, rfl, hstring, hlisted, hsame.symm.trans hlisted, rfl, rfl, habsent,
    halso.symm.trans habsent⟩

end CartCriteria.Condition
