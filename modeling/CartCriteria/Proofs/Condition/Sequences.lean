import CartCriteria.Condition.Match

/-! Conditions on sequences. A path offers one value or a sequence of them, and a condition asks for
some value that it holds of. So `any` may be taken apart before or after the choice of the value, but
the operands of `all` must be met by one and the same value: each on its own may be met by another. -/
namespace CartCriteria

namespace Resolution

/-- The values that a path offers to a condition. A path that leads nowhere offers an absent one. -/
def offered : Resolution → List (Option Json)
  | missing => [none]
  | found (.array items) => items.map some
  | found v => [some v]
  | projected entries => entries

/-- Whether the path leads nowhere, to a value that is no array, or to a sequence of one entry. -/
def isSingle : Resolution → Bool
  | missing => true
  | found (.array items) => items.length == 1
  | found _ => true
  | projected entries => entries.length == 1

private theorem exists_offered_of_isSingle {r : Resolution} (h : r.isSingle = true) :
    ∃ e, r.offered = [e] := by
  cases r with
  | missing => exact ⟨none, rfl⟩
  | projected entries => exact List.length_eq_one_iff.mp (beq_iff_eq.mp h)
  | found v =>
    cases v with
    | array items =>
      obtain ⟨item, rfl⟩ := List.length_eq_one_iff.mp (beq_iff_eq.mp h)
      exact ⟨some item, rfl⟩
    | null | bool | number | string | object => exact ⟨_, rfl⟩

/-- A projection in which nothing is absent offers what its array offers. -/
theorem offered_toJson {entries : List (Option Json)} (h : none ∉ entries) :
    (found (projected entries).toJson).offered = entries := by
  have hkept : ∀ e ∈ entries, (some ∘ fun e => e.getD Json.null) e = id e := by
    intro e he
    cases e with
    | none => exact absurd he h
    | some v => rfl
  rw [toJson, offered, List.map_map, List.map_congr_left hkept, List.map_id]

end Resolution

namespace Condition

open Resolution (offered)

variable {r s : Resolution} {cs : List Condition}

private theorem holdsAt_iff {c : Condition} :
    c.holdsAt r = true ↔ ∃ e ∈ r.offered, c.holdsOf e = true := by
  rw [← List.any_eq_true]
  cases r with
  | missing => simp [holdsAt, offered]
  | projected entries => rfl
  | found v => cases v <;> simp [holdsAt, offered]

/-- Where the same values are offered the same conditions hold. -/
theorem holdsAt_eq_of_offered (c : Condition) (h : r.offered = s.offered) :
    c.holdsAt r = c.holdsAt s := by
  rw [Bool.eq_iff_iff, holdsAt_iff, holdsAt_iff, h]

private theorem holdsOf_all_iff {e : Option Json} :
    (all cs).holdsOf e = true ↔ ∀ c ∈ cs, c.holdsOf e = true := by
  rw [holdsOf, allHoldOf_eq_all, List.all_eq_true]

private theorem holdsOf_any_iff {e : Option Json} :
    (any cs).holdsOf e = true ↔ ∃ c ∈ cs, c.holdsOf e = true := by
  rw [holdsOf, anyHoldsOf_eq_any, List.any_eq_true]

/-- Some operand holds of some value: the order of the two choices does not matter. -/
theorem holdsAt_any_iff : (any cs).holdsAt r = true ↔ ∃ c ∈ cs, c.holdsAt r = true := by
  simp only [holdsAt_iff, holdsOf_any_iff]
  constructor
  · rintro ⟨e, he, c, hc, h⟩
    exact ⟨c, hc, e, he, h⟩
  · rintro ⟨c, hc, e, he, h⟩
    exact ⟨e, he, c, hc, h⟩

/-- The value that all operands hold of serves each of them. -/
theorem holdsAt_of_holdsAt_all (h : (all cs).holdsAt r = true) : ∀ c ∈ cs, c.holdsAt r = true := by
  obtain ⟨e, he, hall⟩ := holdsAt_iff.mp h
  exact fun c hc => holdsAt_iff.mpr ⟨e, he, holdsOf_all_iff.mp hall c hc⟩

/-- Where one value is offered the operands cannot hold of different ones. -/
theorem holdsAt_all_of_isSingle (hsingle : r.isSingle = true) (h : ∀ c ∈ cs, c.holdsAt r = true) :
    (all cs).holdsAt r = true := by
  obtain ⟨e, he⟩ := r.exists_offered_of_isSingle hsingle
  refine holdsAt_iff.mpr ⟨e, by simp [he], holdsOf_all_iff.mpr fun c hc => ?_⟩
  obtain ⟨e', he', hholds⟩ := holdsAt_iff.mp (h c hc)
  rw [he] at he'
  exact List.mem_singleton.mp he' ▸ hholds

private theorem holdsAt_of_offered_nil (c : Condition) (h : r.offered = []) :
    c.holdsAt r = false := by
  rw [Bool.eq_false_iff, Ne, holdsAt_iff, h]
  simp

/-- What the connectives say of whatever a path leads to. `any` holds exactly where some operand does;
where `all` holds each operand does, and conversely where there are not several values to choose from.
An array and a projection of the same present values meet the same conditions, so a projection may be
taken for its array if nothing in it is absent; and what is empty meets no condition at all. -/
theorem holdsAt_connectives :
    (∀ (r : Resolution) (cs : List Condition),
      ((any cs).holdsAt r = true ↔ ∃ c ∈ cs, c.holdsAt r = true) ∧
      ((all cs).holdsAt r = true → ∀ c ∈ cs, c.holdsAt r = true) ∧
      (r.isSingle = true → ((all cs).holdsAt r = true ↔ ∀ c ∈ cs, c.holdsAt r = true))) ∧
    ∀ c : Condition,
      (∀ items : List Json,
        c.holdsAt (.found (.array items)) = c.holdsAt (.projected (items.map some))) ∧
      (∀ entries : List (Option Json), none ∉ entries →
        c.holdsAt (.projected entries) = c.holdsAt (.found (Resolution.projected entries).toJson)) ∧
      c.holdsAt (.found (.array [])) = false ∧ c.holdsAt (.projected []) = false := by
  refine ⟨?_, ?_⟩
  · intro r cs
    exact ⟨holdsAt_any_iff, holdsAt_of_holdsAt_all, fun hsingle =>
      ⟨holdsAt_of_holdsAt_all, holdsAt_all_of_isSingle hsingle⟩⟩
  · intro c
    refine ⟨?_, ?_, holdsAt_of_offered_nil c rfl, holdsAt_of_offered_nil c rfl⟩
    · intro items
      exact holdsAt_eq_of_offered c rfl
    · intro entries hpresent
      exact holdsAt_eq_of_offered c (Resolution.offered_toJson hpresent).symm

private def above20 : Condition := .compare .gt (.number (.integer 20 (by decide)))

private def below30 : Condition := .compare .lt (.number (.integer 30 (by decide)))

private def twentyAndThirty : List (Option Json) :=
  [some (.number (.integer 20 (by decide))), some (.string "30")]

/-- Of two entries each may meet one operand, and then none meets both. -/
example : above20.holdsAt (.projected twentyAndThirty) = true ∧
    below30.holdsAt (.projected twentyAndThirty) = true ∧
    (all [above20, below30]).holdsAt (.projected twentyAndThirty) = false := by
  decide +kernel

/-- Two conditions that one entry meets, and a projection without absent entries. -/
theorem holdsAt_connectives_single :
    Resolution.isSingle (.projected [some (.string "25")]) = true ∧
    (all [above20, below30]).holdsAt (.projected [some (.string "25")]) = true ∧
    none ∉ twentyAndThirty ∧
    above20.holdsAt (.projected twentyAndThirty) = true ∧
    above20.holdsAt (.found (Resolution.projected twentyAndThirty).toJson) = true := by
  obtain ⟨hconnectives, hsequences⟩ := holdsAt_connectives
  have hsingle : Resolution.isSingle (.projected [some (.string "25")]) = true := rfl
  obtain ⟨-, -, hall⟩ := hconnectives (.projected [some (.string "25")]) [above20, below30]
  have heach : ∀ c ∈ [above20, below30], c.holdsAt (.projected [some (.string "25")]) = true := by
    rw [List.forall_mem_cons, List.forall_mem_singleton]
    decide +kernel
  have hpresent : none ∉ twentyAndThirty := by simp [twentyAndThirty]
  have habove : above20.holdsAt (.projected twentyAndThirty) = true := by decide +kernel
  obtain ⟨-, hjson, -⟩ := hsequences above20
  exact ⟨hsingle, (hall hsingle).mpr heach, hpresent, habove,
    (hjson twentyAndThirty hpresent).symm.trans habove⟩

end Condition
end CartCriteria
