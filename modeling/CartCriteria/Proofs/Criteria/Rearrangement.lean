import CartCriteria.Criteria.Basic

/-! Rearranged criteria. Neither the order nor the repetition of entries, of the operands of a
connective or of candidates says anything, at any depth. -/
namespace CartCriteria

section

variable {α β : Type} {as : List α} {bs : List β} {f : α → Bool} {g : β → Bool}

private theorem all_of_all (hbs : ∀ b ∈ bs, ∃ a ∈ as, g b = f a) (h : as.all f = true) :
    bs.all g = true := by
  rw [List.all_eq_true] at h ⊢
  intro b hb
  obtain ⟨a, ha, hba⟩ := hbs b hb
  rw [hba]
  exact h a ha

private theorem any_of_any (has : ∀ a ∈ as, ∃ b ∈ bs, f a = g b) (h : as.any f = true) :
    bs.any g = true := by
  rw [List.any_eq_true] at h ⊢
  obtain ⟨a, ha, hfa⟩ := h
  obtain ⟨b, hb, hab⟩ := has a ha
  exact ⟨b, hb, hab ▸ hfa⟩

private theorem all_eq_all (has : ∀ a ∈ as, ∃ b ∈ bs, f a = g b)
    (hbs : ∀ b ∈ bs, ∃ a ∈ as, g b = f a) : as.all f = bs.all g :=
  Bool.eq_iff_iff.mpr ⟨all_of_all hbs, all_of_all has⟩

private theorem any_eq_any (has : ∀ a ∈ as, ∃ b ∈ bs, f a = g b)
    (hbs : ∀ b ∈ bs, ∃ a ∈ as, g b = f a) : as.any f = bs.any g :=
  Bool.eq_iff_iff.mpr ⟨any_of_any has, any_of_any hbs⟩

end

namespace Condition

mutual

/-- The conditions are the same up to the order and repetition of candidates, and of operands that
are equivalent in turn. -/
inductive Equivalent : Condition → Condition → Prop
  | refl (c : Condition) : Equivalent c c
  | isIn {vs ws : List Json} (h : ∀ v, v ∈ vs ↔ v ∈ ws) : Equivalent (.isIn vs) (.isIn ws)
  | all {cs ds : List Condition} (hcs : CoveredBy cs ds) (hds : CoveredBy ds cs) :
    Equivalent (.all cs) (.all ds)
  | any {cs ds : List Condition} (hcs : CoveredBy cs ds) (hds : CoveredBy ds cs) :
    Equivalent (.any cs) (.any ds)

/-- Each of the conditions is equivalent to one of the others. -/
inductive CoveredBy : List Condition → List Condition → Prop
  | nil {ds : List Condition} : CoveredBy [] ds
  | cons {c d : Condition} {cs ds : List Condition} (hcd : Equivalent c d) (hd : d ∈ ds)
    (hcs : CoveredBy cs ds) : CoveredBy (c :: cs) ds

end

/-- Rearranging goes both ways. -/
theorem Equivalent.symm {c d : Condition} : Equivalent c d → Equivalent d c
  | .refl c => .refl c
  | .isIn h => .isIn fun v => (h v).symm
  | .all hcs hds => .all hds hcs
  | .any hcs hds => .any hds hcs

mutual

/-- Equivalent conditions hold of the same values. The recursion is on why they are equivalent. -/
theorem Equivalent.holdsOf_eq (v : Option Json) : ∀ {c d : Condition}, Equivalent c d →
    c.holdsOf v = d.holdsOf v
  | _, _, .refl c => rfl
  | _, _, .isIn h => by
    rw [holdsOf, holdsOf]
    exact any_eq_any (fun w hw => ⟨w, (h w).mp hw, rfl⟩) fun w hw => ⟨w, (h w).mpr hw, rfl⟩
  | _, _, .all hcs hds => by
    rw [holdsOf, holdsOf, allHoldOf_eq_all, allHoldOf_eq_all]
    exact all_eq_all (hcs.exists_holdsOf_eq v) (hds.exists_holdsOf_eq v)
  | _, _, .any hcs hds => by
    rw [holdsOf, holdsOf, anyHoldsOf_eq_any, anyHoldsOf_eq_any]
    exact any_eq_any (hcs.exists_holdsOf_eq v) (hds.exists_holdsOf_eq v)
termination_by structural _ _ h => h

private theorem CoveredBy.exists_holdsOf_eq (v : Option Json) : ∀ {cs ds : List Condition},
    CoveredBy cs ds → ∀ c ∈ cs, ∃ d ∈ ds, c.holdsOf v = d.holdsOf v
  | _, _, .nil => by simp
  | _, _, .cons hcd hd hcs => by
    -- Taken before the split, which puts `e` in the place of the first condition.
    have hfirst := hcd.holdsOf_eq v
    have hrest := hcs.exists_holdsOf_eq v
    intro e he
    rcases List.mem_cons.mp he with rfl | he
    · exact ⟨_, hd, hfirst⟩
    · exact hrest e he
termination_by structural _ _ h => h

end

/-- Equivalent conditions hold of whatever a path leads to alike. -/
theorem Equivalent.holdsAt_eq {c d : Condition} (h : Equivalent c d) (r : Resolution) :
    c.holdsAt r = d.holdsAt r := by
  cases r with
  | missing => exact h.holdsOf_eq none
  | projected entries => simp only [holdsAt, h.holdsOf_eq]
  | found v => cases v <;> simp only [holdsAt, h.holdsOf_eq]

end Condition

namespace Criteria

/-- The criteria have the same entries up to order, repetition and the equivalence of conditions. -/
def Equivalent (a b : Criteria) : Prop :=
  (∀ e ∈ a.entries, ∃ f ∈ b.entries, e.1 = f.1 ∧ e.2.Equivalent f.2) ∧
    ∀ f ∈ b.entries, ∃ e ∈ a.entries, e.1 = f.1 ∧ e.2.Equivalent f.2

private theorem meets_eq (record : Json) {e f : String × Condition} (hpath : e.1 = f.1)
    (hcondition : e.2.Equivalent f.2) : meets record e = meets record f := by
  rw [meets, meets, hpath]
  exact hcondition.holdsAt_eq _

/-- Equivalent criteria have the same verdict on every record, and one more entry makes the verdict
the conjunction of the former one and of what the entry says. -/
theorem eligible_of_equivalent (record : Json) :
    (∀ {a b : Criteria}, a.Equivalent b → a.eligible record = b.eligible record) ∧
    ∀ (criteria : Criteria) (path : String) (c : Condition),
      (criteria.add path c).eligible record =
        (criteria.eligible record && c.holdsAt (.ofPath record path)) := by
  constructor
  · rintro a b ⟨hab, hba⟩
    refine all_eq_all (fun e he => ?_) fun f hf => ?_
    · obtain ⟨f, hf, hpath, hcondition⟩ := hab e he
      exact ⟨f, hf, meets_eq record hpath hcondition⟩
    · obtain ⟨e, he, hpath, hcondition⟩ := hba f hf
      exact ⟨e, he, (meets_eq record hpath hcondition).symm⟩
  · intro criteria path c
    rw [eligible, add, List.all_append, List.all_cons, List.all_nil, Bool.and_true, meets,
      ← eligible]

private def colours : Condition :=
  .all [.any [.isIn [.string "red", .string "blue"], .literal .null], .compare .lt (.string "s")]

private def coloursAgain : Condition :=
  .all [.compare .lt (.string "s"),
    .any [.literal .null, .isIn [.string "blue", .string "red", .string "blue"]],
    .compare .lt (.string "s")]

private theorem colours_equivalent : colours.Equivalent coloursAgain := by
  have hcandidates : (Condition.isIn [.string "red", .string "blue"]).Equivalent
      (.isIn [.string "blue", .string "red", .string "blue"]) := .isIn (by simp [or_comm])
  have hany : (Condition.any [.isIn [.string "red", .string "blue"], .literal .null]).Equivalent
      (.any [.literal .null, .isIn [.string "blue", .string "red", .string "blue"]]) :=
    .any (.cons hcandidates (by simp) (.cons (.refl _) List.mem_cons_self .nil))
      (.cons (.refl _) (by simp) (.cons hcandidates.symm List.mem_cons_self .nil))
  exact .all (.cons hany (by simp) (.cons (.refl _) List.mem_cons_self .nil))
    (.cons (.refl _) (by simp) (.cons hany.symm List.mem_cons_self
      (.cons (.refl _) (by simp) .nil)))

private def outfit : Criteria :=
  ⟨[("colour", colours), ("size", .literal (.string "m"))]⟩

private def outfitAgain : Criteria :=
  ⟨[("size", .literal (.string "m")), ("colour", coloursAgain), ("colour", colours)]⟩

private def blueMedium : Json :=
  .object [("colour", .string "blue"), ("size", .string "m")]

/-- A rearrangement at three depths: of entries, of operands and of candidates. -/
theorem eligible_of_equivalent_outfit :
    outfit.Equivalent outfitAgain ∧ outfitAgain.eligible blueMedium = true ∧
    (outfitAgain.add "size" (.literal (.string "l"))).eligible blueMedium = false := by
  have hentries : outfit.Equivalent outfitAgain := by
    refine ⟨?_, ?_⟩
    · simp [outfit, outfitAgain, colours_equivalent, Condition.Equivalent.refl]
    · simp [outfit, outfitAgain, colours_equivalent, Condition.Equivalent.refl]
  obtain ⟨hsame, hadd⟩ := eligible_of_equivalent blueMedium
  have hbefore : outfit.eligible blueMedium = true := by decide +kernel
  have hlarge : (Condition.literal (.string "l")).holdsAt (.ofPath blueMedium "size") = false := rfl
  refine ⟨hentries, (hsame hentries).symm.trans hbefore, ?_⟩
  rw [hadd, hlarge, Bool.and_false]

end Criteria
end CartCriteria
