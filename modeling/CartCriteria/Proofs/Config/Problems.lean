import CartCriteria.Config.Problem
import CartCriteria.Proofs.Dictionary

/-! The problems of a configuration: one for each name whose rule is no criteria, in the order of
names, and then one for a default rule that is not there. -/
namespace CartCriteria.Config

variable {config : Config} {name : String}

def ruleFault? (binding : String × Json) : Option (String × NotCriteria) :=
  match Criteria.ofJson binding.2 (rulePath binding.1) with
  | .error fault => some (binding.1, fault)
  | .ok _ => none

def faultyRules (config : Config) : List (String × NotCriteria) :=
  config.rules.filterMap ruleFault?

private theorem ruleFault?_eq_some_iff {binding : String × Json} {faulty : String × NotCriteria} :
    ruleFault? binding = some faulty ↔
      binding.1 = faulty.1 ∧ Criteria.ofJson binding.2 (rulePath binding.1) = .error faulty.2 := by
  rw [ruleFault?]
  cases Criteria.ofJson binding.2 (rulePath binding.1) with
  | ok _ => simp
  | error fault => simp [Prod.ext_iff]

private theorem criteria_eq_error_iff {fault : NotCriteria} :
    config.criteria name = .error fault ↔
      ∃ rule, config.rule? name = some rule ∧ Criteria.ofJson rule (rulePath name) = .error fault := by
  rw [Config.criteria]
  cases config.rule? name with
  | none => simp
  | some rule =>
    cases hread : Criteria.ofJson rule (rulePath name) <;> simp [Except.map, hread]

/-- A name is faulty with what asking for its criteria fails with. -/
theorem mem_faultyRules_iff {fault : NotCriteria} :
    (name, fault) ∈ config.faultyRules ↔ config.criteria name = .error fault := by
  rw [faultyRules, List.mem_filterMap, criteria_eq_error_iff]
  constructor
  · rintro ⟨⟨found, rule⟩, hmem, hfault⟩
    obtain ⟨rfl, hread⟩ := ruleFault?_eq_some_iff.mp hfault
    exact ⟨rule, Dictionary.find?_of_mem config.rulesSorted hmem, hread⟩
  · rintro ⟨rule, hrule, hread⟩
    exact ⟨(name, rule), Dictionary.mem_of_find? hrule, ruleFault?_eq_some_iff.mpr ⟨rfl, hread⟩⟩

/-- The faulty names are sorted, so none is listed twice. -/
theorem sorted_faultyRules (config : Config) : Dictionary.Sorted config.faultyRules := by
  refine List.Pairwise.filterMap _ ?_ config.rulesSorted
  intro a b hlt x hx y hy
  obtain ⟨hx, -⟩ := ruleFault?_eq_some_iff.mp hx
  obtain ⟨hy, -⟩ := ruleFault?_eq_some_iff.mp hy
  rwa [← hx, ← hy]

/-- The problems are those of the faulty rules and that of the default rule. -/
theorem problems_eq (config : Config) :
    config.problems =
      (config.faultyRules.map fun faulty => .notCriteria faulty.2) ++ config.defaultProblem?.toList := by
  have hrule : ruleProblem? = fun binding =>
      (ruleFault? binding).map fun faulty => .notCriteria faulty.2 := by
    funext binding
    rw [ruleProblem?, ruleFault?]
    cases Criteria.ofJson binding.2 (rulePath binding.1) <;> rfl
  rw [problems, faultyRules, List.map_filterMap, hrule]

/-- The problem with the default rule is that it is not there. -/
theorem defaultProblem?_eq_some_iff {problem : ConfigProblem} :
    config.defaultProblem? = some problem ↔ ∃ name, config.settings.defaultRule = some name ∧
      config.rule? name = none ∧ problem = .missingDefault name := by
  rw [defaultProblem?]
  cases config.settings.defaultRule with
  | none => simp
  | some name =>
    constructor
    · intro h
      simp only [Option.ite_none_right_eq_some, Option.some.injEq] at h
      exact ⟨name, rfl, Option.isNone_iff_eq_none.mp h.1, h.2.symm⟩
    · rintro ⟨_, hname, hrule, rfl⟩
      cases hname
      exact if_pos (Option.isNone_iff_eq_none.mpr hrule)

/-- Without a problem every rule is criteria, and the default rule is there. -/
theorem problems_eq_nil_iff :
    config.problems = [] ↔ (∀ name fault, config.criteria name ≠ .error fault) ∧
      ∀ name, config.settings.defaultRule = some name → config.rule? name ≠ none := by
  rw [problems_eq, List.append_eq_nil_iff, List.map_eq_nil_iff, List.eq_nil_iff_forall_not_mem,
    Option.toList_eq_nil_iff, Option.eq_none_iff_forall_ne_some]
  simp only [Prod.forall, mem_faultyRules_iff, ne_eq, defaultProblem?_eq_some_iff]
  refine and_congr_right fun _ => ⟨?_, ?_⟩
  · intro h name hname hrule
    exact h (.missingDefault name) ⟨name, hname, hrule, rfl⟩
  · rintro h problem ⟨name, hname, hrule, -⟩
    exact h name hname hrule

end CartCriteria.Config
