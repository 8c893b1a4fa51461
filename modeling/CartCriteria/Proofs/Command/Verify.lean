import CartCriteria.Proofs.Command.Check
import CartCriteria.Proofs.Config.Problems

/-! The verification of a configuration next to the commands that use it. Without a problem no rule
can make them fail, and every problem makes one of them fail. -/
namespace CartCriteria

namespace Config

variable {config : Config} {rule : Option String} {name : String}

private theorem writtenRule_cases (hname : rule.or config.settings.defaultRule = some name) :
    (config.rule? name = none ∧ config.writtenRule rule = .error 6) ∨
    (∃ fault, config.criteria name = .error fault ∧ config.writtenRule rule = .error 5) ∨
    (∃ raw criteria, config.criteria name = .ok (some criteria) ∧
      config.writtenRule rule = .ok raw) := by
  rw [writtenRule, hname, Config.criteria]
  dsimp only
  cases hrule : config.rule? name with
  | none => exact .inl ⟨rfl, rfl⟩
  | some raw =>
    dsimp only
    cases hmembers : raw.members? with
    | none =>
      rw [Criteria.ofJson_of_members? hmembers]
      exact .inr (.inl ⟨_, rfl, rfl⟩)
    | some members =>
      rw [Json.eq_object_of_members? hmembers]
      exact .inr (.inr ⟨_, _, rfl, rfl⟩)

end Config

namespace Directory

variable {d : Directory} {around : Surroundings} {verifying : Invocation} {config : Config}
  {path name cart : String} {rule : Option String}

/-- Every run of an inquiry on the configuration at a path, whatever else surrounds it, has one of
the exit codes. -/
def Exits (d : Directory) (path : String) (inquiry : Inquiry) (codes : List Nat) : Prop :=
  ∀ (around : Surroundings) (invocation : Invocation), invocation.action = .inquire inquiry →
    around.configPath invocation.configPath = path →
    (d.run around invocation).2.exitCode.toNat ∈ codes

private theorem exits_check (hload : d.loadConfig path = .ok config) {raw : Json}
    (hrule : config.writtenRule rule = .ok raw) : d.Exits path (.check cart none rule) [0, 2, 3] := by
  intro around invocation haction hpath
  rw [toNat_exitCode_check haction, hpath, checkCode_of_loadConfig hload, hrule]
  exact cartCode_mem d around cart raw

private theorem exits_check_of_error (hload : d.loadConfig path = .ok config) {code : Nat}
    (hrule : config.writtenRule rule = .error code) : d.Exits path (.check cart none rule) [code] := by
  intro around invocation haction hpath
  rw [toNat_exitCode_check haction, hpath, checkCode_of_loadConfig hload, hrule]
  exact List.mem_singleton_self code

private theorem exits_showRule (hload : d.loadConfig path = .ok config) {criteria : Criteria}
    (hcriteria : config.criteria name = .ok (some criteria)) :
    d.Exits path (.showRule name) [0] := by
  intro around invocation haction hpath
  rw [run_inquire haction, Outcome.exitCode_ofResult, hpath, answer, hload]
  simp [bind, Except.bind, pure, Except.pure, Config.ruleCriteria, hcriteria, Report.rule,
    Report.success, ExitCode.toNat]

private theorem verifyConfig_of_loadConfig (hexists : d.pathExists path = true)
    (hload : d.loadConfig path = .ok config) : d.verifyConfig path = .ok config.problems := by
  rw [loadConfig, if_pos hexists] at hload
  rw [verifyConfig, if_pos hexists]
  cases htext : d.readText path with
  | error fault =>
    rw [htext] at hload
    cases hload
  | ok text =>
    rw [htext] at hload
    dsimp only at hload ⊢
    cases hread : Config.ofText? text with
    | none =>
      rw [hread] at hload
      cases hload
    | some read =>
      rw [hread] at hload
      cases hload
      rfl

private theorem run_verify (haction : verifying.action = .inquire .verifyConfig)
    (hpath : around.configPath verifying.configPath = path) (hexists : d.pathExists path = true)
    (hload : d.loadConfig path = .ok config) :
    (d.run around verifying).2 = .ofResult (verifying.mode around)
      (if config.problems.isEmpty then .ok (.verified path)
        else .error (.invalidConfig path config.problems)) := by
  rw [run_inquire haction, answer, hpath, verifyConfig_of_loadConfig hexists hload]
  rfl

private theorem exits_check_of_sound (hload : d.loadConfig path = .ok config)
    (hsound : config.problems = []) (hname : rule.or config.settings.defaultRule = some name)
    (hrule : config.rule? name ≠ none) : d.Exits path (.check cart none rule) [0, 2, 3] := by
  obtain ⟨hcriteria, -⟩ := Config.problems_eq_nil_iff.mp hsound
  rcases Config.writtenRule_cases hname with ⟨hnone, -⟩ | ⟨fault, hfault, -⟩ | ⟨raw, _, -, hraw⟩
  · exact absurd hnone hrule
  · exact absurd hfault (hcriteria name fault)
  · exact exits_check hload hraw

private theorem exits_showRule_of_sound (hload : d.loadConfig path = .ok config)
    (hsound : config.problems = []) (hrule : config.rule? name ≠ none) :
    d.Exits path (.showRule name) [0] := by
  obtain ⟨hcriteria, -⟩ := Config.problems_eq_nil_iff.mp hsound
  have hname : (some name).or config.settings.defaultRule = some name := rfl
  rcases Config.writtenRule_cases hname with ⟨hnone, -⟩ | ⟨fault, hfault, -⟩ | ⟨_, _, hshown, -⟩
  · exact absurd hnone hrule
  · exact absurd hfault (hcriteria name fault)
  · exact exits_showRule hload hshown

private theorem exits_check_of_problem (hload : d.loadConfig path = .ok config)
    (hproblem : config.problems ≠ []) :
    (∃ name, config.rule? name ≠ none ∧ ∀ cart, d.Exits path (.check cart none (some name)) [5]) ∨
      ∀ cart, d.Exits path (.check cart none none) [6] := by
  rw [ne_eq, Config.problems_eq_nil_iff, Classical.not_and_iff_not_or_not] at hproblem
  rcases hproblem with hfaulty | hdangling
  · simp only [ne_eq, Classical.not_forall, Classical.not_not] at hfaulty
    obtain ⟨name, fault, hfault⟩ := hfaulty
    have hname : (some name).or config.settings.defaultRule = some name := rfl
    rcases Config.writtenRule_cases hname with ⟨hnone, -⟩ | ⟨_, -, hfive⟩ | ⟨_, _, hshown, -⟩
    · rw [Config.criteria, hnone] at hfault
      cases hfault
    · refine .inl ⟨name, ?_, fun cart => exits_check_of_error hload hfive⟩
      intro hnone
      rw [Config.criteria, hnone] at hfault
      cases hfault
    · rw [hfault] at hshown
      cases hshown
  · simp only [ne_eq, Classical.not_forall, Classical.not_not] at hdangling
    obtain ⟨name, hname, hnone⟩ := hdangling
    have hdefault : Option.none.or config.settings.defaultRule = some name := hname
    rcases Config.writtenRule_cases hdefault with ⟨-, hsix⟩ | ⟨fault, hfault, -⟩ | ⟨_, _, hshown, -⟩
    · exact .inr fun cart => exits_check_of_error hload hsix
    · rw [Config.criteria, hnone] at hfault
      cases hfault
    · rw [Config.criteria, hnone] at hshown
      cases hshown

/-- The problems that verifying lists are those of the faulty names in order and then that of a
default rule that is not there. When it lists none, showing a rule never fails and a check against
one fails for nothing but its cart; when it lists some, the checks against one rule always fail for
it, or those that name none. -/
theorem verify_exact (haction : verifying.action = .inquire .verifyConfig)
    (hpath : around.configPath verifying.configPath = path) (hexists : d.pathExists path = true)
    (hload : d.loadConfig path = .ok config) :
    (∃ (faulty : List (String × NotCriteria)) (last : Option ConfigProblem)
      (problems : List ConfigProblem),
      Dictionary.Sorted faulty ∧
      (∀ name fault, (name, fault) ∈ faulty ↔ config.criteria name = .error fault) ∧
      (∀ problem, last = some problem ↔ ∃ name, config.settings.defaultRule = some name ∧
        config.rule? name = none ∧ problem = .missingDefault name) ∧
      problems = (faulty.map fun f => .notCriteria f.2) ++ last.toList ∧
      d.verifyConfig path = .ok problems ∧
      (d.run around verifying).2 = .ofResult (verifying.mode around)
        (if problems.isEmpty then .ok (.verified path) else .error (.invalidConfig path problems))) ∧
    ((d.run around verifying).2.exitCode.toNat = 0 →
      (∀ name, config.rule? name ≠ none → d.Exits path (.showRule name) [0] ∧
        ∀ cart, d.Exits path (.check cart none (some name)) [0, 2, 3]) ∧
      (config.settings.defaultRule ≠ none →
        ∀ cart, d.Exits path (.check cart none none) [0, 2, 3])) ∧
    ((d.run around verifying).2.exitCode.toNat = 5 →
      (∃ name, config.rule? name ≠ none ∧ ∀ cart, d.Exits path (.check cart none (some name)) [5]) ∨
      ∀ cart, d.Exits path (.check cart none none) [6]) := by
  have hrun := run_verify haction hpath hexists hload
  refine ⟨?_, ?_, ?_⟩
  · exact ⟨config.faultyRules, config.defaultProblem?, config.problems, config.sorted_faultyRules,
      fun name fault => Config.mem_faultyRules_iff,
      fun problem => Config.defaultProblem?_eq_some_iff, config.problems_eq,
      verifyConfig_of_loadConfig hexists hload, hrun⟩
  · intro hzero
    have hsound : config.problems = [] := by
      rw [hrun] at hzero
      split at hzero
      · exact List.isEmpty_iff.mp ‹_›
      · rw [Outcome.exitCode_ofResult] at hzero
        cases hzero
    refine ⟨?_, ?_⟩
    · intro name hrule
      exact ⟨exits_showRule_of_sound hload hsound hrule,
        fun cart => exits_check_of_sound hload hsound rfl hrule⟩
    · intro hdefault cart
      obtain ⟨name, hname⟩ := Option.ne_none_iff_exists'.mp hdefault
      exact exits_check_of_sound hload hsound hname
        ((Config.problems_eq_nil_iff.mp hsound).2 name hname)
  · intro hfive
    apply exits_check_of_problem hload
    intro hsound
    rw [hrun, hsound, Outcome.exitCode_ofResult] at hfive
    cases hfive

private def onlyConfig (text : String) : Directory := ⟨.folder [("c", .file text.toUTF8)], []⟩

private theorem pathExists_onlyConfig (text : String) : (onlyConfig text).pathExists "c" = true :=
  rfl

private def verifyingC : Invocation := .onConfig "c" (.inquire .verifyConfig)

private theorem exitCode_verifyingC {text : String} {problems : List ConfigProblem}
    (hload : (onlyConfig text).loadConfig "c" = .ok config) (hproblems : config.problems = problems) :
    ((onlyConfig text).run .plain verifyingC).2.exitCode =
      if problems.isEmpty then .success else .badConfig := by
  have hrun := @run_verify (onlyConfig text) .plain verifyingC config "c" rfl rfl
    (pathExists_onlyConfig text) hload
  rw [hrun, hproblems, Outcome.exitCode_ofResult]
  cases problems <;> rfl

private theorem loadConfig_of_problems {problems : List ConfigProblem}
    (h : (d.loadConfig path).toOption.map Config.problems = some problems) :
    ∃ config, d.loadConfig path = .ok config ∧ config.problems = problems := by
  cases hload : d.loadConfig path with
  | error fault =>
    rw [hload] at h
    cases h
  | ok config =>
    rw [hload] at h
    exact ⟨config, rfl, Option.some.inj h⟩

private def brokenText : String :=
  "\x7b\"rules\":\x7b\"x\":[1],\"y\":\x7b\x7d\x7d,\"settings\":\x7b\"default_rule\":\"z\"\x7d\x7d"

private theorem problems_broken :
    ((onlyConfig brokenText).loadConfig "c").toOption.map Config.problems =
      some [.notCriteria ⟨"array", "rules.x"⟩, .missingDefault "z"] := by
  decide +kernel

private def soundText : String :=
  "\x7b\"rules\":\x7b\"y\":\x7b\x7d\x7d,\"settings\":\x7b\"default_rule\":\"y\"\x7d\x7d"

private theorem problems_sound :
    ((onlyConfig soundText).loadConfig "c").toOption.map Config.problems = some [] := by
  decide +kernel

/-- A configuration with both kinds of problem, and one with none. -/
theorem verify_exact_broken_sound :
    (∃ broken, (onlyConfig brokenText).loadConfig "c" = .ok broken ∧
      ((onlyConfig brokenText).run .plain verifyingC).2.exitCode.toNat = 5 ∧
      ((∃ name, broken.rule? name ≠ none ∧
        ∀ cart, (onlyConfig brokenText).Exits "c" (.check cart none (some name)) [5]) ∨
      ∀ cart, (onlyConfig brokenText).Exits "c" (.check cart none none) [6])) ∧
    ∃ sound, (onlyConfig soundText).loadConfig "c" = .ok sound ∧
      ((onlyConfig soundText).run .plain verifyingC).2.exitCode.toNat = 0 ∧
      ∀ name, sound.rule? name ≠ none → (onlyConfig soundText).Exits "c" (.showRule name) [0] := by
  constructor
  · obtain ⟨broken, hload, hproblems⟩ := loadConfig_of_problems problems_broken
    have hverify := @verify_exact (onlyConfig brokenText) .plain verifyingC broken "c" rfl rfl
      (pathExists_onlyConfig _) hload
    have hfive : ((onlyConfig brokenText).run .plain verifyingC).2.exitCode.toNat = 5 := by
      rw [exitCode_verifyingC hload hproblems]
      rfl
    exact ⟨broken, hload, hfive, hverify.2.2 hfive⟩
  · obtain ⟨sound, hload, hproblems⟩ := loadConfig_of_problems problems_sound
    have hverify := @verify_exact (onlyConfig soundText) .plain verifyingC sound "c" rfl rfl
      (pathExists_onlyConfig _) hload
    have hzero : ((onlyConfig soundText).run .plain verifyingC).2.exitCode.toNat = 0 := by
      rw [exitCode_verifyingC hload hproblems]
      rfl
    exact ⟨sound, hload, hzero, fun name hrule => ((hverify.2.1 hzero).1 name hrule).1⟩

end Directory
end CartCriteria
