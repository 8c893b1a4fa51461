import CartCriteria.Config.Example
import CartCriteria.Proofs.Config.Problems
import CartCriteria.Proofs.Config.Setting

/-! Runs of settings, some of which may fail. Each part of the configuration is what the last call
that named it and succeeded made of it. -/
namespace CartCriteria.Config

/-- The configuration after one call; a call that fails leaves it as it is. -/
def setOrKeep (config : Config) (call : String × String) : Config :=
  match config.set call.1 call.2 with
  | .ok saved => saved
  | .error _ => config

def setAll (config : Config) (calls : List (String × String)) : Config :=
  calls.foldl setOrKeep config

/-- The value of the last call with a key that succeeds where it is made. -/
def lastSet? (config : Config) (key : String) : List (String × String) → Option String
  | [] => none
  | call :: rest =>
    match config.set call.1 call.2 with
    | .ok saved => (lastSet? saved key rest).or (if call.1 = key then some call.2 else none)
    | .error _ => lastSet? config key rest

def HasObjectRules (config : Config) : Prop :=
  ∀ binding ∈ config.rules, binding.2.members?.isSome = true

variable {config saved : Config} {key value name : String}

private theorem typedDefaultRule_of_mem (h : value ∈ ["", "none", "null"]) :
    typedDefaultRule value = none :=
  if_pos (by simpa using h)

private theorem typedDefaultRule_of_not_mem (h : value ∉ ["", "none", "null"]) :
    typedDefaultRule value = some value :=
  if_neg (by simpa using h)

private theorem setAll_of_step {α : Type} {part : Config → α} {made : String → α}
    (hstep : ∀ {config saved : Config} {k v : String}, config.set k v = .ok saved →
      part saved = if k = key then made v else part config)
    (config : Config) (calls : List (String × String)) :
    part (config.setAll calls) = ((config.lastSet? key calls).map made).getD (part config) := by
  induction calls generalizing config with
  | nil => rfl
  | cons call rest ih =>
    rw [setAll, List.foldl_cons, lastSet?, setOrKeep]
    cases hset : config.set call.1 call.2 with
    | error fault => exact ih config
    | ok saved =>
      dsimp only
      have hrest := ih saved
      rw [setAll, hstep hset] at hrest
      rw [hrest]
      cases lastSet? saved key rest with
      | some last => rfl
      | none => split <;> rfl

private theorem exists_set_of_lastSet? {calls : List (String × String)}
    (h : config.lastSet? key calls = some value) :
    ∃ before after saved, calls = before ++ (key, value) :: after ∧
      (config.setAll before).set key value = .ok saved := by
  induction calls generalizing config with
  | nil => cases h
  | cons call rest ih =>
    have hlater : ∀ next : Config, config.setOrKeep call = next →
        next.lastSet? key rest = some value → ∃ before after saved,
          call :: rest = before ++ (key, value) :: after ∧
            (config.setAll before).set key value = .ok saved := by
      rintro next rfl hnext
      obtain ⟨before, after, saved, hrest, hset⟩ := ih hnext
      exact ⟨call :: before, after, saved, congrArg (call :: ·) hrest, hset⟩
    rw [lastSet?] at h
    cases hset : config.set call.1 call.2 with
    | error fault =>
      rw [hset] at h
      exact hlater config (by rw [setOrKeep, hset]) h
    | ok saved =>
      rw [hset] at h
      rcases Option.or_eq_some_iff.mp h with hrest | ⟨-, hself⟩
      · exact hlater saved (by rw [setOrKeep, hset]) hrest
      · obtain ⟨rfl, hvalue⟩ := Option.ite_none_right_eq_some.mp hself
        cases hvalue
        exact ⟨[], rest, saved, rfl, hset⟩

private theorem hasObjectRules_setOrKeep (hobjects : config.HasObjectRules)
    (call : String × String) : (config.setOrKeep call).HasObjectRules := by
  rw [setOrKeep]
  cases hset : config.set call.1 call.2 with
  | error fault => exact hobjects
  | ok saved =>
    rcases set_cases hset with ⟨name, members, -, -, -, rfl⟩ | ⟨-, rfl⟩ | ⟨-, n, hn, -, rfl⟩
    · intro binding hbinding
      rcases Dictionary.mem_insert hbinding with rfl | hbinding
      · rfl
      · exact hobjects binding hbinding
    · exact hobjects
    · exact hobjects

private theorem hasObjectRules_setAll (hobjects : config.HasObjectRules)
    (calls : List (String × String)) : (config.setAll calls).HasObjectRules := by
  induction calls generalizing config with
  | nil => exact hobjects
  | cons call rest ih => exact ih (hasObjectRules_setOrKeep hobjects call)

private theorem criteria_of_hasObjectRules (hobjects : config.HasObjectRules) (name : String) :
    ∃ criteria, config.criteria name = .ok criteria := by
  rw [Config.criteria]
  cases hrule : config.rule? name with
  | none => exact ⟨none, rfl⟩
  | some raw =>
    have hobject := hobjects _ (Dictionary.mem_of_find? hrule)
    obtain ⟨members, hmembers⟩ := Option.isSome_iff_exists.mp hobject
    cases raw with
    | object => exact ⟨_, rfl⟩
    | null | bool | number | string | array => cases hmembers

private theorem problems_of_hasObjectRules (hobjects : config.HasObjectRules) :
    config.problems = config.defaultProblem?.toList := by
  have hnone : config.faultyRules = [] := by
    apply List.eq_nil_iff_forall_not_mem.mpr
    rintro ⟨name, fault⟩ hfaulty
    obtain ⟨criteria, hcriteria⟩ := criteria_of_hasObjectRules hobjects name
    rw [mem_faultyRules_iff, hcriteria] at hfaulty
    cases hfaulty
  rw [problems_eq, hnone]
  rfl

/-- After any run of calls on a configuration whose rules are objects they still are, so only the
default rule can be a problem. Each part is what the last call with its key that succeeded made of
it, whatever the rules are called, and a call with a key that names no part does nothing. Which calls
succeed is the same at every stage of the run. -/
theorem setAll_exact (config : Config) (calls : List (String × String))
    (hobjects : config.HasObjectRules) :
    (config.setAll calls).HasObjectRules ∧
    (∀ name, ∃ criteria, (config.setAll calls).criteria name = .ok criteria) ∧
    (∀ problem ∈ (config.setAll calls).problems, ∃ name, problem = .missingDefault name ∧
      (config.setAll calls).settings.defaultRule = some name ∧
      (config.setAll calls).rule? name = none) ∧
    (∀ name value, config.lastSet? (rulePath name) calls = some value →
      ∃ members, Json.ofText? value = some (.object members) ∧
        (config.setAll calls).rule? name = some (.object members)) ∧
    (∀ name, config.lastSet? (rulePath name) calls = none →
      (config.setAll calls).rule? name = config.rule? name) ∧
    (∀ value, config.lastSet? "settings.default_rule" calls = some value →
      (value ∈ ["", "none", "null"] → (config.setAll calls).settings.defaultRule = none) ∧
      (value ∉ ["", "none", "null"] → (config.setAll calls).settings.defaultRule = some value)) ∧
    (config.lastSet? "settings.default_rule" calls = none →
      (config.setAll calls).settings.defaultRule = config.settings.defaultRule) ∧
    (∀ value, config.lastSet? "settings.fuzzy_threshold" calls = some value →
      Text.Spells value (config.setAll calls).settings.threshold) ∧
    (config.lastSet? "settings.fuzzy_threshold" calls = none →
      (config.setAll calls).settings.threshold = config.settings.threshold) ∧
    (∀ key value, SettingKey.IsUnknown key → ∀ before after,
      config.setAll (before ++ (key, value) :: after) = config.setAll (before ++ after)) ∧
    (∀ before key value, (∃ saved, (config.setAll before).set key value = .ok saved) ↔
      IsSettable key value) := by
  have hkept := hasObjectRules_setAll hobjects calls
  have hrule := fun name => setAll_of_step (rule?_set name) config calls
  have hdefault := setAll_of_step defaultRule_set config calls
  have hthreshold := setAll_of_step threshold_set config calls
  refine ⟨hkept, criteria_of_hasObjectRules hkept, ?_, ?_, ?_, ?_, ?_, ?_, ?_, ?_, ?_⟩
  · intro problem hproblem
    rw [problems_of_hasObjectRules hkept, Option.mem_toList] at hproblem
    obtain ⟨name, hname, hnone, rfl⟩ := defaultProblem?_eq_some_iff.mp hproblem
    exact ⟨name, rfl, hname, hnone⟩
  · intro name value hlast
    obtain ⟨_, _, _, -, hset⟩ := exists_set_of_lastSet? hlast
    obtain ⟨members, hread⟩ := ofText?_of_set_rule hset
    refine ⟨members, hread, ?_⟩
    rw [hrule, hlast, ← hread]
    rfl
  · intro name hlast
    rw [hrule, hlast]
    rfl
  · intro value hlast
    rw [hlast] at hdefault
    exact ⟨fun hunset => hdefault.trans (typedDefaultRule_of_mem hunset),
      fun hname => hdefault.trans (typedDefaultRule_of_not_mem hname)⟩
  · intro hlast
    rw [hdefault, hlast]
    rfl
  · intro value hlast
    rw [hlast] at hthreshold
    exact (Text.natural_eq_ok_iff.mp hthreshold.symm).1
  · intro hlast
    rw [hlast] at hthreshold
    exact Except.ok.inj hthreshold
  · intro key value hkey before after
    have hkeep : ∀ state : Config, state.setOrKeep (key, value) = state := by
      intro state
      rw [setOrKeep, set_of_isUnknown state hkey]
    rw [setAll, setAll, List.foldl_append, List.foldl_append, List.foldl_cons, hkeep]
  · intro before key value
    exact exists_set_iff _ key value

private def mixedCalls : List (String × String) := [
  ("rules.settings.default_rule", "\x7b\"a\":1\x7d"),
  ("rules.x", "\x7b\x7d"),
  ("rules.settings.default_rule", "\x7b\x7d"),
  ("rules.x", "[1]"),
  ("settings.default_rule", "x"),
  ("settings.fuzzy_threshold", "many"),
  ("rules.", "\x7b\x7d"),
  ("rule.x", "\x7b\x7d")]

/-- The sample has a default rule from the start. The calls make it another one, and one call more
leaves none. -/
theorem setAll_exact_mixed :
    sample.HasObjectRules ∧ (sample.setAll mixedCalls).HasObjectRules ∧
    sample.lastSet? (rulePath "settings.default_rule") mixedCalls = some "\x7b\x7d" ∧
    (sample.setAll mixedCalls).rule? "settings.default_rule" = some (.object []) ∧
    (sample.setAll mixedCalls).settings.defaultRule = some "x" ∧
    (sample.setAll (mixedCalls ++ [("settings.default_rule", "none")])).settings.defaultRule =
      none ∧
    (sample.setAll mixedCalls).settings.threshold = sample.settings.threshold := by
  have hobjects : sample.HasObjectRules := by
    rw [HasObjectRules]
    decide
  have hrule : sample.lastSet? (rulePath "settings.default_rule") mixedCalls =
      some "\x7b\x7d" := by
    decide +kernel
  have hdefault : sample.lastSet? "settings.default_rule" mixedCalls = some "x" := by
    decide +kernel
  have hunset : sample.lastSet? "settings.default_rule"
      (mixedCalls ++ [("settings.default_rule", "none")]) = some "none" := by
    decide +kernel
  have hthreshold : sample.lastSet? "settings.fuzzy_threshold" mixedCalls = none := by
    decide +kernel
  obtain ⟨hkept, -, -, hrules, -, hdefaults, -, -, hthresholds, -⟩ :=
    setAll_exact sample mixedCalls hobjects
  obtain ⟨-, -, -, -, -, hdefaultsMore, -⟩ := setAll_exact sample _ hobjects
  obtain ⟨members, hread, hmade⟩ := hrules _ _ hrule
  have hempty : Json.ofText? "\x7b\x7d" = some (.object []) := rfl
  cases hempty.symm.trans hread
  exact ⟨hobjects, hkept, hrule, hmade, (hdefaults _ hdefault).2 (by decide),
    (hdefaultsMore _ hunset).1 (by decide), hthresholds hthreshold⟩

end CartCriteria.Config
