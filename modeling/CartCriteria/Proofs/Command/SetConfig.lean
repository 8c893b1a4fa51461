import CartCriteria.Proofs.Command.Stages
import CartCriteria.Proofs.Config.RoundTrip
import CartCriteria.Proofs.Config.Sorted

/-! The configuration after a part of it was set. The file that was written is read again unless a
rule nests too deep for a strict document and a relaxed one has not its integers or its strings;
nothing keeps a rule from being set that deep. -/
namespace CartCriteria

namespace Directory

variable {d after : Directory} {around : Surroundings} {setting showing : Invocation}
  {key value : String}

/-- A run that sets a part with success has loaded, set and saved the configuration. -/
theorem run_set_cases {outcome : Outcome} (haction : setting.action = .set key value)
    (hrun : d.run around setting = (after, outcome)) (hsuccess : outcome.exitCode = .success) :
    ∃ config saved, d.loadConfig (around.configPath setting.configPath) = .ok config ∧
      config.set key value = .ok saved ∧
        d.saveConfig around (around.configPath setting.configPath) saved = (after, none) := by
  rw [run, haction] at hrun
  dsimp only at hrun
  cases hresult : d.setConfig around (around.configPath setting.configPath) key value with
  | mk written result =>
    rw [hresult] at hrun
    cases hrun
    rw [Outcome.exitCode_ofResult] at hsuccess
    cases result with
    | error fault => exact absurd hsuccess fault.exitCode_ne_success
    | ok report => exact (setConfig_cases hresult).2

/-- Loading, setting and saving are all that a run needs to set a part with success. -/
theorem run_set_of_saved {config saved : Config} (haction : setting.action = .set key value)
    (hload : d.loadConfig (around.configPath setting.configPath) = .ok config)
    (hset : config.set key value = .ok saved)
    (hsave : d.saveConfig around (around.configPath setting.configPath) saved = (after, none)) :
    ∃ outcome, d.run around setting = (after, outcome) ∧ outcome.exitCode = .success := by
  have hresult : d.setConfig around (around.configPath setting.configPath) key value =
      (after, .ok (.setting key value)) := by
    rw [setConfig, hload]
    dsimp only
    rw [hset]
    dsimp only
    rw [hsave]
  rw [run, haction]
  dsimp only
  rw [hresult]
  exact ⟨_, rfl, Outcome.exitCode_ofResult _ _⟩

private theorem exitCode_showConfig (haction : showing.action = .inquire .showConfig) :
    (d.run around showing).2.exitCode = .success ↔
      ∃ config, d.loadConfig (around.configPath showing.configPath) = .ok config := by
  rw [run, haction]
  dsimp only
  rw [Outcome.exitCode_ofResult, answer]
  cases d.loadConfig (around.configPath showing.configPath) with
  | error fault =>
    refine ⟨fun h => absurd h fault.exitCode_ne_success, ?_⟩
    rintro ⟨_, h⟩
    cases h
  | ok config => exact ⟨fun _ => ⟨config, rfl⟩, fun _ => rfl⟩

/-- What was saved is loaded again when its text is within the limits of one kind of document. -/
theorem loadConfig_of_saved_iff {path : String} {saved : Config}
    (h : d.saveConfig around path saved = (after, none)) :
    (∃ reloaded, after.loadConfig path = .ok reloaded) ↔ saved.IsShallow ∨ saved.IsRelaxed := by
  rw [loadConfig_of_saved h]
  by_cases hshallow : saved.IsShallow
  · obtain ⟨rules, -, _, htext⟩ := Config.ofText?_of_isShallow hshallow
    rw [htext]
    exact ⟨fun _ => .inl hshallow, fun _ => ⟨_, rfl⟩⟩
  · by_cases hrelaxed : saved.IsRelaxed
    · obtain ⟨rules, -, _, _, htext⟩ := Config.ofText?_of_not_isShallow hshallow hrelaxed
      rw [htext]
      exact ⟨fun _ => .inr hrelaxed, fun _ => ⟨_, rfl⟩⟩
    · rw [Config.ofText?_eq_none hshallow hrelaxed]
      refine ⟨?_, fun h => absurd h (not_or.mpr ⟨hshallow, hrelaxed⟩)⟩
      rintro ⟨_, h⟩
      cases h

/-- After a part was set with success, the configuration can be loaded, and shown, exactly when its
rules are within the depth of a strict document or its strings and integers are those that a relaxed
document has. -/
theorem showConfig_after_set_iff {outcome : Outcome} (hset : setting.action = .set key value)
    (hrun : d.run around setting = (after, outcome)) (hsuccess : outcome.exitCode = .success)
    (hshow : showing.action = .inquire .showConfig)
    (hpath : around.configPath showing.configPath = around.configPath setting.configPath) :
    ∃ config saved, d.loadConfig (around.configPath setting.configPath) = .ok config ∧
      config.set key value = .ok saved ∧
      ((∃ reloaded, after.loadConfig (around.configPath setting.configPath) = .ok reloaded) ↔
        saved.IsShallow ∨ saved.IsRelaxed) ∧
      ((after.run around showing).2.exitCode = .success ↔ saved.IsShallow ∨ saved.IsRelaxed) := by
  obtain ⟨config, saved, hload, hsaved, hsave⟩ := run_set_cases hset hrun hsuccess
  have hreload := loadConfig_of_saved_iff hsave
  refine ⟨config, saved, hload, hsaved, hreload, ?_⟩
  rw [exitCode_showConfig hshow, hpath]
  exact hreload

private theorem loadConfig_empty : empty.loadConfig "c" = .ok .empty := rfl

private theorem saveConfig_empty (config : Config) :
    empty.saveConfig .plain "c" config = ((empty.saveConfig .plain "c" config).1, none) := rfl

/-- Setting the threshold keeps the configuration within the limits. -/
theorem showConfig_after_set_threshold :
    ∃ after outcome,
      empty.run .plain (.onConfig "c" (.set "settings.fuzzy_threshold" "3")) = (after, outcome) ∧
      outcome.exitCode = .success ∧
      (∃ config saved, empty.loadConfig "c" = .ok config ∧
        config.set "settings.fuzzy_threshold" "3" = .ok saved ∧ saved.IsShallow) ∧
      (∃ reloaded, after.loadConfig "c" = .ok reloaded) ∧
      (after.run .plain (.onConfig "c" (.inquire .showConfig))).2.exitCode = .success := by
  have hset : Config.empty.set "settings.fuzzy_threshold" "3" =
      .ok { Config.empty with settings := ⟨none, 3, by decide⟩ } := rfl
  obtain ⟨outcome, hrun, hsuccess⟩ :=
    @run_set_of_saved empty _ .plain (.onConfig "c" (.set _ _)) _ _ _ _ rfl loadConfig_empty hset
      (saveConfig_empty _)
  obtain ⟨config, saved, hload, hsaved, hloads, hshows⟩ :=
    @showConfig_after_set_iff empty _ .plain (.onConfig "c" (.set _ _))
      (.onConfig "c" (.inquire .showConfig)) _ _ outcome rfl hrun hsuccess rfl rfl
  cases loadConfig_empty.symm.trans hload
  cases hset.symm.trans hsaved
  have hshallow : Config.IsShallow { Config.empty with settings := ⟨none, 3, by decide⟩ } := by
    decide
  exact ⟨_, outcome, hrun, hsuccess, ⟨_, _, loadConfig_empty, hset, hshallow⟩,
    hloads.mpr (.inl hshallow), hshows.mpr (.inl hshallow)⟩

end Directory

private def nested (n : JsonNumber) : Nat → Json
  | 0 => .number n
  | depth + 1 => .object [("a", nested n depth)]

private theorem depth_nested (n : JsonNumber) (depth : Nat) : (nested n depth).depth = depth := by
  induction depth with
  | zero => rfl
  | succ depth ih =>
    rw [nested, Json.depth, Json.depthOfMembers, ih, Json.depthOfMembers, Nat.max_zero]

private theorem sorted_nested (n : JsonNumber) (depth : Nat) : (nested n depth).Sorted := by
  induction depth with
  | zero => trivial
  | succ depth ih => exact ⟨List.pairwise_singleton _ _, ih, trivial⟩

private theorem allNumbers_nested (p : JsonNumber → Bool) (n : JsonNumber) (depth : Nat) :
    (nested n depth).allNumbers p = p n := by
  induction depth with
  | zero => rfl
  | succ depth ih =>
    rw [Json.allNumbers] at ih ⊢
    rw [nested, Json.all, Json.allMembers, ih, Json.allMembers, Bool.and_true, Bool.true_and]

private theorem ofText?_nested {depth : Nat} (hdepth : depth ≤ Strict.depthLimit) :
    Json.ofText? (nested .greatest depth).pretty = some (nested .greatest depth) := by
  have hstrict : Strict.ofText? (nested .greatest depth).pretty = some (nested .greatest depth) := by
    apply Strict.ofText?_pretty (sorted_nested .greatest depth)
    · rwa [depth_nested]
    · rw [allNumbers_nested]
      exact Strict.keeps_integer _
  rw [Json.ofText?, hstrict]

private def holding (depth : Nat) : Config :=
  Config.empty.withRule "x" (nested .greatest depth)

private theorem set_nested {depth : Nat} (hpositive : 0 < depth)
    (hdepth : depth ≤ Strict.depthLimit) :
    Config.empty.set "rules.x" (nested .greatest depth).pretty = .ok (holding depth) := by
  obtain ⟨depth, rfl⟩ := Nat.exists_eq_add_one.mpr hpositive
  have hkey : SettingKey.ofText? "rules.x" = some (.rule "x") := by rfl
  rw [Config.set, hkey]
  dsimp only
  rw [ofText?_nested hdepth]
  rfl

private theorem holding_not_isShallow {depth : Nat} (h : Config.ruleDepthLimit < depth) :
    ¬ (holding depth).IsShallow := by
  have hrules : (holding depth).rules = [("x", nested .greatest depth)] := rfl
  rw [Config.IsShallow, hrules]
  simp only [List.mem_singleton, forall_eq, depth_nested]
  exact Nat.not_le.mpr h

private theorem holding_not_isRelaxed (depth : Nat) : ¬ (holding depth).IsRelaxed := by
  intro h
  have hholds := h.2 ("x", nested .greatest depth) List.mem_cons_self
  rw [allNumbers_nested] at hholds
  cases hholds

namespace Directory

private theorem unreadable_after_nested {depth : Nat} (hdeep : Config.ruleDepthLimit < depth)
    (hdepth : depth ≤ Strict.depthLimit) :
    ∃ after outcome,
      empty.run .plain (.onConfig "c" (.set "rules.x" (nested .greatest depth).pretty)) =
        (after, outcome) ∧ outcome.exitCode = .success ∧
      after.loadConfig "c" = .error (.malformedConfig "c") ∧
      (after.run .plain (.onConfig "c" (.inquire .showConfig))).2.exitCode = .badConfig := by
  have hset := set_nested (Nat.zero_lt_of_lt hdeep) hdepth
  obtain ⟨outcome, hrun, hsuccess⟩ :=
    @run_set_of_saved empty _ .plain (.onConfig "c" (.set "rules.x" _)) _ _ _ _ rfl
      loadConfig_empty hset (saveConfig_empty (holding depth))
  have hlost := loadConfig_of_saved (saveConfig_empty (holding depth))
  rw [Config.ofText?_eq_none (holding_not_isShallow hdeep) (holding_not_isRelaxed depth)] at hlost
  refine ⟨_, outcome, hrun, hsuccess, hlost, ?_⟩
  generalize (empty.saveConfig .plain "c" (holding depth)).1 = after at hlost
  have hshown : (after.run .plain (.onConfig "c" (.inquire .showConfig))).2.exitCode =
      (Outcome.ofResult (.ofFlags false false false false)
        (after.answer .plain "c" .showConfig)).exitCode := rfl
  rw [hshown, answer, hlost, Outcome.exitCode_ofResult]
  rfl

/-- A rule may be as deep as a document of its own, and then the configuration with it is lost. -/
theorem unreadable_after_deep_rule :
    ∃ after outcome,
      empty.run .plain (.onConfig "c" (.set "rules.x" (nested .greatest 126).pretty)) =
        (after, outcome) ∧ outcome.exitCode = .success ∧
      after.loadConfig "c" = .error (.malformedConfig "c") ∧
      (after.run .plain (.onConfig "c" (.inquire .showConfig))).2.exitCode = .badConfig :=
  unreadable_after_nested (by decide) (by decide)

end Directory
end CartCriteria
