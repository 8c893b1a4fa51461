import CartCriteria.Proofs.Command.SetConfig

/-! The rules that the setting of a part does not name. They are written and read again with all the
others, and a strict document does not always give a number back. -/
namespace CartCriteria

namespace Config

variable {config saved reloaded : Config} {key value name : String} {rule : Json}

/-- Setting a part leaves every rule alone that the key does not name. -/
theorem rule?_of_set (h : config.set key value = .ok saved) (hother : key ≠ rulePath name) :
    saved.rule? name = config.rule? name := by
  rw [rule?_set name h, if_neg hother]

/-- A rule is read again as it is unless the document is strict and one of its numbers is not. -/
theorem rule?_of_ofText?_iff (hsorted : config.HasSortedRules)
    (h : ofText? config.toJson.pretty = some reloaded) (hrule : config.rule? name = some rule) :
    reloaded.rule? name = some rule ↔
      ¬ config.IsShallow ∨ rule.allNumbers (Document.keeps Strict.reading) = true := by
  have hmem := Dictionary.mem_of_find? hrule
  by_cases hshallow : config.IsShallow
  · obtain ⟨rules, hrules, _, htext⟩ := ofText?_of_isShallow hshallow
    rw [htext] at h
    cases h
    have hread : Dictionary.find? name rules = reread? strictKind rule := by
      rw [find?_of_rereadRules? name hrules, show Dictionary.find? name _ = _ from hrule,
        Option.bind_some]
    rw [rule?, hread, reread?_strict_eq_iff (hsorted _ hmem) (hshallow _ hmem),
      or_iff_right (not_not_intro hshallow)]
  · by_cases hrelaxed : config.IsRelaxed
    · obtain ⟨rules, hrules, _, _, htext⟩ := ofText?_of_not_isShallow hshallow hrelaxed
      rw [htext] at h
      cases h
      have hread : Dictionary.find? name rules = some rule := by
        rw [find?_of_rereadRules? name hrules, show Dictionary.find? name _ = _ from hrule,
          Option.bind_some, reread?_relaxed (hsorted _ hmem) (hrelaxed.2 _ hmem)]
      exact ⟨fun _ => .inl hshallow, fun _ => hread⟩
    · rw [ofText?_eq_none hshallow hrelaxed] at h
      cases h

/-- A rule that is there is selected by what it is alone. -/
theorem selectRule_of_rule? (hrule : config.rule? name = some rule)
    (hsame : reloaded.rule? name = some rule) :
    reloaded.selectRule (some name) = config.selectRule (some name) := by
  simp only [selectRule, Option.some_or, ruleCriteria, criteria, hrule, hsame]
  cases Criteria.ofJson rule (rulePath name) <;> rfl

end Config

namespace Directory

variable {d after : Directory} {around : Surroundings} {setting : Invocation}
  {key value name cart : String} {rule : Json}

private theorem checkCart_of_rule? {path : String} {config reloaded : Config}
    (hload : d.loadConfig path = .ok config) (hreload : after.loadConfig path = .ok reloaded)
    (hrule : config.rule? name = some rule) (hsame : reloaded.rule? name = some rule)
    (hcart : after.readDocument around .cart (.ofText cart) =
      d.readDocument around .cart (.ofText cart)) :
    after.checkCart around path cart none (some name) =
      d.checkCart around path cart none (some name) := by
  have hselect : after.selectCriteria around path none (some name) =
      d.selectCriteria around path none (some name) := by
    rw [selectCriteria, selectCriteria, hload, hreload]
    exact Config.selectRule_of_rule? hrule hsame
  rw [checkCart, checkCart, hselect, hcart]

/-- After a part was set with success, a rule that the key does not name is what it was exactly when
the file is too deep for a strict document or such a document gives every number of the rule back;
and then a check against it ends as before. -/
theorem rule?_after_set_iff {outcome : Outcome} {config reloaded : Config}
    (hset : setting.action = .set key value)
    (hrun : d.run around setting = (after, outcome)) (hsuccess : outcome.exitCode = .success)
    (hload : d.loadConfig (around.configPath setting.configPath) = .ok config)
    (hrule : config.rule? name = some rule) (hother : key ≠ Config.rulePath name)
    (hreload : after.loadConfig (around.configPath setting.configPath) = .ok reloaded) :
    (∃ saved, config.set key value = .ok saved ∧
      (reloaded.rule? name = some rule ↔
        ¬ saved.IsShallow ∨ rule.allNumbers (Document.keeps Strict.reading) = true)) ∧
    (reloaded.rule? name = some rule →
      ∀ (during : Surroundings) (checking : Invocation) (cart : String),
        checking.action = .inquire (.check cart none (some name)) →
        during.configPath checking.configPath = around.configPath setting.configPath →
        after.readDocument during .cart (.ofText cart) =
          d.readDocument during .cart (.ofText cart) →
        (after.run during checking).2 = (d.run during checking).2) := by
  obtain ⟨loaded, saved, hloaded, hsaved, hsave⟩ := run_set_cases hset hrun hsuccess
  rw [hload] at hloaded
  cases hloaded
  constructor
  · have hsorted := Config.hasSortedRules_of_set (Config.hasSortedRules_of_loadConfig hload) hsaved
    have hkept := (Config.rule?_of_set hsaved hother).trans hrule
    have htext : Config.ofText? saved.toJson.pretty = some reloaded := by
      rw [loadConfig_of_saved hsave] at hreload
      split at hreload
      · cases hreload
      · rename_i hread
        cases hreload
        exact hread
    exact ⟨saved, hsaved, Config.rule?_of_ofText?_iff hsorted htext hkept⟩
  · intro hsame during checking cart hcheck hpath hcart
    rw [run, run, hcheck]
    dsimp only
    rw [hpath, answer, answer, checkCart_of_rule? hload hreload hrule hsame hcart]

end Directory

private def totalFrom (n : JsonNumber) : Json :=
  .object [("total", .object [("gte", .number n)])]

private def withTotalFrom (n : JsonNumber) (settings : Settings) : Config :=
  ⟨[("m", totalFrom n)], List.pairwise_singleton _ _, settings⟩

private theorem ofText?_withTotalFrom {n m : JsonNumber} (settings : Settings)
    (h : Strict.reading.number n.spelling = some (.number m)) :
    Config.ofText? (withTotalFrom n settings).toJson.pretty = some (withTotalFrom m settings) := by
  have hdepth : (totalFrom n).depth ≤ Config.ruleDepthLimit :=
    Nat.le_of_ble_eq_true rfl
  have hshallow : (withTotalFrom n settings).IsShallow := by
    rw [Config.IsShallow, withTotalFrom]
    simpa only [List.mem_singleton, forall_eq] using hdepth
  have hreread : Config.reread? Config.strictKind (totalFrom n) = some (totalFrom m) := by
    rw [Config.reread?_strict, if_pos hdepth]
    simp only [totalFrom, Document.ofJson, Document.ofMembers, Document.toJson?,
      Document.membersToJson?, StringPiece.text?_ofString, h]
    rfl
  obtain ⟨rules, hrules, _, htext⟩ := Config.ofText?_of_isShallow hshallow
  rw [withTotalFrom, Config.rereadRules?_cons, hreread, Option.bind_some] at hrules
  cases hrules
  exact htext

namespace Directory

private def withFile (text : String) : Directory := ⟨.folder [("c", .file text.toUTF8)], []⟩

private theorem loadConfig_withFile (text : String) :
    (withFile text).loadConfig "c" = match Config.ofText? text with
      | none => .error (.malformedConfig "c")
      | some config => .ok config := by
  have hexists : (withFile text).pathExists "c" = true := rfl
  have hread : (withFile text).readText "c" = .ok text := textOfBytes_toUTF8 text
  exact loadConfig_of_readText hexists hread

private def three : Settings := ⟨none, 3, by decide⟩

private theorem run_withTotalFrom {n m k : JsonNumber}
    (hn : Strict.reading.number n.spelling = some (.number m))
    (hm : Strict.reading.number m.spelling = some (.number k)) :
    ∃ after outcome,
      (withFile (withTotalFrom n .standard).toJson.pretty).run .plain
        (.onConfig "c" (.set "settings.fuzzy_threshold" "3")) = (after, outcome) ∧
      outcome.exitCode = .success ∧
      (withFile (withTotalFrom n .standard).toJson.pretty).loadConfig "c" =
        .ok (withTotalFrom m .standard) ∧
      after.loadConfig "c" = .ok (withTotalFrom k three) := by
  have hload : (withFile (withTotalFrom n .standard).toJson.pretty).loadConfig "c" =
      .ok (withTotalFrom m .standard) := by
    rw [loadConfig_withFile, ofText?_withTotalFrom .standard hn]
  have hset : (withTotalFrom m .standard).set "settings.fuzzy_threshold" "3" =
      .ok (withTotalFrom m three) := rfl
  have hsave : ∀ text config, (withFile text).saveConfig .plain "c" config =
      (((withFile text).saveConfig .plain "c" config).1, none) := fun _ _ => rfl
  obtain ⟨outcome, hrun, hsuccess⟩ :=
    @run_set_of_saved (withFile _) _ .plain (.onConfig "c" (.set _ _)) _ _ _ _ rfl hload hset
      (hsave _ _)
  refine ⟨_, outcome, hrun, hsuccess, hload, ?_⟩
  rw [loadConfig_of_saved (hsave _ _), ofText?_withTotalFrom three hm]

private def five : JsonNumber := .integer 5 (by decide)

/-- An integer in a rule is kept while the threshold is set. -/
theorem rule?_after_set_threshold :
    ∃ after outcome config reloaded,
      (withFile (withTotalFrom five .standard).toJson.pretty).run .plain
        (.onConfig "c" (.set "settings.fuzzy_threshold" "3")) = (after, outcome) ∧
      outcome.exitCode = .success ∧
      (withFile (withTotalFrom five .standard).toJson.pretty).loadConfig "c" = .ok config ∧
      after.loadConfig "c" = .ok reloaded ∧ config.rule? "m" = some (totalFrom five) ∧
      "settings.fuzzy_threshold" ≠ Config.rulePath "m" ∧
      (∃ saved, config.set "settings.fuzzy_threshold" "3" = .ok saved ∧
        (reloaded.rule? "m" = some (totalFrom five) ↔
          ¬ saved.IsShallow ∨ (totalFrom five).allNumbers (Document.keeps Strict.reading) = true)) ∧
      reloaded.rule? "m" = some (totalFrom five) := by
  have hfive : Strict.reading.number five.spelling = some (.number five) :=
    (Document.keeps_iff Strict.reading).mp (Strict.keeps_integer _)
  obtain ⟨after, outcome, hrun, hsuccess, hload, hreload⟩ := run_withTotalFrom hfive hfive
  have hother : "settings.fuzzy_threshold" ≠ Config.rulePath "m" := by decide
  have hiff := @rule?_after_set_iff _ after .plain (.onConfig "c" (.set _ _)) _ _ "m"
    (totalFrom five) outcome _ _ rfl hrun hsuccess hload rfl hother hreload
  exact ⟨after, outcome, _, _, hrun, hsuccess, hload, hreload, rfl, hother, hiff.1, rfl⟩

private def small : FiniteBinary64 := ⟨false, 4158027847206421152, by decide⟩

/-- The greatest number below, as which `1e-30` is read. -/
private def smaller : FiniteBinary64 := ⟨false, 4158027847206421151, by decide⟩

private theorem reading_number {n : WrittenNumber} {m : JsonNumber}
    (h : Strict.number? n = some m) :
    Strict.reading.number n = some (.number m) :=
  congrArg (Option.map Json.number) h

private theorem number_small :
    Strict.reading.number (JsonNumber.binary small).spelling = some (.number (.binary smaller)) := by
  apply reading_number
  decide +kernel

private theorem number_smaller :
    Strict.reading.number (JsonNumber.binary smaller).spelling = some (.number (.binary small)) := by
  apply reading_number
  decide +kernel

/-- The total that a rule asks for moves when the threshold is set. -/
theorem rule_moved_by_threshold :
    ∃ after outcome config reloaded,
      (withFile (withTotalFrom (.binary small) .standard).toJson.pretty).run .plain
        (.onConfig "c" (.set "settings.fuzzy_threshold" "3")) = (after, outcome) ∧
      outcome.exitCode = .success ∧
      (withFile (withTotalFrom (.binary small) .standard).toJson.pretty).loadConfig "c" =
        .ok config ∧
      after.loadConfig "c" = .ok reloaded ∧
      config.rule? "m" = some (totalFrom (.binary smaller)) ∧
      reloaded.rule? "m" = some (totalFrom (.binary small)) ∧
      totalFrom (.binary small) ≠ totalFrom (.binary smaller) := by
  obtain ⟨after, outcome, hrun, hsuccess, hload, hreload⟩ :=
    run_withTotalFrom number_small number_smaller
  refine ⟨after, outcome, _, _, hrun, hsuccess, hload, hreload, rfl, rfl, ?_⟩
  intro h
  have hne : small ≠ smaller := by decide
  simp only [totalFrom, Json.object.injEq, List.cons.injEq, Prod.mk.injEq, Json.number.injEq,
    JsonNumber.binary.injEq, true_and, and_true] at h
  exact hne h

end Directory
end CartCriteria
