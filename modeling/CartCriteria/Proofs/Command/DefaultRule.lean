import CartCriteria.Proofs.Command.Check
import CartCriteria.Proofs.Config.RoundTrip
import CartCriteria.Proofs.Config.Setting

/-! Making a stored rule the default. A rule may have any name, but `none` and `null` are not taken
for names where the default rule is set: setting them succeeds and leaves no default. -/
namespace CartCriteria.Config

variable {config stored : Config} {name text : String}

/-- Setting a default rule always succeeds. -/
theorem set_defaultRule (config : Config) (value : String) :
    config.set "settings.default_rule" value =
      .ok { config with
        settings := { config.settings with defaultRule := typedDefaultRule value } } :=
  rfl

/-- A rule that was set is there, as the object that its text denotes, and its name is not empty. -/
theorem rule?_of_set_rule (h : config.set (rulePath name) text = .ok stored) :
    name ≠ "" ∧ ∃ members, Json.ofText? text = some (.object members) ∧
      stored.rule? name = some (.object members) := by
  rcases set_cases h with ⟨named, members, hnamed, hpath, hread, rfl⟩ | ⟨hkey, -⟩ | ⟨hkey, -⟩
  · cases rulePath_inj.mp hpath
    exact ⟨hnamed, members, hread, Dictionary.find?_insert_self _ _ _⟩
  · exact absurd hkey (rulePath_ne_setting name).1
  · exact absurd hkey (rulePath_ne_setting name).2

/-- An object is selected as the criteria that it denotes. -/
theorem selectRule_of_object {members : List (String × Json)} {criteria : Criteria}
    (hrule : config.rule? name = some (.object members))
    (hcriteria : Criteria.ofJson (.object members) (rulePath name) = .ok criteria) :
    config.selectRule (some name) = .ok ("rule:" ++ name, criteria) := by
  simp only [selectRule, Option.some_or, ruleCriteria, Config.criteria, hrule, hcriteria]
  rfl

/-- The default rule is selected when no rule is named. -/
theorem selectRule_none (hname : config.settings.defaultRule = some name) :
    config.selectRule none = config.selectRule (some name) := by
  rw [selectRule, selectRule, hname]
  rfl

/-- A rule that was stored can be made the default, unless it is called `none` or `null`: then the
criteria selected without a name are those selected by its name, the ones that its text denotes, and
in every directory with that configuration both checks of a cart end alike. With one of those two
names the same call succeeds as well, but nothing is selected afterwards without a name. -/
theorem selectRule_after_set_default (hstored : config.set (rulePath name) text = .ok stored) :
    ∃ members criteria final, Json.ofText? text = some (.object members) ∧
      Criteria.ofJson (.object members) (rulePath name) = .ok criteria ∧
      stored.set "settings.default_rule" name = .ok final ∧
      final.selectRule (some name) = .ok ("rule:" ++ name, criteria) ∧
      (name ≠ "none" → name ≠ "null" →
        final.selectRule none = .ok ("rule:" ++ name, criteria) ∧
        ∀ (d : Directory) (around : Surroundings) (checking : Invocation) (cart : String),
          checking.action = .inquire (.check cart none none) →
          d.loadConfig (around.configPath checking.configPath) = .ok final →
          (d.run around checking).2 =
            (d.run around { checking with action := .inquire (.check cart none (some name)) }).2) ∧
      (name = "none" ∨ name = "null" → final.selectRule none = .error .noCriteria) := by
  obtain ⟨hname, members, hread, hrule⟩ := rule?_of_set_rule hstored
  obtain ⟨criteria, hcriteria, -⟩ := Criteria.ofJson_object members
  have hselected := fun settings => @selectRule_of_object { stored with settings := settings } name
    members criteria hrule (hcriteria _)
  refine ⟨members, criteria, _, hread, hcriteria _, set_defaultRule stored name, hselected _,
    ?_, ?_⟩
  · intro hnone hnull
    have hdefault : typedDefaultRule name = some name := by
      rw [typedDefaultRule, if_neg (by simp [hname, hnone, hnull])]
    refine ⟨(selectRule_none hdefault).trans (hselected _), ?_⟩
    intro d around checking cart haction hload
    have hnamed := @Directory.run_inquire d around
      { checking with action := .inquire (.check cart none (some name)) } _ rfl
    rw [Directory.run_inquire haction, hnamed, Directory.answer, Directory.answer,
      Directory.checkCart_default hload hdefault]
    rfl
  · intro hunset
    have hdefault : typedDefaultRule name = none := by
      rw [typedDefaultRule, if_pos (.inr hunset)]
    rw [selectRule, hdefault]
    rfl

private def blankRule : Json := .object [("a", .string "x")]

/-- A configuration with a rule whose name unsets the default but for the blank at its end. -/
private def blankNull (default : Option String) : Config where
  rules := [("null ", blankRule)]
  rulesSorted := List.pairwise_singleton _ _
  settings := { Settings.standard with defaultRule := default }

private theorem blankRule_sorted : blankRule.Sorted :=
  ⟨List.pairwise_singleton _ _, trivial, trivial⟩

private theorem ofText?_blankNull (default : Option String) :
    ofText? (blankNull default).toJson.pretty = some (blankNull default) :=
  ofText?_of_keeps (List.forall_mem_singleton.mpr blankRule_sorted)
    (List.forall_mem_singleton.mpr rfl)
    (List.forall_mem_singleton.mpr (Nat.le_of_ble_eq_true rfl))

private theorem ofText?_blankRule : Json.ofText? blankRule.pretty = some blankRule := by
  have hread : Strict.ofText? blankRule.pretty = some blankRule :=
    Strict.ofText?_pretty blankRule_sorted (Nat.le_of_ble_eq_true rfl) rfl
  rw [Json.ofText?, hread]

private theorem set_blankRule :
    empty.set (rulePath "null ") blankRule.pretty = .ok (blankNull none) := by
  have hkey : SettingKey.ofText? (rulePath "null ") = some (.rule "null ") := rfl
  rw [Config.set, hkey]
  dsimp only
  rw [ofText?_blankRule]
  rfl

/-- A name that differs from a reserved one by a blank can be made the default. -/
theorem selectRule_after_set_default_blank :
    empty.set (rulePath "null ") blankRule.pretty = .ok (blankNull none) ∧
    (blankNull none).set "settings.default_rule" "null " = .ok (blankNull (some "null ")) ∧
    (blankNull (some "null ")).selectRule none =
      .ok ("rule:null ", ⟨[("a", .literal (.string "x"))]⟩) ∧
    ∃ d : Directory, d.loadConfig "c" = .ok (blankNull (some "null ")) ∧
      (d.run .plain (.onConfig "c" (.inquire (.check "-" none none)))).2 =
        (d.run .plain (.onConfig "c" (.inquire (.check "-" none (some "null "))))).2 := by
  have hsave : Directory.empty.saveConfig .plain "c" (blankNull (some "null ")) =
      ((Directory.empty.saveConfig .plain "c" (blankNull (some "null "))).1, none) := rfl
  have hload := Directory.loadConfig_of_saved hsave
  rw [ofText?_blankNull] at hload
  obtain ⟨members, criteria, final, hread, hcriteria, hset, -, hkept, -⟩ :=
    selectRule_after_set_default set_blankRule
  cases ofText?_blankRule.symm.trans hread
  cases hcriteria
  obtain rfl : blankNull (some "null ") = final := Except.ok.inj hset
  obtain ⟨hselected, hrun⟩ := hkept (by decide) (by decide)
  exact ⟨set_blankRule, hset, hselected, _, hload, hrun _ .plain (.onConfig "c" _) "-" rfl hload⟩

/-- A rule called `none` is stored, but it does not become the default. -/
theorem none_not_default :
    ∃ stored final, empty.set (rulePath "none") "\x7b\x7d" = .ok stored ∧
      stored.set "settings.default_rule" "none" = .ok final ∧
      final.selectRule (some "none") = .ok ("rule:none", .empty) ∧
      final.selectRule none = .error .noCriteria :=
  ⟨_, _, rfl, rfl, rfl, rfl⟩

end CartCriteria.Config
