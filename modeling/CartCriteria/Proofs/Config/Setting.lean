import CartCriteria.Config.Setting
import CartCriteria.Proofs.Text.Natural

/-! What the setting of a part can do. The key decides what the value is read as, and nothing but the
part that the key names is changed. -/
namespace CartCriteria

namespace SettingKey

/-- A key that names nothing: no rule with a name, and neither setting. -/
def IsUnknown (key : String) : Prop :=
  (∀ name, name ≠ "" → key ≠ Config.rulePath name) ∧ key ≠ "settings.default_rule" ∧
    key ≠ "settings.fuzzy_threshold"

private theorem ofText?_rulePath {name : String} (hname : name ≠ "") :
    ofText? (Config.rulePath name) = some (.rule name) := by
  have hkey : (Config.rulePath name).toList = "rules.".toList ++ name.toList :=
    String.toList_append
  obtain ⟨c, rest, hrest⟩ : ∃ c rest, name.toList = c :: rest := by
    cases hchars : name.toList with
    | nil => exact absurd (String.toList_eq_nil_iff.mp hchars) hname
    | cons c rest => exact ⟨c, rest, rfl⟩
  rw [ofText?, hkey, hrest]
  change some (rule (String.ofList (c :: rest))) = _
  rw [← hrest, String.ofList_toList]

/-- What a key can name. -/
theorem ofText?_cases (key : String) :
    (∃ name, name ≠ "" ∧ key = Config.rulePath name ∧ ofText? key = some (.rule name)) ∨
    (key = "settings.default_rule" ∧ ofText? key = some .defaultRule) ∨
    (key = "settings.fuzzy_threshold" ∧ ofText? key = some .threshold) ∨
    (IsUnknown key ∧ ofText? key = none) := by
  by_cases hrule : ∃ name, name ≠ "" ∧ key = Config.rulePath name
  · obtain ⟨name, hname, rfl⟩ := hrule
    exact .inl ⟨name, hname, rfl, ofText?_rulePath hname⟩
  by_cases hdefault : key = "settings.default_rule"
  · subst hdefault
    exact .inr (.inl ⟨rfl, rfl⟩)
  by_cases hthreshold : key = "settings.fuzzy_threshold"
  · subst hthreshold
    exact .inr (.inr (.inl ⟨rfl, rfl⟩))
  refine .inr (.inr (.inr ⟨⟨?_, hdefault, hthreshold⟩, ?_⟩))
  · intro name hname hkey
    exact hrule ⟨name, hname, hkey⟩
  · rw [ofText?.eq_def]
    split
    · rename_i c rest hkey
      refine absurd ⟨String.ofList (c :: rest), ?_, ?_⟩ hrule
      · simp
      · apply String.ext
        rw [hkey, Config.rulePath, String.toList_append, String.toList_ofList, String.toList_ofList]
        rfl
    · rw [if_neg hdefault, if_neg hthreshold]

end SettingKey

namespace Config

variable {config saved : Config} {key value name : String}

/-- Under a key that names nothing, nothing is set. -/
theorem set_of_isUnknown (config : Config) (hkey : SettingKey.IsUnknown key) (value : String) :
    config.set key value = .error (.unknownKey key) := by
  rcases SettingKey.ofText?_cases key with
    ⟨name, hname, hpath, -⟩ | ⟨hdefault, -⟩ | ⟨hthreshold, -⟩ | ⟨-, hnone⟩
  · exact absurd hpath (hkey.1 name hname)
  · exact absurd hdefault hkey.2.1
  · exact absurd hthreshold hkey.2.2
  · rw [Config.set, hnone]

/-- What was set, and to what: a rule to an object, or one of the settings. -/
theorem set_cases (h : config.set key value = .ok saved) :
    (∃ name members, name ≠ "" ∧ key = rulePath name ∧
      Json.ofText? value = some (.object members) ∧
      saved = config.withRule name (.object members)) ∨
    (key = "settings.default_rule" ∧ saved =
      { config with settings := { config.settings with defaultRule := typedDefaultRule value } }) ∨
    (key = "settings.fuzzy_threshold" ∧ ∃ n hn, Text.natural value = .ok n ∧
      saved = { config with settings := ⟨config.settings.defaultRule, n, hn⟩ }) := by
  rcases SettingKey.ofText?_cases key with
    ⟨name, hname, hpath, hkey⟩ | ⟨hdefault, hkey⟩ | ⟨hthreshold, hkey⟩ | ⟨hunknown, -⟩
  · rw [Config.set, hkey] at h
    dsimp only at h
    cases hread : Json.ofText? value with
    | none =>
      rw [hread] at h
      cases h
    | some rule =>
      rw [hread] at h
      cases rule with
      | object members =>
        cases h
        exact .inl ⟨name, members, hname, hpath, rfl, rfl⟩
      | null | bool | number | string | array => cases h
  · rw [Config.set, hkey] at h
    cases h
    exact .inr (.inl ⟨hdefault, rfl⟩)
  · rw [Config.set, hkey] at h
    dsimp only at h
    split at h
    · cases h
    · rename_i n hn
      cases h
      exact .inr (.inr ⟨hthreshold, n, _, hn, rfl⟩)
  · rw [set_of_isUnknown config hunknown] at h
    cases h

/-- Whether a value can be set under a key: an object as a rule that has a name, anything as the
default rule, and a number of at most 64 bits as the threshold. -/
def IsSettable (key value : String) : Prop :=
  (∃ name members, name ≠ "" ∧ key = rulePath name ∧
    Json.ofText? value = some (.object members)) ∨
  key = "settings.default_rule" ∨
  key = "settings.fuzzy_threshold" ∧ ∃ n, Text.Spells value n ∧ n < UInt64.size

private theorem exists_set_rule (config : Config) {members : List (String × Json)}
    (hname : name ≠ "") (hread : Json.ofText? value = some (.object members)) :
    ∃ saved, config.set (rulePath name) value = .ok saved := by
  rw [Config.set, SettingKey.ofText?_rulePath hname]
  dsimp only
  rw [hread]
  exact ⟨_, rfl⟩

private theorem exists_set_threshold (config : Config) {n : Nat}
    (hread : Text.natural value = .ok n) :
    ∃ saved, config.set "settings.fuzzy_threshold" value = .ok saved := by
  have hkey : SettingKey.ofText? "settings.fuzzy_threshold" = some .threshold := rfl
  rw [Config.set, hkey]
  dsimp only
  split
  · rename_i fault hfault
    rw [hread] at hfault
    cases hfault
  · exact ⟨_, rfl⟩

/-- Which calls succeed does not depend on the configuration. -/
theorem exists_set_iff (config : Config) (key value : String) :
    (∃ saved, config.set key value = .ok saved) ↔ IsSettable key value := by
  constructor
  · rintro ⟨saved, h⟩
    rcases set_cases h with
      ⟨name, members, hname, hkey, hread, -⟩ | ⟨hkey, -⟩ | ⟨hkey, n, -, hread, -⟩
    · exact .inl ⟨name, members, hname, hkey, hread⟩
    · exact .inr (.inl hkey)
    · exact .inr (.inr ⟨hkey, n, Text.natural_eq_ok_iff.mp hread⟩)
  · rintro (⟨name, members, hname, rfl, hread⟩ | rfl | ⟨rfl, n, hspells⟩)
    · exact exists_set_rule config hname hread
    · exact ⟨_, rfl⟩
    · exact exists_set_threshold config (Text.natural_eq_ok_iff.mpr hspells)

/-- Rules of different names stand in different places. -/
theorem rulePath_inj {a b : String} : rulePath a = rulePath b ↔ a = b := by
  constructor
  · intro h
    have hchars := congrArg String.toList h
    rw [rulePath, rulePath, String.toList_append, String.toList_append] at hchars
    exact String.ext (List.append_cancel_left hchars)
  · exact congrArg rulePath

/-- No rule stands where a setting does, whatever it is called. -/
theorem rulePath_ne_setting (name : String) :
    rulePath name ≠ "settings.default_rule" ∧ rulePath name ≠ "settings.fuzzy_threshold" := by
  have hhead : (rulePath name).toList.head? = some 'r' := by
    rw [rulePath, String.toList_append]
    rfl
  constructor <;>
  · intro h
    rw [h] at hhead
    cases hhead

/-- A rule that was set is an object. -/
theorem ofText?_of_set_rule (h : config.set (rulePath name) value = .ok saved) :
    ∃ members, Json.ofText? value = some (.object members) := by
  rcases set_cases h with ⟨_, members, -, -, hread, -⟩ | ⟨hkey, -⟩ | ⟨hkey, -⟩
  · exact ⟨members, hread⟩
  · exact absurd hkey (rulePath_ne_setting name).1
  · exact absurd hkey (rulePath_ne_setting name).2

/-- Setting a rule leaves every other rule alone, and setting anything else all of them. -/
theorem rule?_set (name : String) (h : config.set key value = .ok saved) :
    saved.rule? name = if key = rulePath name then Json.ofText? value else config.rule? name := by
  rcases set_cases h with ⟨named, members, -, rfl, hread, rfl⟩ | ⟨rfl, rfl⟩ | ⟨rfl, n, hn, -, rfl⟩
  · simp only [rulePath_inj]
    split
    · rename_i hsame
      rw [hsame, hread]
      exact Dictionary.find?_insert_self _ _ _
    · rename_i hother
      exact Dictionary.find?_insert_of_ne _ _ (Ne.symm hother)
  · rw [if_neg (rulePath_ne_setting name).1.symm]
    rfl
  · rw [if_neg (rulePath_ne_setting name).2.symm]
    rfl

/-- The default rule is changed by its own key alone. -/
theorem defaultRule_set (h : config.set key value = .ok saved) :
    saved.settings.defaultRule =
      if key = "settings.default_rule" then typedDefaultRule value
      else config.settings.defaultRule := by
  rcases set_cases h with ⟨named, _, -, rfl, -, rfl⟩ | ⟨rfl, rfl⟩ | ⟨rfl, n, hn, -, rfl⟩
  · rw [if_neg (rulePath_ne_setting named).1]
    rfl
  · rfl
  · rfl

/-- So is the threshold. -/
theorem threshold_set (h : config.set key value = .ok saved) :
    (Except.ok saved.settings.threshold : Except Text.NaturalFault Nat) =
      if key = "settings.fuzzy_threshold" then Text.natural value
      else .ok config.settings.threshold := by
  rcases set_cases h with ⟨named, _, -, rfl, -, rfl⟩ | ⟨rfl, rfl⟩ | ⟨rfl, n, hn, hread, rfl⟩
  · rw [if_neg (rulePath_ne_setting named).2]
    rfl
  · rfl
  · exact hread.symm

end Config
end CartCriteria
