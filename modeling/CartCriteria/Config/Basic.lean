import CartCriteria.Criteria.OfJson

/-! The configuration: named rules, which are criteria as they were written, and two settings. Nothing
here says that a rule is an object or that the default rule exists. -/
namespace CartCriteria

/-- The settings: the rule that is used when none is asked for, and the edit distance up to which
a rule's name is suggested for a mistyped one. -/
structure Settings where
  defaultRule : Option String
  threshold : Nat
  thresholdFits : threshold < UInt64.size
  deriving DecidableEq

/-- The rules, sorted by name, and the settings. -/
structure Config where
  rules : List (String × Json)
  rulesSorted : Dictionary.Sorted rules
  settings : Settings

def Settings.standardThreshold : Nat := 2

def Settings.standard : Settings :=
  ⟨none, standardThreshold, by decide⟩

namespace Config

def empty : Config :=
  ⟨[], .nil, .standard⟩

def rule? (config : Config) (name : String) : Option Json :=
  Dictionary.find? name config.rules

def withRule (config : Config) (name : String) (rule : Json) : Config :=
  ⟨Dictionary.insert name rule config.rules, Dictionary.sorted_insert _ _ config.rulesSorted,
    config.settings⟩

/-- Where the rule with the given name stands in the document of the configuration. -/
def rulePath (name : String) : String :=
  "rules." ++ name

def criteria (config : Config) (name : String) : Except NotCriteria (Option Criteria) :=
  match config.rule? name with
  | none => .ok none
  | some rule => (Criteria.ofJson rule (rulePath name)).map some

/-- The threshold as a number; it fits by the settings' own promise. -/
def thresholdJson (settings : Settings) : Json :=
  .number (.integer settings.threshold (by
    have := settings.thresholdFits
    simp only [UInt64.size] at this
    omega))

/-- The settings as a value; an unset default rule is left out. -/
def settingsJson (settings : Settings) : Json :=
  let threshold := ("fuzzy_threshold", thresholdJson settings)
  .object (match settings.defaultRule with
    | none => [threshold]
    | some name => [("default_rule", .string name), threshold])

def toJson (config : Config) : Json :=
  .object [("rules", .object config.rules), ("settings", settingsJson config.settings)]

end Config
end CartCriteria
