import CartCriteria.Config.Basic
import CartCriteria.Json.Reader

/-! The setting of one part of a configuration by a key and a typed value. -/
namespace CartCriteria

/-- What a key names: a rule, by everything behind the first dot, or one of the settings. -/
inductive SettingKey
  | rule (name : String)
  | defaultRule
  | threshold
  deriving DecidableEq

/-- Why a part was not set. -/
inductive SettingFault
  | unknownKey (key : String)
  | malformedRule (name : String)
  | notCriteria (fault : NotCriteria)
  | badThreshold (value : String) (fault : Text.NaturalFault)
  deriving DecidableEq

def malformedDocument : String := "<parse error>"

namespace SettingFault

def message : SettingFault → String
  | unknownKey key =>
    "Unknown config key: " ++ key
      ++ ". Valid keys: settings.default_rule, settings.fuzzy_threshold, rules.<name>"
  | malformedRule name =>
    "Invalid criteria JSON for rule '" ++ name ++ "': " ++ malformedDocument
  | notCriteria fault => fault.message
  | badThreshold value fault => "Invalid number: " ++ value ++ ": " ++ fault.message

end SettingFault

namespace SettingKey

/-- What a key names. A rule's name is not empty and may have dots of its own. -/
def ofText? (key : String) : Option SettingKey :=
  match key.toList with
  | 'r' :: 'u' :: 'l' :: 'e' :: 's' :: '.' :: c :: rest => some (rule (String.ofList (c :: rest)))
  | _ =>
    if key = "settings.default_rule" then some defaultRule
    else if key = "settings.fuzzy_threshold" then some threshold
    else none

end SettingKey

namespace Config

/-- The default rule that a typed value names. Three values name none. -/
def typedDefaultRule (value : String) : Option String :=
  if value = "" ∨ value = "none" ∨ value = "null" then none else some value

/-- With one part set to a typed value. A rule must be a document that denotes criteria. -/
def set (config : Config) (key value : String) : Except SettingFault Config :=
  match SettingKey.ofText? key with
  | none => .error (.unknownKey key)
  | some (.rule name) =>
    match Json.ofText? value with
    | none => .error (.malformedRule name)
    | some rule =>
      match Criteria.ofJson rule key with
      | .error fault => .error (.notCriteria fault)
      | .ok _ => .ok (config.withRule name rule)
  | some .defaultRule =>
    .ok { config with settings := { config.settings with defaultRule := typedDefaultRule value } }
  | some .threshold =>
    match h : Text.natural value with
    | .error fault => .error (.badThreshold value fault)
    | .ok n => .ok { config with settings := ⟨config.settings.defaultRule, n, Text.natural_lt h⟩ }

end Config
end CartCriteria
