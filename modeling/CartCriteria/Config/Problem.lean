import CartCriteria.Config.Basic

/-! What can be wrong with a configuration that was read. -/
namespace CartCriteria

/-- A rule that is no criteria, or a default rule that is not there. -/
inductive ConfigProblem
  | notCriteria (fault : NotCriteria)
  | missingDefault (name : String)
  deriving DecidableEq

namespace ConfigProblem

def message : ConfigProblem → String
  | notCriteria fault => fault.message
  | missingDefault name => "settings.default_rule: rule '" ++ name ++ "' is not defined"

end ConfigProblem

namespace Config

def ruleProblem? (binding : String × Json) : Option ConfigProblem :=
  match Criteria.ofJson binding.2 (rulePath binding.1) with
  | .error fault => some (.notCriteria fault)
  | .ok _ => none

def defaultProblem? (config : Config) : Option ConfigProblem :=
  match config.settings.defaultRule with
  | none => none
  | some name => if (config.rule? name).isNone then some (.missingDefault name) else none

/-- The problems with the rules by name, then that with the default rule. -/
def problems (config : Config) : List ConfigProblem :=
  config.rules.filterMap ruleProblem? ++ config.defaultProblem?.toList

end Config
end CartCriteria
