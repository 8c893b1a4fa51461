import CartCriteria.Config.Problem
import CartCriteria.Config.Setting
import CartCriteria.Files.Access

/-! The ways in which an action fails, with their exit codes and wordings. -/
namespace CartCriteria

/-- The exit codes of actions. -/
inductive ExitCode
  | success
  | notEligible
  | badInput
  | badArguments
  | badConfig
  | unknownRule
  deriving DecidableEq

def ExitCode.toNat : ExitCode → Nat
  | success => 0
  | notEligible => 2
  | badInput => 3
  | badArguments => 4
  | badConfig => 5
  | unknownRule => 6

/-- What a document is read for. -/
inductive DocumentRole
  | cart
  | criteria
  deriving DecidableEq

def DocumentRole.noun : DocumentRole → String
  | cart => "cart"
  | criteria => "criteria"

/-- Where a document comes from. -/
inductive Source
  | input
  | file (path : String)
  deriving DecidableEq

namespace Source

def ofText (s : String) : Source :=
  if s = "-" then input else file s

def label : Source → String
  | input => "stdin"
  | file path => path

end Source

/-- Why a configuration was not saved. -/
inductive SaveFault
  | folders (fault : OsFault)
  | write (path : String) (fault : OsFault)
  deriving DecidableEq

def SaveFault.message : SaveFault → String
  | folders fault => fault.message
  | write path fault => "Failed to write config file: " ++ path ++ ": " ++ fault.message

/-- Why an action failed. -/
inductive CommandFault
  | inputTwice
  | unreadable (role : DocumentRole) (source : Source) (fault : ReadFault)
  | malformed (role : DocumentRole)
  | notCriteria (fault : NotCriteria)
  | unreadableConfig (path : String) (fault : ReadFault)
  | malformedConfig (path : String)
  | noCriteria
  | ruleNotCriteria (fault : NotCriteria)
  | unknownRule (name : String) (similar : List String)
  | noConfigToVerify (path : String)
  | unreadableToVerify (path : String) (fault : ReadFault)
  | malformedToVerify
  | invalidConfig (path : String) (problems : List ConfigProblem)
  | notSet (fault : SettingFault)
  | notSaved (fault : SaveFault)
  deriving DecidableEq

namespace CommandFault

def exitCode : CommandFault → ExitCode
  | inputTwice | noCriteria | notSet _ => .badArguments
  | unreadable .. | malformed _ | notCriteria _ => .badInput
  | unreadableConfig .. | malformedConfig _ | ruleNotCriteria _ | noConfigToVerify _
  | unreadableToVerify .. | malformedToVerify | invalidConfig .. | notSaved _ => .badConfig
  | unknownRule .. => .unknownRule

def message : CommandFault → String
  | inputTwice => "--cart and --criteria cannot both read from stdin"
  | unreadable role .input fault =>
    "failed to read " ++ role.noun ++ " from stdin: " ++ fault.message
  | unreadable role (.file path) fault =>
    "failed to read " ++ role.noun ++ " file " ++ path ++ ": " ++ fault.message
  | malformed role => "invalid " ++ role.noun ++ " document: " ++ malformedDocument
  | notCriteria fault => fault.message
  | unreadableConfig path fault => "Failed to read config file: " ++ path ++ ": " ++ fault.message
  | malformedConfig path => "Failed to parse config file: " ++ path ++ ": " ++ malformedDocument
  | noCriteria =>
    "no criteria given: pass --criteria or --rule, or set settings.default_rule"
  | ruleNotCriteria fault => fault.message
  | unknownRule name _ => "rule '" ++ name ++ "' is not defined"
  | noConfigToVerify path => "config file not found: " ++ path
  | unreadableToVerify path fault =>
    "failed to read config file: " ++ path ++ ": " ++ fault.message
  | malformedToVerify => "invalid JSON: " ++ malformedDocument
  | invalidConfig _ problems =>
    "configuration validation failed: " ++ "; ".intercalate (problems.map ConfigProblem.message)
  | notSet fault => fault.message
  | notSaved fault => fault.message

def suggestions : CommandFault → List String
  | unknownRule _ similar => similar
  | _ => []

def notice : CommandFault → List String
  | invalidConfig path problems =>
    ("✗ Configuration has " ++ toString problems.length ++ " error(s): " ++ path) :: ""
      :: problems.map fun p => "  - " ++ p.message
  | _ => []

end CommandFault
end CartCriteria
