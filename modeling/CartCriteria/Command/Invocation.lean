/-! What a command line asks for. -/
namespace CartCriteria

/-- How results are reported. -/
inductive OutputMode
  | text
  | json
  | quiet
  deriving DecidableEq

/-- The mode that flags ask for: quiet wins over JSON, and JSON over text. Without a flag a terminal
gets text and everything else JSON. -/
def OutputMode.ofFlags (quiet json text terminal : Bool) : OutputMode :=
  if quiet then .quiet
  else if json then .json
  else if text then .text
  else if terminal then .text
  else .json

/-- What can be asked without changing anything. -/
inductive Inquiry
  | check (cart : String) (criteria : Option String) (rule : Option String)
  | resolve (cart : String) (path : String)
  | listRules
  | showRule (name : String)
  | showConfig
  | showConfigPath
  | verifyConfig
  | showSample
  deriving DecidableEq

/-- What is to be done: to answer an inquiry, to set a part of the configuration, or to print a script
that completes command lines. -/
inductive Action
  | inquire (inquiry : Inquiry)
  | set (key : String) (value : String)
  | completions (shell : String)
  deriving DecidableEq

/-- An action with the flags that hold for all actions. -/
structure Invocation where
  configPath : Option String
  quiet : Bool
  json : Bool
  text : Bool
  action : Action
  deriving DecidableEq

/-- Why a command line gives no invocation. The first three are requests for help. -/
inductive UsageFault
  | help
  | version
  | helpForNothing
  | missingCommand
  | unknownCommand
  | unknownArgument
  | missingArgument
  | invalidValue
  | unneededValue
  | conflict
  deriving DecidableEq

end CartCriteria
