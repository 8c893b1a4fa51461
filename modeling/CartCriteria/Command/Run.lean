import CartCriteria.Command.Report
import CartCriteria.Config.Example
import CartCriteria.Config.Reader
import CartCriteria.Config.Suggestion

/-! The running of an invocation on a tree of files. Only the setting of a part of the configuration
changes the tree. -/
namespace CartCriteria

/-- What surrounds a run besides files. -/
structure Surroundings where
  /-- The path to the configuration that is in force when none is given. -/
  configVariable : Option String
  /-- The home folder. -/
  home : String
  /-- Whether the standard output is a terminal. -/
  terminal : Bool
  /-- The bytes of the standard input. -/
  input : ByteArray
  /-- The fault with which the system refuses to write at a place, if it does. Reading is never
  refused, and what is not refused is written as a whole. -/
  refused : List String → Option OsFault := fun _ => none

def joinPath (folder inner : String) : String :=
  if folder.toList.getLast? = some '/' then folder ++ inner else folder ++ "/" ++ inner

namespace Surroundings

/-- The path to the configuration: the given one, else the one in force, else one in the home
folder. -/
def configPath (around : Surroundings) (given : Option String) : String :=
  match given, around.configVariable with
  | some path, _ => path
  | none, some path => path
  | none, none => joinPath (joinPath around.home ".eligibility") "config.json"

end Surroundings

namespace Directory

def sourceText (d : Directory) (around : Surroundings) : Source → Except ReadFault String
  | .input => textOfBytes around.input
  | .file path => d.readText path

def readDocument (d : Directory) (around : Surroundings) (role : DocumentRole) (source : Source) :
    Except CommandFault Json :=
  match d.sourceText around source with
  | .error fault => .error (.unreadable role source fault)
  | .ok text =>
    match Json.ofText? text with
    | none => .error (.malformed role)
    | some v => .ok v

/-- The configuration at a path. Where nothing is, the configuration is empty. -/
def loadConfig (d : Directory) (path : String) : Except CommandFault Config :=
  if d.pathExists path then
    match d.readText path with
    | .error fault => .error (.unreadableConfig path fault)
    | .ok text =>
      match Config.ofText? text with
      | none => .error (.malformedConfig path)
      | some config => .ok config
  else .ok .empty

/-- With a configuration saved at a path. The folders that were made stay when another one is not made
or the file is not written. -/
def saveConfig (d : Directory) (around : Surroundings) (path : String) (config : Config) :
    Directory × Option SaveFault :=
  match d.makeParents around.refused path with
  | (ready, some fault) => (ready, some (.folders fault))
  | (ready, none) =>
    match ready.writeText around.refused path config.toJson.pretty with
    | .error fault => (ready, some (.write path fault))
    | .ok written => (written, none)

def verifyConfig (d : Directory) (path : String) : Except CommandFault (List ConfigProblem) :=
  if d.pathExists path then
    match d.readText path with
    | .error fault => .error (.unreadableToVerify path fault)
    | .ok text =>
      match Config.ofText? text with
      | none => .error .malformedToVerify
      | some config => .ok config.problems
  else .error (.noConfigToVerify path)

end Directory

namespace Config

def ruleCriteria (config : Config) (name : String) : Except CommandFault Criteria :=
  match config.criteria name with
  | .error fault => .error (.ruleNotCriteria fault)
  | .ok none => .error (.unknownRule name (config.similarNames name))
  | .ok (some criteria) => .ok criteria

def selectRule (config : Config) (rule : Option String) : Except CommandFault (String × Criteria) :=
  match rule.or config.settings.defaultRule with
  | none => .error .noCriteria
  | some name => (config.ruleCriteria name).map fun criteria => ("rule:" ++ name, criteria)

end Config

namespace Report

def success (json : Json) (lines : List String) : Report :=
  ⟨.success, json, lines⟩

def check (cart : Json) (label : String) (criteria : Criteria) : Report :=
  let eligible := criteria.eligible cart
  ⟨if eligible then .success else .notEligible,
    .object [("eligible", .bool eligible), ("source", .string label),
      ("criteria", .string criteria.display)],
    [(if eligible then "eligible" else "not eligible") ++ " (" ++ label ++ ")"]⟩

def resolution (path : String) (r : Resolution) : Report :=
  success
    (.object [("path", .string path), ("found", .bool !r.isMissing), ("value", r.toJson)])
    [if r.isMissing then path ++ ": not found" else r.toJson.compact]

def countJson (n : Nat) : Json :=
  match JsonNumber.ofInt? n with
  | some n => .number n
  | none => .null

def ruleLine (config : Config) (binding : String × Json) : Json × String :=
  let (name, rule) := binding
  let count := (rule.members?.getD []).length
  let isDefault := config.settings.defaultRule == some name
  (.object [("entries", countJson count), ("is_default", .bool isDefault), ("name", .string name)],
    name ++ (if isDefault then " (default)" else "") ++ "  [" ++ toString count ++ " entries]")

def ruleList (config : Config) : Report :=
  let rules := config.rules.map (ruleLine config)
  success (.object [("rules", .array (rules.map (·.1)))])
    (if rules.isEmpty then ["No rules configured"] else rules.map (·.2))

def rule (name : String) (raw : Json) (criteria : Criteria) : Report :=
  success
    (.object [("name", .string name), ("criteria", raw), ("summary", .string criteria.display)])
    [name ++ ": " ++ criteria.display, raw.pretty]

def config (config : Config) : Report :=
  success config.toJson [config.toJson.pretty]

def configPath (path : String) : Report :=
  success (.object [("path", .string path)]) [path]

def verified (path : String) : Report :=
  success (.object [("path", .string path), ("valid", .bool true)])
    ["✓ Configuration is valid: " ++ path]

def setting (key value : String) : Report :=
  success (.object [("key", .string key), ("value", .string value)])
    ["Set " ++ key ++ " = " ++ value]

end Report

namespace Directory

/-- The criteria to check against, with their label. Those of a document win over those of a rule,
and then the configuration is not looked at. -/
def selectCriteria (d : Directory) (around : Surroundings) (configPath : String)
    (criteria rule : Option String) : Except CommandFault (String × Criteria) :=
  match criteria with
  | some text => do
    let source := Source.ofText text
    let v ← d.readDocument around .criteria source
    match Criteria.ofJson v "" with
    | .error fault => .error (.notCriteria fault)
    | .ok criteria => .ok (source.label, criteria)
  | none => do
    let config ← d.loadConfig configPath
    config.selectRule rule

def checkCart (d : Directory) (around : Surroundings) (configPath : String)
    (cart : String) (criteria rule : Option String) : Except CommandFault Report :=
  if Source.ofText cart = .input ∧ criteria.map Source.ofText = some .input then
    .error .inputTwice
  else do
    let (label, criteria) ← d.selectCriteria around configPath criteria rule
    let cart ← d.readDocument around .cart (.ofText cart)
    return .check cart label criteria

def answer (d : Directory) (around : Surroundings) (configPath : String) :
    Inquiry → Except CommandFault Report
  | .check cart criteria rule => d.checkCart around configPath cart criteria rule
  | .resolve cart path => do
    let cart ← d.readDocument around .cart (.ofText cart)
    return .resolution path (.ofPath cart path)
  | .listRules => do
    return .ruleList (← d.loadConfig configPath)
  | .showRule name => do
    let config ← d.loadConfig configPath
    let criteria ← config.ruleCriteria name
    return .rule name ((config.rule? name).getD .null) criteria
  | .showConfig => do
    return .config (← d.loadConfig configPath)
  | .showConfigPath => .ok (.configPath configPath)
  | .verifyConfig => do
    let problems ← d.verifyConfig configPath
    if problems.isEmpty then return .verified configPath
    else .error (.invalidConfig configPath problems)
  | .showSample => .ok (.config .sample)

def setConfig (d : Directory) (around : Surroundings) (configPath key value : String) :
    Directory × Except CommandFault Report :=
  match d.loadConfig configPath with
  | .error fault => (d, .error fault)
  | .ok config =>
    match config.set key value with
    | .error fault => (d, .error (.notSet fault))
    | .ok config =>
      match d.saveConfig around configPath config with
      | (after, some fault) => (after, .error (.notSaved fault))
      | (after, none) => (after, .ok (.setting key value))

/-- The tree and the outcome after an invocation. The text of a completion script is not made here,
so the printing of one leaves no output. -/
def run (d : Directory) (around : Surroundings) (invocation : Invocation) : Directory × Outcome :=
  let mode :=
    OutputMode.ofFlags invocation.quiet invocation.json invocation.text around.terminal
  let configPath := around.configPath invocation.configPath
  match invocation.action with
  | .inquire inquiry => (d, .ofResult mode (d.answer around configPath inquiry))
  | .set key value =>
    let (after, result) := d.setConfig around configPath key value
    (after, .ofResult mode result)
  | .completions _ => (d, ⟨.success, "", ""⟩)

end Directory
end CartCriteria
