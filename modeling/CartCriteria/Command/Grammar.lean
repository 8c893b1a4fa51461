import CartCriteria.Command.Invocation

/-! The levels of the command line: the options, the operands and the deeper levels of each. -/
namespace CartCriteria

/-- A level of the command line. -/
inductive Level
  | top
  | check
  | resolve
  | rules
  | rulesList
  | rulesShow
  | config
  | configShow
  | configPath
  | configVerify
  | configDefault
  | configSet
  | completions
  deriving DecidableEq

/-- What can be given on a level, as an option or an operand. -/
inductive Item
  | help
  | version
  | config
  | json
  | noJson
  | quiet
  | verbose
  | cart
  | criteria
  | rule
  | path
  | name
  | key
  | value
  | shell
  deriving DecidableEq

/-- How an option is written. -/
structure OptionForm where
  item : Item
  long : String
  short : Option Char
  takesValue : Bool

namespace Item

/-- Whether a text may be the value of an item. A path to the configuration is not empty, and the
shells are known. -/
def admits : Item → String → Bool
  | config, v => v != ""
  | shell, v => ["bash", "elvish", "fish", "powershell", "zsh"].contains v
  | _, _ => true

end Item

namespace Level

def commonOptions : List OptionForm := [
  ⟨.config, "config", none, true⟩,
  ⟨.json, "json", some 'j', false⟩,
  ⟨.noJson, "no-json", none, false⟩,
  ⟨.quiet, "quiet", some 'q', false⟩,
  ⟨.verbose, "verbose", some 'v', false⟩,
  ⟨.help, "help", some 'h', false⟩]

def options : Level → List OptionForm
  | top => ⟨.version, "version", some 'V', false⟩ :: commonOptions
  | check =>
    ⟨.cart, "cart", some 'c', true⟩ :: ⟨.criteria, "criteria", none, true⟩
      :: ⟨.rule, "rule", some 'r', true⟩ :: commonOptions
  | resolve => ⟨.cart, "cart", some 'c', true⟩ :: ⟨.path, "path", some 'p', true⟩ :: commonOptions
  | _ => commonOptions

def operands : Level → List Item
  | rulesShow => [.name]
  | configSet => [.key, .value]
  | completions => [.shell]
  | _ => []

def deeper : Level → List (String × Level)
  | top =>
    [("check", check), ("resolve", resolve), ("rules", rules), ("config", config),
      ("completions", completions)]
  | rules => [("list", rulesList), ("show", rulesShow)]
  | config =>
    [("show", configShow), ("path", configPath), ("verify", configVerify),
      ("default", configDefault), ("set", configSet)]
  | _ => []

def needsDeeper (level : Level) : Bool :=
  !level.deeper.isEmpty

def required : Level → List Item
  | check => [.cart]
  | resolve => [.cart, .path]
  | level => level.operands

def exclusive : List (Item × Item) :=
  [(.json, .noJson), (.criteria, .rule)]

end Level
end CartCriteria
