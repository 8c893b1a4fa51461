import CartCriteria.Command.Grammar

/-! The reading of the arguments of a command line. Faults are found from left to right, with one
delay: the value of an item is judged when the next item on its level starts or the level ends. The
levels below a level are read and judged before the level's own last value and its own rules. -/
namespace CartCriteria

abbrev Given := List (Item × String)

/-- How far the reading of a level has come. -/
structure LevelState where
  given : Given
  /-- The item given last, until it is judged; its value may still be to come. -/
  pending : Option (Item × Option String)
  /-- Whether the next argument may be the value of the pending option. -/
  awaiting : Bool
  /-- Whether options have ended. -/
  escaped : Bool
  operandCount : Nat

namespace LevelState

def initial : LevelState := ⟨[], none, false, false, 0⟩

def record (s : LevelState) (item : Item) (value : String) : Except UsageFault LevelState :=
  if s.given.any fun g => g.1 == item then .error .conflict
  else if item.admits value then .ok { s with given := s.given ++ [(item, value)] }
  else .error .invalidValue

def settle (s : LevelState) : Except UsageFault LevelState :=
  match s.pending with
  | none => .ok s
  | some (_, none) => .error .invalidValue
  | some (item, some value) => { s with pending := none, awaiting := false }.record item value

def await (s : LevelState) (item : Item) : Except UsageFault LevelState := do
  let s ← s.settle
  return { s with pending := some (item, none), awaiting := true }

def attach (s : LevelState) (item : Item) (value : String) : Except UsageFault LevelState := do
  (← s.settle).record item value

def flag (s : LevelState) (item : Item) : Except UsageFault LevelState := do
  let s ← s.settle
  match item with
  | .help => .error .help
  | .version => .error .version
  | item => s.record item ""

def supply (s : LevelState) (value : String) : LevelState :=
  { s with pending := s.pending.map (fun p => (p.1, some value)), awaiting := false }

def long (level : Level) (s : LevelState) (name : String) (value : Option String) :
    Except UsageFault LevelState :=
  match level.options.find? fun o => o.long == name with
  | none => .error .unknownArgument
  | some o =>
    match o.takesValue, value with
    | true, some v => s.attach o.item v
    | true, none => s.await o.item
    | false, some _ => .error .unneededValue
    | false, none => s.flag o.item

/-- With options written as letters behind one dash. The first that takes a value takes the rest for
it, without an equals sign in front. -/
def short (level : Level) (s : LevelState) : List Char → Except UsageFault LevelState
  | [] => .ok s
  | c :: rest =>
    match level.options.find? fun o => o.short == some c with
    | none => .error .unknownArgument
    | some o =>
      if o.takesValue then
        match rest with
        | [] => s.await o.item
        | '=' :: value => s.attach o.item (String.ofList value)
        | value => s.attach o.item (String.ofList value)
      else
        match s.flag o.item with
        | .ok s => short level s rest
        | .error fault => .error fault

def operand (level : Level) (s : LevelState) (arg : String) : Except UsageFault LevelState :=
  match level.operands[s.operandCount]? with
  | some item => do
    let s ← s.settle
    return { s with pending := some (item, some arg), operandCount := s.operandCount + 1 }
  | none =>
    if !level.needsDeeper then .error .unknownArgument
    else if s.escaped && (arg == "help" || level.deeper.any fun l => l.1 == arg) then
      .error .unknownArgument
    else .error .unknownCommand

def hasConflict (s : LevelState) : Bool :=
  Level.exclusive.any fun pair =>
    s.given.any (fun g => g.1 == pair.1) && s.given.any (fun g => g.1 == pair.2)

def finish (level : Level) (s : LevelState) (isLast : Bool) : Except UsageFault Given := do
  let s ← s.settle
  if isLast && level.needsDeeper then
    .error (if s.given.isEmpty then .helpForNothing else .missingCommand)
  else if s.hasConflict then .error .conflict
  else if level.required.any fun item => !s.given.any fun g => g.1 == item then
    .error .missingArgument
  else .ok s.given

end LevelState

/-- What a dashed argument is. -/
inductive ArgumentForm
  | escape
  | long (name : String) (value : Option String)
  | short (letters : List Char)
  | plain

def ArgumentForm.ofText (arg : String) : ArgumentForm :=
  match arg.toList with
  | ['-', '-'] => escape
  | '-' :: '-' :: rest =>
    let name := String.ofList (rest.takeWhile (· ≠ '='))
    match rest.dropWhile (· ≠ '=') with
    | [] => long name none
    | _ :: value => long name (some (String.ofList value))
  | '-' :: c :: rest => short (c :: rest)
  | _ => plain

/-- The outcome of asking for help on the levels named by the words. A level that has deeper ones
has help on help itself, but nothing below that. -/
def helpFault (level : Level) : List String → UsageFault
  | [] => .help
  | word :: rest =>
    if word = "help" ∧ level.needsDeeper then
      if rest.isEmpty then .help else .unknownCommand
    else
      match level.deeper.find? fun l => l.1 == word with
      | some (_, next) => helpFault next rest
      | none => .unknownCommand

def readLevels (level : Level) (s : LevelState) :
    List String → Except UsageFault (List (Level × Given))
  | [] => do
    let given ← s.finish level true
    return [(level, given)]
  | arg :: rest =>
    if s.escaped then do
      readLevels level (← s.operand level arg) rest
    else
      let named :=
        if s.awaiting then none else level.deeper.find? fun l => l.1 == arg
      match named with
      | some (_, next) => do
        let below ← readLevels next .initial rest
        let given ← s.finish level false
        return (level, given) :: below
      | none =>
        if !s.awaiting && level.needsDeeper && arg == "help" then .error (helpFault level rest)
        else
          match ArgumentForm.ofText arg with
          | .escape => readLevels level { s with escaped := true } rest
          | .long name value => do
            readLevels level (← s.long level name value) rest
          | .short letters => do
            readLevels level (← s.short level letters) rest
          | .plain =>
            if s.awaiting then readLevels level (s.supply arg) rest
            else do
              readLevels level (← s.operand level arg) rest

def Given.value? (given : Given) (item : Item) : Option String :=
  (given.find? fun g => g.1 == item).map (·.2)

namespace Invocation

def actionOf (level : Level) (given : Given) : Option Action :=
  match level with
  | .check => do
    let cart ← given.value? .cart
    return .inquire (.check cart (given.value? .criteria) (given.value? .rule))
  | .resolve => do
    return .inquire (.resolve (← given.value? .cart) (← given.value? .path))
  | .rulesList => some (.inquire .listRules)
  | .rulesShow => (given.value? .name).map fun name => .inquire (.showRule name)
  | .configShow => some (.inquire .showConfig)
  | .configPath => some (.inquire .showConfigPath)
  | .configVerify => some (.inquire .verifyConfig)
  | .configDefault => some (.inquire .showSample)
  | .configSet => do
    return .set (← given.value? .key) (← given.value? .value)
  | .completions => (given.value? .shell).map .completions
  | .top | .rules | .config => none

/-- The invocation that the levels of a command line make. Of an item for all actions the innermost
counts, and a flag holds wherever it is given. -/
def ofLevels (levels : List (Level × Given)) : Except UsageFault Invocation :=
  let inward := levels.reverse
  let innermost := fun item => inward.findSome? fun l => l.2.value? item
  match inward with
  | [] => .error .missingCommand
  | (level, given) :: _ =>
    match actionOf level given with
    | none => .error .missingArgument
    | some action =>
      .ok ⟨innermost .config, (innermost .quiet).isSome, (innermost .json).isSome,
        (innermost .noJson).isSome, action⟩

def ofArguments (args : List String) : Except UsageFault Invocation :=
  match readLevels .top .initial args with
  | .ok levels => ofLevels levels
  | .error fault => .error fault

end Invocation
end CartCriteria
