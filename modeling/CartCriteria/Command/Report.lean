import CartCriteria.Command.Fault
import CartCriteria.Command.Invocation
import CartCriteria.Json.Printer

/-! What an action writes. In JSON mode one line on the standard output tells a result from a fault;
otherwise results are lines of text, and faults go to the standard error. -/
namespace CartCriteria

/-- The result of an action that did not fail, for either mode. -/
structure Report where
  exitCode : ExitCode
  json : Json
  lines : List String

/-- What a run leaves behind besides files. -/
structure Outcome where
  exitCode : ExitCode
  output : String
  errors : String
  deriving DecidableEq

namespace Outcome

def ofLines (lines : List String) : String :=
  String.join (lines.map fun line => line ++ "\n")

def envelope (name : String) (v : Json) : String :=
  ofLines [(Json.object [("jsonrpc", .string "2.0"), (name, v), ("id", .null)]).compact]

/-- The code of a fault: its exit code, counted down from -32000. -/
def codeJson (e : ExitCode) : Json :=
  .number (.integer (-32000 - e.toNat) (by cases e <;> decide))

def faultJson (fault : CommandFault) : Json :=
  let suggestions := fault.suggestions.map Json.string
  .object ([("code", codeJson fault.exitCode), ("message", .string fault.message)]
    ++ if suggestions.isEmpty then [] else [("data", .object [("suggestions", .array suggestions)])])

def ofReport (mode : OutputMode) (report : Report) : Outcome :=
  match mode with
  | .json => ⟨report.exitCode, envelope "result" report.json, ""⟩
  | .text => ⟨report.exitCode, ofLines report.lines, ""⟩
  | .quiet => ⟨report.exitCode, "", ""⟩

def ofFault (mode : OutputMode) (fault : CommandFault) : Outcome :=
  match mode with
  | .json => ⟨fault.exitCode, envelope "error" (faultJson fault), ""⟩
  | _ =>
    let hint :=
      if fault.suggestions.isEmpty then []
      else ["did you mean: " ++ ", ".intercalate fault.suggestions]
    ⟨fault.exitCode, ofLines fault.notice, ofLines (("error: " ++ fault.message) :: hint)⟩

def ofResult (mode : OutputMode) : Except CommandFault Report → Outcome
  | .ok report => ofReport mode report
  | .error fault => ofFault mode fault

end Outcome
end CartCriteria
