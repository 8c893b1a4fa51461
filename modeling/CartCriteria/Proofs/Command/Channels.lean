import CartCriteria.Proofs.Command.Stages
import CartCriteria.Proofs.Json.CompactText

/-! Which of its channels a run writes to. A result and a fault are never mixed up: in JSON mode by
the one line of a response, and otherwise by the standard error. -/
namespace CartCriteria

/-- Every exit code has one of the numbers. -/
theorem ExitCode.toNat_mem (e : ExitCode) : e.toNat ∈ [0, 2, 3, 4, 5, 6] := by
  cases e <;> decide

/-- The number of a fault is not one that a result has. -/
theorem CommandFault.toNat_not_mem (fault : CommandFault) :
    fault.exitCode.toNat ∉ [0, 2] := by
  have hsuccess := fault.exitCode_ne_success
  have hnotEligible := fault.exitCode_ne_notEligible
  generalize fault.exitCode = e at hsuccess hnotEligible
  intro h
  cases e with
  | success => exact hsuccess rfl
  | notEligible => exact hnotEligible rfl
  | badInput | badArguments | badConfig | unknownRule => exact absurd h (by decide)

/-- The members of the response that a run with an exit code gives: either a result or an error, and
the error carries the exit code. -/
structure IsResponse (members : List (String × Json)) (code : Nat) : Prop where
  nodup : (members.map (·.1)).Nodup
  version : Dictionary.find? "jsonrpc" members = some (.string "2.0")
  id : Dictionary.find? "id" members = some .null
  one : (Dictionary.find? "result" members).isSome ≠ (Dictionary.find? "error" members).isSome
  error_iff : (Dictionary.find? "error" members).isSome ↔ code ∉ [0, 2]
  error_code : ∀ failure, Dictionary.find? "error" members = some failure →
    ∃ parts n inRange, failure = .object parts ∧
      Dictionary.find? "code" parts = some (.number (.integer n inRange)) ∧ n = -32000 - code

/-- What an outcome writes to which channel. In JSON mode it is one line, and nothing goes to the
standard error. Otherwise the standard error is for faults alone, and in quiet mode what is no fault
is not told at all. -/
structure Outcome.Orderly (mode : OutputMode) (outcome : Outcome) : Prop where
  line : mode = .json → outcome.errors = "" ∧
    ∃ members, outcome.output = (Json.object members).compact ++ "\n" ∧
      '\n' ∉ (Json.object members).compact.toList ∧ IsResponse members outcome.exitCode.toNat
  errors_iff : mode ≠ .json → (outcome.errors = "" ↔ outcome.exitCode.toNat ∈ [0, 2])
  error : mode ≠ .json → outcome.exitCode.toNat ∉ [0, 2] →
    ∃ rest, outcome.errors = "error: " ++ rest
  silent : mode = .quiet → outcome.exitCode.toNat ∈ [0, 2] → outcome.output = ""

namespace Outcome

variable {mode : OutputMode}

def responseMembers (name : String) (v : Json) : List (String × Json) :=
  [("jsonrpc", .string "2.0"), (name, v), ("id", .null)]

private theorem ofLines_singleton (line : String) : ofLines [line] = line ++ "\n" := by
  simp [ofLines, String.join]

private theorem envelope_eq (name : String) (v : Json) :
    envelope name v = (Json.object (responseMembers name v)).compact ++ "\n" :=
  ofLines_singleton _

private theorem isResponse_result (v : Json) {code : Nat} (hcode : code ∈ [0, 2]) :
    IsResponse (responseMembers "result" v) code where
  nodup := (by decide : ["jsonrpc", "result", "id"].Nodup)
  version := rfl
  id := rfl
  one := Bool.noConfusion
  error_iff := by
    constructor
    · intro h
      cases h
    · intro h
      exact absurd hcode h
  error_code := by
    intro failure h
    cases h

private theorem isResponse_error (fault : CommandFault) :
    IsResponse (responseMembers "error" (faultJson fault)) fault.exitCode.toNat where
  nodup := (by decide : ["jsonrpc", "error", "id"].Nodup)
  version := rfl
  id := rfl
  one := Bool.noConfusion
  error_iff := by
    constructor
    · intro _
      exact fault.toNat_not_mem
    · intro _
      rfl
  error_code := by
    intro failure h
    cases h
    exact ⟨_, _, _, rfl, rfl, rfl⟩

private theorem orderly_ofReport (mode : OutputMode) {report : Report}
    (hcode : report.exitCode.toNat ∈ [0, 2]) : Orderly mode (ofReport mode report) := by
  have hsame : (ofReport mode report).exitCode = report.exitCode := by cases mode <;> rfl
  have herrors : (ofReport mode report).errors = "" := by cases mode <;> rfl
  rw [← hsame] at hcode
  refine ⟨?_, ?_, ?_, ?_⟩
  · intro hjson
    subst hjson
    exact ⟨rfl, _, envelope_eq _ _, Json.newline_not_mem_compact _, isResponse_result _ hcode⟩
  · intro _
    exact iff_of_true herrors hcode
  · intro _ hfault
    exact absurd hcode hfault
  · intro hquiet _
    subst hquiet
    rfl

private theorem errors_ofFault (hmode : mode ≠ .json) (fault : CommandFault) :
    ∃ rest, (ofFault mode fault).errors = "error: " ++ rest := by
  have hlines : ∀ hints : List String, ∃ rest,
      ofLines (("error: " ++ fault.message) :: hints) = "error: " ++ rest := by
    intro hints
    refine ⟨fault.message ++ "\n" ++ ofLines hints, ?_⟩
    simp [ofLines, String.append_assoc]
  cases mode with
  | json => exact absurd rfl hmode
  | text | quiet => exact hlines _

private theorem orderly_ofFault (mode : OutputMode) (fault : CommandFault) :
    Orderly mode (ofFault mode fault) := by
  have hsame : (ofFault mode fault).exitCode = fault.exitCode := by cases mode <;> rfl
  have hcode := fault.toNat_not_mem
  rw [← hsame] at hcode
  refine ⟨?_, ?_, ?_, ?_⟩
  · intro hjson
    subst hjson
    exact ⟨rfl, _, envelope_eq _ _, Json.newline_not_mem_compact _, isResponse_error fault⟩
  · intro hmode
    obtain ⟨rest, herrors⟩ := errors_ofFault hmode fault
    refine iff_of_false ?_ hcode
    rw [herrors]
    simp
  · intro hmode _
    exact errors_ofFault hmode fault
  · intro _ hresult
    exact absurd hresult hcode

end Outcome

/-- An action that a report answers: that a cart is not eligible is said by a check alone. -/
def Report.Answers (report : Report) (action : Action) : Prop :=
  report.exitCode = .success ∨ report.exitCode = .notEligible ∧
    ∃ cart criteria rule, action = .inquire (.check cart criteria rule)

private theorem Report.answers_success {json : Json} {lines : List String} {action : Action} :
    (Report.success json lines).Answers action :=
  .inl rfl

namespace Directory

variable {d : Directory} {around : Surroundings} {invocation : Invocation} {report : Report}
  {configPath : String}

private theorem answers_check {cart : String} {criteria rule : Option String}
    (h : d.checkCart around configPath cart criteria rule = .ok report) :
    report.Answers (.inquire (.check cart criteria rule)) := by
  have hcheck : ∃ v label selected, report = .check v label selected := by
    rw [checkCart] at h
    split at h
    · cases h
    · obtain ⟨⟨label, selected⟩, -, h⟩ := exists_of_bind_eq_ok h
      obtain ⟨v, -, h⟩ := exists_of_bind_eq_ok h
      cases h
      exact ⟨v, label, selected, rfl⟩
  obtain ⟨v, label, selected, rfl⟩ := hcheck
  cases heligible : selected.eligible v with
  | true => exact .inl (by rw [Report.check, heligible]; rfl)
  | false => exact .inr ⟨by rw [Report.check, heligible]; rfl, cart, criteria, rule, rfl⟩

private theorem answers_of_answer {inquiry : Inquiry}
    (h : d.answer around configPath inquiry = .ok report) : report.Answers (.inquire inquiry) := by
  cases inquiry with
  | check cart criteria rule => exact answers_check h
  | resolve cart path =>
    obtain ⟨v, -, h⟩ := exists_of_bind_eq_ok h
    cases h
    exact Report.answers_success
  | listRules =>
    obtain ⟨config, -, h⟩ := exists_of_bind_eq_ok h
    cases h
    exact Report.answers_success
  | showRule name =>
    obtain ⟨config, -, h⟩ := exists_of_bind_eq_ok h
    obtain ⟨criteria, -, h⟩ := exists_of_bind_eq_ok h
    cases h
    exact Report.answers_success
  | showConfig =>
    obtain ⟨config, -, h⟩ := exists_of_bind_eq_ok h
    cases h
    exact Report.answers_success
  | verifyConfig =>
    obtain ⟨problems, -, h⟩ := exists_of_bind_eq_ok h
    split at h
    · cases h
      exact Report.answers_success
    · cases h
  | showConfigPath | showSample =>
    cases h
    exact Report.answers_success

private theorem answers_of_setConfig {key value : String}
    (h : (d.setConfig around configPath key value).2 = .ok report) :
    report.Answers (.set key value) := by
  obtain ⟨rfl, -⟩ := setConfig_cases (Prod.ext rfl h)
  exact Report.answers_success

/-- What a run leaves behind comes from one result, whatever the action is. -/
theorem run_eq_ofResult (haction : ∀ shell, invocation.action ≠ .completions shell) :
    ∃ result, (d.run around invocation).2 = .ofResult (invocation.mode around) result ∧
      ∀ report, result = .ok report → report.Answers invocation.action := by
  cases h : invocation.action with
  | inquire inquiry =>
    rw [run_inquire h]
    exact ⟨_, rfl, fun report hreport => answers_of_answer hreport⟩
  | set key value =>
    rw [run, h]
    exact ⟨_, rfl, fun report hreport => answers_of_setConfig hreport⟩
  | completions shell => exact absurd h (haction shell)

/-- A run exits with one of six codes, and not with that of a cart that is not eligible unless it is
a check. What it writes is orderly in the mode it is in. -/
theorem run_channels {outcome : Outcome} (haction : ∀ shell, invocation.action ≠ .completions shell)
    (hrun : (d.run around invocation).2 = outcome) :
    outcome.exitCode.toNat ∈ [0, 2, 3, 4, 5, 6] ∧
    (outcome.exitCode.toNat = 2 →
      ∃ cart criteria rule, invocation.action = .inquire (.check cart criteria rule)) ∧
    outcome.Orderly (invocation.mode around) := by
  obtain ⟨result, hresult, hanswers⟩ := @run_eq_ofResult d around invocation haction
  subst hrun
  rw [hresult, Outcome.exitCode_ofResult]
  cases result with
  | ok report =>
    rcases hanswers report rfl with hsuccess | ⟨hnotEligible, hcheck⟩
    · have hcode : report.exitCode.toNat = 0 := congrArg ExitCode.toNat hsuccess
      refine ⟨ExitCode.toNat_mem _, ?_, Outcome.orderly_ofReport _ (by simp [hcode])⟩
      intro htwo
      rw [hcode] at htwo
      cases htwo
    · have hcode : report.exitCode.toNat = 2 := congrArg ExitCode.toNat hnotEligible
      exact ⟨ExitCode.toNat_mem _, fun _ => hcheck, Outcome.orderly_ofReport _ (by simp [hcode])⟩
  | error fault =>
    refine ⟨ExitCode.toNat_mem _, ?_, Outcome.orderly_ofFault _ fault⟩
    intro htwo
    exact absurd (by simp [htwo]) fault.toNat_not_mem

private def cartAndCriteria : Directory :=
  ⟨.folder [
    ("f", .file "\x7b\"a\":1\x7d".toUTF8),
    ("t", .file "\x7b\x7d".toUTF8)], []⟩

private def showingBrokenName : Invocation := .onConfig "c" (.inquire (.showRule "a\nb"))

private def checkingQuietly : Invocation :=
  { Invocation.onConfig "c" (.inquire (.check "t" (some "f") none)) with quiet := true }

/-- A rule whose name has two lines is asked for in vain, and a cart is not eligible. -/
theorem run_channels_unknown_not_eligible :
    (cartAndCriteria.run .plain showingBrokenName).2.exitCode.toNat = 6 ∧
    (∃ members, (cartAndCriteria.run .plain showingBrokenName).2.output =
        (Json.object members).compact ++ "\n" ∧
      '\n' ∉ (Json.object members).compact.toList ∧ IsResponse members 6) ∧
    (cartAndCriteria.run .plain checkingQuietly).2.exitCode.toNat = 2 ∧
    (cartAndCriteria.run .plain checkingQuietly).2.errors = "" ∧
    (cartAndCriteria.run .plain checkingQuietly).2.output = "" := by
  have hsix : (cartAndCriteria.run .plain showingBrokenName).2.exitCode.toNat = 6 := by
    decide +kernel
  have htwo : (cartAndCriteria.run .plain checkingQuietly).2.exitCode.toNat = 2 := by
    decide +kernel
  have hshown := @run_channels cartAndCriteria .plain showingBrokenName _
    (fun _ => Action.noConfusion) rfl
  have hchecked := @run_channels cartAndCriteria .plain checkingQuietly _
    (fun _ => Action.noConfusion) rfl
  have hresult : (cartAndCriteria.run .plain checkingQuietly).2.exitCode.toNat ∈ [0, 2] := by
    simp [htwo]
  have hquiet : checkingQuietly.mode .plain = .quiet := rfl
  refine ⟨hsix, ?_, htwo, ?_, hchecked.2.2.silent hquiet hresult⟩
  · obtain ⟨-, members, houtput, hline, hresponse⟩ := hshown.2.2.line rfl
    exact ⟨members, houtput, hline, hsix ▸ hresponse⟩
  · exact (hchecked.2.2.errors_iff (by rw [hquiet]; decide)).mpr hresult

end Directory
end CartCriteria
