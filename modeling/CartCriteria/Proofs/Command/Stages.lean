import CartCriteria.Command.Run

/-! The stages that commands have in common. Of each stage all that can come is listed once: what it
gives, or the exit code of its fault. -/
namespace CartCriteria

/-- Where two stages succeed, each of them does. -/
theorem exists_of_bind_eq_ok {ε α β : Type} {x : Except ε α} {next : α → Except ε β} {b : β}
    (h : x >>= next = .ok b) : ∃ a, x = .ok a ∧ next a = .ok b := by
  cases x with
  | error e => cases h
  | ok a => exact ⟨a, rfl, h⟩

/-- Two stages succeed together exactly if each does. -/
theorem bind_eq_ok_iff {ε α β : Type} {x : Except ε α} {next : α → Except ε β} {b : β} :
    x >>= next = .ok b ↔ ∃ a, x = .ok a ∧ next a = .ok b := by
  refine ⟨exists_of_bind_eq_ok, ?_⟩
  rintro ⟨a, rfl, h⟩
  exact h

namespace CommandFault

/-- No fault exits with success. -/
theorem exitCode_ne_success (fault : CommandFault) : fault.exitCode ≠ .success := by
  intro h
  cases fault <;> cases h

/-- The verdict that a cart is not eligible is no fault. -/
theorem exitCode_ne_notEligible (fault : CommandFault) : fault.exitCode ≠ .notEligible := by
  intro h
  cases fault <;> cases h

end CommandFault

def Surroundings.plain : Surroundings := ⟨none, "home", false, .empty, fun _ => none⟩

def Invocation.onConfig (path : String) (action : Action) : Invocation :=
  ⟨some path, false, false, false, action⟩

def Invocation.mode (invocation : Invocation) (around : Surroundings) : OutputMode :=
  .ofFlags invocation.quiet invocation.json invocation.text around.terminal

namespace Outcome

/-- The exit code does not depend on the mode of the output. -/
theorem exitCode_ofResult (mode : OutputMode) (result : Except CommandFault Report) :
    (ofResult mode result).exitCode =
      match result with
      | .ok report => report.exitCode
      | .error fault => fault.exitCode := by
  cases result <;> cases mode <;> rfl

end Outcome

namespace Directory

variable {d : Directory} {around : Surroundings} {invocation : Invocation}

/-- An inquiry leaves the tree of files as it is. -/
theorem run_inquire {inquiry : Inquiry} (haction : invocation.action = .inquire inquiry) :
    d.run around invocation = (d, .ofResult (invocation.mode around)
      (d.answer around (around.configPath invocation.configPath) inquiry)) := by
  rw [run, haction]
  rfl

def document? (d : Directory) (around : Surroundings) (source : String) : Option Json :=
  match d.sourceText around (.ofText source) with
  | .ok text => Json.ofText? text
  | .error _ => none

/-- A document is read, or its absence is bad input. -/
theorem readDocument_cases (d : Directory) (around : Surroundings) (role : DocumentRole)
    (source : String) :
    (∃ v, d.document? around source = some v ∧
      d.readDocument around role (.ofText source) = .ok v) ∨
    (d.document? around source = none ∧ ∃ fault,
      d.readDocument around role (.ofText source) = .error fault ∧ fault.exitCode = .badInput) := by
  rw [document?, readDocument]
  cases d.sourceText around (.ofText source) with
  | error fault => exact .inr ⟨rfl, _, rfl, rfl⟩
  | ok text =>
    dsimp only
    cases Json.ofText? text with
    | none => exact .inr ⟨rfl, _, rfl, rfl⟩
    | some v => exact .inl ⟨v, rfl, rfl⟩

/-- A configuration that cannot be loaded is a bad one. -/
theorem exitCode_of_loadConfig {path : String} {fault : CommandFault}
    (h : d.loadConfig path = .error fault) : fault.exitCode = .badConfig := by
  rw [loadConfig] at h
  split at h
  · split at h
    · cases h
      rfl
    · split at h <;> cases h
      rfl
  · cases h

/-- A part is not set and the tree is as it was, or the configuration was loaded and the part set in
it; saving it then decides. -/
theorem setConfig_outcomes {after : Directory} {path key value : String}
    {result : Except CommandFault Report}
    (h : d.setConfig around path key value = (after, result)) :
    (after = d ∧ ∃ fault, result = .error fault) ∨
    ∃ config saved, d.loadConfig path = .ok config ∧ config.set key value = .ok saved ∧
      ((∃ fault, d.saveConfig around path saved = (after, some fault) ∧
          result = .error (.notSaved fault)) ∨
        d.saveConfig around path saved = (after, none) ∧ result = .ok (.setting key value)) := by
  rw [setConfig] at h
  split at h
  · cases h
    exact .inl ⟨rfl, _, rfl⟩
  · rename_i config hload
    split at h
    · cases h
      exact .inl ⟨rfl, _, rfl⟩
    · rename_i saved hset
      refine .inr ⟨config, saved, hload, hset, ?_⟩
      split at h
      · rename_i written fault hsave
        cases h
        exact .inl ⟨fault, hsave, rfl⟩
      · rename_i written hsave
        cases h
        exact .inr ⟨hsave, rfl⟩

/-- A part that was set was loaded, set and saved. -/
theorem setConfig_cases {after : Directory} {path key value : String} {report : Report}
    (h : d.setConfig around path key value = (after, .ok report)) :
    report = .setting key value ∧
    ∃ config saved, d.loadConfig path = .ok config ∧ config.set key value = .ok saved ∧
      d.saveConfig around path saved = (after, none) := by
  rcases setConfig_outcomes h with ⟨-, fault, hfault⟩ |
    ⟨config, saved, hload, hset, ⟨fault, -, hfault⟩ | ⟨hsave, hreport⟩⟩
  · cases hfault
  · cases hfault
  · cases hreport
    exact ⟨rfl, config, saved, hload, hset, hsave⟩

end Directory

namespace Criteria

/-- An object denotes criteria wherever it stands, and a check goes by them. -/
theorem ofJson_object (members : List (String × Json)) :
    ∃ criteria : Criteria, (∀ path, ofJson (.object members) path = .ok criteria) ∧
      ∀ cart, check cart (.object members) = .ok (criteria.eligible cart) :=
  ⟨_, fun _ => rfl, fun _ => rfl⟩

/-- A value that is no object denotes no criteria. -/
theorem ofJson_of_members? {v : Json} (h : v.members? = none) (path : String) :
    ofJson v path = .error ⟨v.kindName, path⟩ := by
  cases v with
  | object members => cases h
  | null | bool | number | string | array => rfl

end Criteria

/-- Only an object has members. -/
theorem Json.eq_object_of_members? {v : Json} {members : List (String × Json)}
    (h : v.members? = some members) : v = .object members := by
  cases v with
  | object => exact congrArg Json.object (Option.some.inj h)
  | null | bool | number | string | array => cases h

namespace Config

/-- What a name has to offer: no rule, a rule that is no object, or criteria. -/
theorem ruleCriteria_cases (config : Config) (name : String) :
    (config.rule? name = none ∧ ∃ fault,
      config.ruleCriteria name = .error fault ∧ fault.exitCode = .unknownRule) ∨
    (∃ raw, config.rule? name = some raw ∧ raw.members? = none ∧ ∃ fault,
      config.ruleCriteria name = .error fault ∧ fault.exitCode = .badConfig) ∨
    (∃ members criteria, config.rule? name = some (.object members) ∧
      config.ruleCriteria name = .ok criteria ∧
      ∀ cart, Criteria.check cart (.object members) = .ok (criteria.eligible cart)) := by
  rw [ruleCriteria, Config.criteria]
  cases hrule : config.rule? name with
  | none => exact .inl ⟨rfl, _, rfl, rfl⟩
  | some raw =>
    dsimp only
    cases hmembers : raw.members? with
    | none =>
      rw [Criteria.ofJson_of_members? hmembers]
      exact .inr (.inl ⟨raw, rfl, hmembers, _, rfl, rfl⟩)
    | some members =>
      rw [Json.eq_object_of_members? hmembers]
      obtain ⟨criteria, hcriteria, hcheck⟩ := Criteria.ofJson_object members
      rw [hcriteria]
      exact .inr (.inr ⟨members, criteria, rfl, rfl, hcheck⟩)

end Config
end CartCriteria
