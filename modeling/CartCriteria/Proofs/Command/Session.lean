import CartCriteria.Command.Arguments
import CartCriteria.Proofs.Command.SetConfig
import CartCriteria.Proofs.Files.Untouched

/-! Sessions, in which command lines are run one after the other on one tree of files. A step changes
the file of the configuration, if it sets a part of it with success, and no other file. A step that
fails may leave new folders behind, and what the system refuses may change from step to step. -/
namespace CartCriteria

/-- A step of a session: the arguments of a command line and what surrounds it. -/
structure Step where
  around : Surroundings
  arguments : List String

namespace Directory

def step (d : Directory) (s : Step) : Directory × Except UsageFault Outcome :=
  match Invocation.ofArguments s.arguments with
  | .ok invocation =>
    let (after, outcome) := d.run s.around invocation
    (after, .ok outcome)
  | .error fault => (d, .error fault)

def after (d : Directory) : List Step → Directory
  | [] => d
  | s :: rest => (d.step s).1.after rest

/-- Whether a step sets a part of the configuration and exits with success. -/
def SetsConfig (d : Directory) (s : Step) : Prop :=
  ∃ invocation key value outcome, Invocation.ofArguments s.arguments = .ok invocation ∧
    invocation.action = .set key value ∧ (d.step s).2 = .ok outcome ∧ outcome.exitCode = .success

/-- A step writes a configuration to a place: the one that was loaded from the selected path, or the
empty one where nothing was, with the part set that the step names. The path is the one among the
arguments, else that in the variable, else one in the home folder, and it leads to the place. -/
structure Writes (d : Directory) (s : Step) (place : List String) (saved : Config) : Prop where
  sets : ∃ invocation key value path config, Invocation.ofArguments s.arguments = .ok invocation ∧
    invocation.action = .set key value ∧
    path = (invocation.configPath.or s.around.configVariable).getD
      (joinPath (joinPath s.around.home ".eligibility") "config.json") ∧
    d.loadConfig path = .ok config ∧ (d.pathExists path = false → config = .empty) ∧
    config.set key value = .ok saved ∧ (d.step s).1.locate (.ofText path) = .ok place
  content : (d.step s).1.content? place = some saved.toJson.pretty.toUTF8
  others : ∀ names, names ≠ place → (d.step s).1.content? names = d.content? names

variable {d after : Directory} {around : Surroundings} {s : Step} {path key value : String}
  {config : Config}

private theorem content?_saveConfig {fault? : Option SaveFault}
    (h : d.saveConfig around path config = (after, fault?)) :
    (fault? = none ∧ ∃ place, after.locate (.ofText path) = .ok place ∧
      after.content? place = some config.toJson.pretty.toUTF8 ∧
      ∀ names, names ≠ place → after.content? names = d.content? names) ∨
    (fault?.isSome = true ∧ ∀ names, after.content? names = d.content? names) := by
  rw [saveConfig] at h
  have hfolders := d.content?_makeFolders around.refused (PathText.parents path)
  rw [← makeParents] at hfolders
  split at h
  · rename_i ready fault hready
    rw [hready] at hfolders
    cases h
    exact .inr ⟨rfl, hfolders⟩
  · rename_i ready hready
    rw [hready] at hfolders
    split at h
    · cases h
      exact .inr ⟨rfl, hfolders⟩
    · rename_i written hwritten
      cases h
      obtain ⟨place, hlocate, hcontent, hothers⟩ := content?_writeText hwritten
      exact .inl ⟨rfl, place, hlocate, hcontent,
        fun names hnames => (hothers names hnames).trans (hfolders names)⟩

private theorem content?_setConfig_error {fault : CommandFault}
    (h : d.setConfig around path key value = (after, .error fault)) (names : List String) :
    after.content? names = d.content? names := by
  rcases setConfig_outcomes h with ⟨rfl, -⟩ | ⟨_, _, -, -, ⟨_, hsave, -⟩ | ⟨-, hreport⟩⟩
  · rfl
  · rcases content?_saveConfig hsave with ⟨hnone, -⟩ | ⟨-, hkept⟩
    · cases hnone
    · exact hkept names
  · cases hreport

private theorem configPath_eq (around : Surroundings) (given : Option String) :
    around.configPath given = (given.or around.configVariable).getD
      (joinPath (joinPath around.home ".eligibility") "config.json") := by
  obtain ⟨configVariable, _, _, _, _⟩ := around
  cases given <;> cases configVariable <;> rfl

private theorem loadConfig_of_not_pathExists (h : d.pathExists path = false) :
    d.loadConfig path = .ok .empty := by
  rw [loadConfig, h]
  rfl

private theorem step_eq {invocation : Invocation}
    (h : Invocation.ofArguments s.arguments = .ok invocation) :
    d.step s = ((d.run s.around invocation).1, .ok (d.run s.around invocation).2) := by
  rw [step, h]

/-- A step that sets a part of the configuration with success writes it. -/
theorem writes_of_setsConfig (h : d.SetsConfig s) : ∃ place saved, d.Writes s place saved := by
  obtain ⟨invocation, key, value, outcome, haccepted, haction, houtcome, hsuccess⟩ := h
  have hstep := @step_eq d s invocation haccepted
  rw [hstep] at houtcome
  cases houtcome
  obtain ⟨config, saved, hload, hset, hsave⟩ := run_set_cases haction rfl hsuccess
  rcases content?_saveConfig hsave with ⟨-, place, hlocate, hcontent, hothers⟩ | ⟨hfailed, -⟩
  · refine ⟨place, saved, ⟨⟨invocation, key, value, _, config, haccepted, haction,
      configPath_eq s.around invocation.configPath, hload, ?_, hset, ?_⟩, ?_, ?_⟩⟩
    · intro hnothing
      rw [loadConfig_of_not_pathExists hnothing] at hload
      cases hload
      rfl
    · rw [hstep]
      exact hlocate
    · rw [hstep]
      exact hcontent
    · rw [hstep]
      exact hothers
  · cases hfailed

/-- Any other step leaves all files alone. -/
theorem content?_step_of_not_setsConfig (h : ¬ d.SetsConfig s) (names : List String) :
    (d.step s).1.content? names = d.content? names := by
  cases haccepted : Invocation.ofArguments s.arguments with
  | error fault => rw [step, haccepted]
  | ok invocation =>
    have hstep := @step_eq d s invocation haccepted
    cases haction : invocation.action with
    | inquire inquiry => rw [hstep, run_inquire haction]
    | completions shell => rw [hstep, run, haction]
    | set key value =>
      cases hset : d.setConfig s.around (s.around.configPath invocation.configPath) key value with
      | mk after result =>
        have hrun : d.run s.around invocation =
            (after, .ofResult (invocation.mode s.around) result) := by
          rw [run, haction]
          dsimp only
          rw [hset]
          rfl
        rw [hstep, hrun]
        cases result with
        | error fault => exact content?_setConfig_error hset names
        | ok report =>
          refine absurd ⟨invocation, key, value, _, haccepted, haction, congrArg Prod.snd hstep, ?_⟩ h
          rw [hrun, Outcome.exitCode_ofResult, (setConfig_cases hset).1]
          rfl

/-- After a session a file is as it was, or as the last step left it that wrote it. The induction is
on the steps that follow, since of two steps that write a file the later one counts. -/
theorem content?_after (d : Directory) (steps : List Step) (names : List String) :
    (d.after steps).content? names = d.content? names ∨
    ∃ before s rest saved, steps = before ++ s :: rest ∧ (d.after before).SetsConfig s ∧
      (d.after before).Writes s names saved ∧
      (d.after steps).content? names = some saved.toJson.pretty.toUTF8 := by
  induction steps generalizing d with
  | nil => exact .inl rfl
  | cons s rest ih =>
    rw [after]
    rcases ih (d.step s).1 with hkept | ⟨before, t, later, saved, rfl, hsets, hwrites, hcontent⟩
    · by_cases hsets : d.SetsConfig s
      · obtain ⟨place, saved, hwrites⟩ := writes_of_setsConfig hsets
        by_cases hplace : names = place
        · subst hplace
          exact .inr ⟨[], s, rest, saved, rfl, hsets, hwrites, hkept.trans hwrites.content⟩
        · exact .inl (hkept.trans (hwrites.others names hplace))
      · exact .inl (hkept.trans (content?_step_of_not_setsConfig hsets names))
    · exact .inr ⟨s :: before, t, later, saved, rfl, hsets, hwrites, hcontent⟩

/-- In a session a step that sets a part of the configuration with success writes one file, that of
the configuration, and every other step leaves all files alone, those included that fail to set a
part: for a document or a value that is not read, for a folder that is not made, or because the
system refuses to write. So a file is in the end as it was or as the last such step wrote it. -/
theorem session_writes (d : Directory) (steps : List Step) :
    (∀ before s rest, steps = before ++ s :: rest →
      ((d.after before).SetsConfig s →
        ∃ place saved, (d.after before).Writes s place saved) ∧
      (¬ (d.after before).SetsConfig s → ∀ names,
        ((d.after before).step s).1.content? names = (d.after before).content? names)) ∧
    ∀ names, (d.after steps).content? names = d.content? names ∨
      ∃ before s rest saved, steps = before ++ s :: rest ∧ (d.after before).SetsConfig s ∧
        (d.after before).Writes s names saved ∧
        (d.after steps).content? names = some saved.toJson.pretty.toUTF8 := by
  refine ⟨?_, d.content?_after steps⟩
  intro before s rest _
  exact ⟨writes_of_setsConfig, content?_step_of_not_setsConfig⟩

private def oneFile : Directory := ⟨.folder [("f", .file .empty)], []⟩

private def settingAt (path : String) : Step :=
  ⟨.plain, ["--config", path, "config", "set", "settings.fuzzy_threshold", "3"]⟩

private def refusedAt (path : String) : Step :=
  ⟨{ Surroundings.plain with refused := fun _ => some .readOnly }, (settingAt path).arguments⟩

private theorem exitCode_of_setsConfig (h : d.SetsConfig s) :
    (d.step s).2.toOption.map Outcome.exitCode = some .success := by
  obtain ⟨_, _, _, outcome, -, -, houtcome, hsuccess⟩ := h
  rw [houtcome, ← hsuccess]
  rfl

/-- The first step makes a folder before it fails, at which the second one fails. The third is refused,
and the fourth writes into that folder. -/
theorem session_writes_threshold :
    let failing := [settingAt "new/../f/x/c", settingAt "new", refusedAt "new/c"]
    ¬ oneFile.SetsConfig (settingAt "new/../f/x/c") ∧
    (oneFile.after [settingAt "new/../f/x/c"]).isFolder ["new"] = true ∧
    ¬ (oneFile.after [settingAt "new/../f/x/c"]).SetsConfig (settingAt "new") ∧
    ¬ (oneFile.after [settingAt "new/../f/x/c", settingAt "new"]).SetsConfig (refusedAt "new/c") ∧
    (∀ names, (oneFile.after failing).content? names = oneFile.content? names) ∧
    (oneFile.after failing).SetsConfig (settingAt "new/c") ∧
    ∃ place saved, (oneFile.after failing).Writes (settingAt "new/c") place saved := by
  intro failing
  have hfirst : ¬ oneFile.SetsConfig (settingAt "new/../f/x/c") :=
    fun h => absurd (exitCode_of_setsConfig h) (by decide +kernel)
  have hsecond : ¬ (oneFile.after [settingAt "new/../f/x/c"]).SetsConfig (settingAt "new") :=
    fun h => absurd (exitCode_of_setsConfig h) (by decide +kernel)
  have hthird : ¬ (oneFile.after [settingAt "new/../f/x/c", settingAt "new"]).SetsConfig
      (refusedAt "new/c") :=
    fun h => absurd (exitCode_of_setsConfig h) (by decide +kernel)
  have hfourth : (oneFile.after failing).SetsConfig (settingAt "new/c") :=
    ⟨_, _, _, _, rfl, rfl, rfl, by decide +kernel⟩
  obtain ⟨hsteps, -⟩ := session_writes oneFile (failing ++ [settingAt "new/c"])
  refine ⟨hfirst, by decide +kernel, hsecond, hthird, ?_, hfourth,
    (hsteps failing _ _ rfl).1 hfourth⟩
  intro names
  calc (oneFile.after failing).content? names
    _ = (oneFile.after [settingAt "new/../f/x/c", settingAt "new"]).content? names :=
      (hsteps [_, _] _ _ rfl).2 hthird names
    _ = (oneFile.after [settingAt "new/../f/x/c"]).content? names :=
      (hsteps [_] _ _ rfl).2 hsecond names
    _ = oneFile.content? names := (hsteps [] _ _ rfl).2 hfirst names

end Directory
end CartCriteria
