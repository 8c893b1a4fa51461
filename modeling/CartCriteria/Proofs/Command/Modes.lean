import CartCriteria.Proofs.Command.Reporting
import CartCriteria.Proofs.Command.Session
import Mathlib.Data.List.Forall2

/-! The flags for the report have no effect on anything else. What a session does to the tree of files
and how its steps exit is the same whatever flags for the report its command lines have. -/
namespace CartCriteria

/-- Two steps that are the same but for how they report. What surrounds them is the same. So are the
arguments, or both command lines are accepted and differ in flags for the report alone. -/
structure Step.SameButReport (s t : Step) : Prop where
  around : s.around = t.around
  arguments : s.arguments = t.arguments ∨
    (∃ invocation, Invocation.ofArguments s.arguments = .ok invocation) ∧
    (∃ invocation, Invocation.ofArguments t.arguments = .ok invocation) ∧
    plainArguments s.arguments = plainArguments t.arguments

namespace Directory

/-- What a step does besides reporting: the tree after it, and the exit code unless the arguments are
at fault. -/
def effect (d : Directory) (s : Step) : Directory × Except UsageFault ExitCode :=
  ((d.step s).1, (d.step s).2.map (·.exitCode))

def effects (d : Directory) : List Step → List (Directory × Except UsageFault ExitCode)
  | [] => []
  | s :: rest => d.effect s :: (d.effect s).1.effects rest

private theorem run_unreporting (d : Directory) (around : Surroundings) (invocation : Invocation) :
    (d.run around invocation.unreporting).1 = (d.run around invocation).1 ∧
    (d.run around invocation.unreporting).2.exitCode = (d.run around invocation).2.exitCode := by
  rw [run, run, Invocation.unreporting]
  dsimp only
  cases invocation.action with
  | inquire inquiry => simp only [Outcome.exitCode_ofResult, and_self]
  | set key value => simp only [Outcome.exitCode_ofResult, and_self]
  | completions shell => exact ⟨rfl, rfl⟩

private theorem effect_plainArguments {s : Step} {invocation : Invocation}
    (h : Invocation.ofArguments s.arguments = .ok invocation) (d : Directory) :
    d.effect ⟨s.around, plainArguments s.arguments⟩ = d.effect s := by
  obtain ⟨htree, hexit⟩ := d.run_unreporting s.around invocation
  rw [effect, effect, step, step, Invocation.ofArguments_plainArguments h, h]
  exact Prod.ext htree (congrArg Except.ok hexit)

private theorem effect_of_sameButReport {s t : Step} (h : s.SameButReport t) (d : Directory) :
    d.effect s = d.effect t := by
  obtain ⟨around, arguments⟩ := s
  obtain ⟨around', arguments'⟩ := t
  obtain ⟨rfl, rfl | ⟨⟨_, hs⟩, ⟨_, ht⟩, hplain⟩⟩ := h
  · rfl
  · rw [← effect_plainArguments hs, hplain]
    exact effect_plainArguments ht d

/-- Sessions whose steps are the same but for how they report do the same, step by step: the trees
that they leave are equal, and so are the exit codes. -/
theorem effects_of_sameButReport {steps others : List Step}
    (h : List.Forall₂ Step.SameButReport steps others) (d : Directory) :
    d.effects steps = d.effects others := by
  induction h generalizing d with
  | nil => rfl
  | cons hsame _ ih => rw [effects, effects, effect_of_sameButReport hsame, ih]

private def quietSteps : List Step :=
  [⟨.plain, ["-vq", "config", "set", "settings.fuzzy_threshold", "3"]⟩,
    ⟨.plain, ["config", "show"]⟩]

private def jsonSteps : List Step :=
  [⟨.plain, ["-v", "config", "--json", "set", "settings.fuzzy_threshold", "3"]⟩,
    ⟨.plain, ["config", "show", "-j"]⟩]

/-- The threshold is set and the configuration shown, quietly and as JSON. -/
theorem effects_quietSteps : List.Forall₂ Step.SameButReport quietSteps jsonSteps ∧
    empty.effects quietSteps = empty.effects jsonSteps := by
  have hset : Step.SameButReport quietSteps[0] jsonSteps[0] :=
    ⟨rfl, .inr ⟨⟨_, rfl⟩, ⟨_, rfl⟩, by decide⟩⟩
  have hshow : Step.SameButReport quietSteps[1] jsonSteps[1] :=
    ⟨rfl, .inr ⟨⟨_, rfl⟩, ⟨_, rfl⟩, by decide⟩⟩
  have hsteps : List.Forall₂ Step.SameButReport quietSteps jsonSteps :=
    .cons hset (.cons hshow .nil)
  exact ⟨hsteps, effects_of_sameButReport hsteps empty⟩

end Directory
end CartCriteria
