import CartCriteria.Proofs.Command.Stages
import CartCriteria.Proofs.Config.Reload
import CartCriteria.Proofs.Files.ReadBack

/-! Loading undoes saving. A configuration whose rules have integers alone and nest no deeper than a
strict document allows is read from its own text as it is, and so from the file it was saved in. -/
namespace CartCriteria

def JsonNumber.isInteger : JsonNumber → Bool
  | integer _ _ => true
  | binary _ => false

def JsonNumber.greatest : JsonNumber := .integer 0xFFFFFFFFFFFFFFFF (by decide)

namespace Config

variable {config : Config}

/-- Rules that are all kept are read as they are. -/
theorem rereadRules?_of_keeps (kind : DocumentKind) {rules : List (String × Json)}
    (h : ∀ rule ∈ rules, reread? kind rule.2 = some rule.2) :
    rereadRules? kind rules = some rules := by
  induction rules with
  | nil => rfl
  | cons head rest ih =>
    obtain ⟨hhead, hrest⟩ := List.forall_mem_cons.mp h
    rw [rereadRules?_cons, hhead, Option.bind_some, ih hrest]
    rfl

/-- A shallow configuration whose numbers are kept is read from its own text as it is. -/
theorem ofText?_of_keeps (hsorted : ∀ rule ∈ config.rules, rule.2.Sorted)
    (hkeeps : ∀ rule ∈ config.rules,
      rule.2.allNumbers (Document.keeps Strict.reading) = true)
    (hshallow : config.IsShallow) : ofText? config.toJson.pretty = some config := by
  have hrules := rereadRules?_of_keeps strictKind fun rule hrule =>
    (reread?_strict_eq_iff (hsorted rule hrule) (hshallow rule hrule)).mpr (hkeeps rule hrule)
  obtain ⟨rules, hread, _, htext⟩ := ofText?_of_isShallow hshallow
  rw [hrules] at hread
  cases hread
  exact htext

private theorem keeps_of_integers {rule : Json} (h : rule.allNumbers JsonNumber.isInteger = true) :
    rule.allNumbers (Document.keeps Strict.reading) = true := by
  refine Json.all_imp (fun n hn => ?_) h
  cases n with
  | integer n hrange => exact Strict.keeps_integer hrange
  | binary x => cases hn

end Config

namespace Directory

/-- Loading goes by the text of the file alone. -/
theorem loadConfig_of_readText {d : Directory} {path text : String}
    (hexists : d.pathExists path = true) (hread : d.readText path = .ok text) :
    d.loadConfig path = match Config.ofText? text with
      | none => .error (.malformedConfig path)
      | some config => .ok config := by
  cases htext : Config.ofText? text <;> simp only [loadConfig, if_pos hexists, hread, htext]

/-- What was saved is what the file holds. -/
theorem loadConfig_of_saved {d after : Directory} {around : Surroundings} {path : String}
    {config : Config} (h : d.saveConfig around path config = (after, none)) :
    after.loadConfig path = match Config.ofText? config.toJson.pretty with
      | none => .error (.malformedConfig path)
      | some config => .ok config := by
  rw [saveConfig] at h
  split at h
  · cases h
  · split at h
    · cases h
    · rename_i written hwritten
      cases h
      obtain ⟨hexists, hread⟩ := readText_writeText hwritten
      exact loadConfig_of_readText hexists hread

/-- Saving and loading give back every configuration whose rules have integers alone and nest at
most 125 containers; the members of its objects are sorted, as those of every value are. -/
theorem loadConfig_saveConfig (config : Config)
    (hsorted : ∀ rule ∈ config.rules, rule.2.Sorted)
    (hintegers : ∀ rule ∈ config.rules, rule.2.allNumbers JsonNumber.isInteger = true)
    (hdepth : ∀ rule ∈ config.rules, rule.2.depth ≤ 125) :
    Config.ofText? config.toJson.pretty = some config ∧
      ∀ (d after : Directory) (around : Surroundings) (path : String),
        d.saveConfig around path config = (after, none) → after.loadConfig path = .ok config := by
  have hkeeps := fun rule hrule => Config.keeps_of_integers (hintegers rule hrule)
  have htext := Config.ofText?_of_keeps hsorted hkeeps hdepth
  refine ⟨htext, fun d after around path hsave => ?_⟩
  rw [loadConfig_of_saved hsave, htext]

private def intricate : Config where
  rules := [("é\"\\\n\x01", .object [
    ("/\u2028", .array []),
    ("total", .object [("and", .object [
      ("gte", .number (.integer (-0x8000000000000000) (by decide))),
      ("lt", .number .greatest)])])])]
  rulesSorted := by decide
  settings := ⟨some "é\"\\\n\x01", 0xFFFFFFFFFFFFFFFF, by decide⟩

private theorem intricate_sorted : ∀ rule ∈ intricate.rules, rule.2.Sorted := by
  intro rule hrule
  cases List.mem_singleton.mp hrule
  exact ⟨by decide, trivial, ⟨by decide, ⟨by decide, trivial, trivial, trivial⟩, trivial⟩, trivial⟩

/-- Escapes in the name and the keys, the greatest integer and the least, and both settings. -/
theorem loadConfig_saveConfig_intricate :
    (∀ rule ∈ intricate.rules, rule.2.Sorted) ∧
      (∀ rule ∈ intricate.rules, rule.2.allNumbers JsonNumber.isInteger = true) ∧
      (∀ rule ∈ intricate.rules, rule.2.depth ≤ 125) ∧
      Config.ofText? intricate.toJson.pretty = some intricate ∧
      empty.saveConfig .plain "c" intricate =
        ((empty.saveConfig .plain "c" intricate).1, none) ∧
      (empty.saveConfig .plain "c" intricate).1.loadConfig "c" = .ok intricate := by
  have hintegers : ∀ rule ∈ intricate.rules, rule.2.allNumbers JsonNumber.isInteger = true := by
    decide
  have hdepth : ∀ rule ∈ intricate.rules, rule.2.depth ≤ 125 := by decide
  have hsaved : empty.saveConfig .plain "c" intricate =
      ((empty.saveConfig .plain "c" intricate).1, none) := rfl
  obtain ⟨htext, hload⟩ := loadConfig_saveConfig intricate intricate_sorted hintegers hdepth
  exact ⟨intricate_sorted, hintegers, hdepth, htext, hsaved, hload _ _ _ _ hsaved⟩

end Directory
end CartCriteria
