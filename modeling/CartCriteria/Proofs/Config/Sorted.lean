import CartCriteria.Command.Run
import CartCriteria.Proofs.Config.Setting
import CartCriteria.Proofs.Json.Sorted

/-! The rules of a configuration that was read are sorted values, and setting a part of it keeps
them so. -/
namespace CartCriteria

namespace Config

def HasSortedRules (config : Config) : Prop :=
  ∀ rule ∈ config.rules, rule.2.Sorted

private theorem forall_of_mapM {α β : Type} {p : β → Prop} {f : α → Option β}
    (hf : ∀ x y, f x = some y → p y) {xs : List α} {ys : List β} (h : xs.mapM f = some ys) :
    ∀ y ∈ ys, p y := by
  induction xs generalizing ys with
  | nil =>
    cases h
    nofun
  | cons x xs ih =>
    rw [List.mapM_cons] at h
    obtain ⟨y, hy, h⟩ := Option.bind_eq_some_iff.mp h
    obtain ⟨rest, hrest, h⟩ := Option.bind_eq_some_iff.mp h
    cases h
    exact List.forall_mem_cons.mpr ⟨hf x y hy, ih hrest⟩

private theorem sorted_of_rules? {kind : DocumentKind} {d : Document} {rules : List (String × Json)}
    (hrule : ∀ d v, kind.rule d = some v → v.Sorted) (h : rules? kind d = some rules) :
    ∀ rule ∈ rules, rule.2.Sorted := by
  unfold rules? at h
  split at h
  · obtain ⟨bindings, hbindings, h⟩ := Option.bind_eq_some_iff.mp h
    cases h
    have hsorted : ∀ rule ∈ bindings, rule.2.Sorted := by
      refine forall_of_mapM (fun member rule hmember => ?_) hbindings
      obtain ⟨_, -, hmember⟩ := Option.bind_eq_some_iff.mp hmember
      obtain ⟨v, hv, hmember⟩ := Option.bind_eq_some_iff.mp hmember
      cases hmember
      exact hrule _ v hv
    exact fun rule hrule => hsorted rule (Dictionary.mem_of_mem_ofList hrule)
  · cases h

private theorem sorted_of_ofDocument? {kind : DocumentKind} {d : Document} {config : Config}
    (hrule : ∀ d v, kind.rule d = some v → v.Sorted) (h : ofDocument? kind d = some config) :
    config.HasSortedRules := by
  unfold ofDocument? at h
  split at h
  · rename_i given settings hfields
    cases given with
    | none =>
      cases settings <;>
      · obtain ⟨_, hnone, h⟩ := Option.bind_eq_some_iff.mp h
        obtain ⟨_, -, h⟩ := Option.bind_eq_some_iff.mp h
        cases hnone
        cases h
        exact fun rule hmem => absurd (Dictionary.mem_of_mem_ofList hmem) List.not_mem_nil
    | some rules =>
      obtain ⟨bindings, hbindings, h⟩ := Option.bind_eq_some_iff.mp h
      have hsorted := sorted_of_rules? hrule hbindings
      cases settings <;>
      · obtain ⟨_, -, h⟩ := Option.bind_eq_some_iff.mp h
        cases h
        exact fun rule hmem => hsorted rule (Dictionary.mem_of_mem_ofList hmem)
  · cases h

private theorem strict_rule_sorted (d : Document) (v : Json) (h : strictKind.rule d = some v) :
    v.Sorted := by
  change (if d.depth ≤ _ then d.toJson? Strict.reading else none) = some v at h
  split at h
  · exact Json.sorted_of_strict h
  · cases h

private theorem hasSortedRules_of_ofText? {text : String} {config : Config}
    (h : ofText? text = some config) : config.HasSortedRules := by
  rw [ofText?] at h
  split at h
  · rename_i read hstrict
    cases h
    obtain ⟨d, -, hd⟩ := Option.bind_eq_some_iff.mp hstrict
    exact sorted_of_ofDocument? strict_rule_sorted hd
  · obtain ⟨d, -, hd⟩ := Option.bind_eq_some_iff.mp h
    exact sorted_of_ofDocument? (fun _ _ => Json.sorted_of_relaxed) hd

/-- A configuration that is loaded has sorted rules. -/
theorem hasSortedRules_of_loadConfig {d : Directory} {path : String} {config : Config}
    (h : d.loadConfig path = .ok config) : config.HasSortedRules := by
  rw [Directory.loadConfig] at h
  split at h
  · split at h
    · cases h
    · split at h
      · cases h
      · rename_i hread
        cases h
        exact hasSortedRules_of_ofText? hread
  · cases h
    nofun

/-- Setting a part keeps the rules sorted. -/
theorem hasSortedRules_of_set {config saved : Config} {key value : String}
    (hsorted : config.HasSortedRules) (h : config.set key value = .ok saved) :
    saved.HasSortedRules := by
  rcases set_cases h with ⟨name, members, -, -, hread, rfl⟩ | ⟨-, rfl⟩ | ⟨-, n, hn, -, rfl⟩
  · intro r hr
    rcases Dictionary.mem_insert hr with rfl | hr
    · exact Json.sorted_of_ofText? hread
    · exact hsorted r hr
  · exact hsorted
  · exact hsorted

end Config
end CartCriteria
