import CartCriteria.Proofs.Config.Parts
import CartCriteria.Proofs.Config.RoundTrip
import CartCriteria.Proofs.Config.Threshold
import CartCriteria.Proofs.Json.StrictRelaxed

/-! The threshold that is written in a strict document, and the threshold that is typed. The strict
reading refuses what may not be typed, but then the document is read again as relaxed, where every
number that is not too large is a threshold. -/
namespace CartCriteria

namespace Config

private theorem strictKind_pairs : StringPiece.PairsAreHigh strictKind.reading.pair := by
  rw [strictKind]
  exact StringPiece.strict_pairs

private theorem relaxedKind_pairs : StringPiece.PairsAreHigh relaxedKind.reading.pair := by
  rw [relaxedKind]
  exact StringPiece.relaxed_pairs

variable {text typed : String} {d : Document} {n : WrittenNumber}

def isRelaxedShaped (d : Document) : Bool :=
  d.isLegible && isShaped relaxedKind d

/-- A strict document is read as strict and as relaxed, and the threshold is the first that comes of
it. -/
theorem threshold_of_ofText? (hd : Strict.document? text = some d)
    (hn : writtenThreshold? d = some n) :
    (ofText? text).map (·.settings.threshold) =
      (if isShaped strictKind d then strictKind.threshold n else none).or
        (if isRelaxedShaped d then relaxedKind.threshold n else none) := by
  have hstrict := threshold_of_ofDocument? strictKind_pairs (fun _ _ => strict_threshold_lt) hn
  have hrelaxed := threshold_of_ofDocument? relaxedKind_pairs (fun _ _ => relaxed_threshold_lt) hn
  rw [ofText?, hd, Option.bind_some, Strict.document?_relaxed hd, ← hstrict, isRelaxedShaped]
  cases ofDocument? strictKind d with
  | some config => rfl
  | none =>
    cases d.isLegible with
    | false => rfl
    | true =>
      rw [if_pos rfl, Option.bind_some, Bool.true_and, ← hrelaxed]
      rfl

private theorem threshold_accepted {value : Nat} (hd : Strict.document? text = some d)
    (hn : writtenThreshold? d = some n)
    (hshaped : isShaped strictKind d = true ∨ isRelaxedShaped d = true)
    (hvalue : strictKind.threshold n = some value) :
    (ofText? text).map (·.settings.threshold) =
      some (if isShaped strictKind d then value else truncate64 (.ofNat value)) := by
  rw [threshold_of_ofText? hd hn, hvalue, relaxed_threshold_of_strict hvalue]
  cases hstrict : isShaped strictKind d with
  | true => rfl
  | false =>
    have hrelaxed := hshaped.resolve_left (by rw [hstrict]; decide)
    rw [if_neg Bool.false_ne_true, if_neg Bool.false_ne_true, Option.none_or, if_pos hrelaxed]

private theorem threshold_refused (hd : Strict.document? text = some d)
    (hn : writtenThreshold? d = some n) (hnone : strictKind.threshold n = none) :
    (ofText? text).map (·.settings.threshold) =
      if isRelaxedShaped d then relaxedKind.threshold n else none := by
  rw [threshold_of_ofText? hd hn, hnone, ite_self, Option.none_or]

private theorem accepted_iff {value : Nat} (hd : Strict.document? text = some d)
    (hn : writtenThreshold? d = some n)
    (hshaped : isShaped strictKind d = true ∨ isRelaxedShaped d = true)
    (hvalue : strictKind.threshold n = some value) :
    (ofText? text).map (·.settings.threshold) = some value ↔
      isShaped strictKind d = true ∨ truncate64 (.ofNat value) = value := by
  rw [threshold_accepted hd hn hshaped hvalue]
  cases isShaped strictKind d <;> simp

private theorem refused_iff (hd : Strict.document? text = some d)
    (hn : writtenThreshold? d = some n) (hnone : strictKind.threshold n = none) :
    (ofText? text).map (·.settings.threshold) = none ↔
      isRelaxedShaped d = false ∨ relaxedKind.threshold n = none := by
  rw [threshold_refused hd hn hnone]
  cases isRelaxedShaped d <;> simp

private theorem toOption_set_threshold (config : Config) :
    (config.set "settings.fuzzy_threshold" typed).toOption.map (·.settings.threshold) =
      (Text.natural typed).toOption := by
  have hkey : SettingKey.ofText? "settings.fuzzy_threshold" = some .threshold := rfl
  rw [Config.set, hkey]
  dsimp only
  split
  · rename_i hfault
    exact (congrArg Except.toOption hfault).symm
  · rename_i hvalue
    exact (congrArg Except.toOption hvalue).symm

end Config

namespace Directory

open Config

/-- Whether a file is loaded just when its threshold may be typed, and then with the threshold that
is set. -/
def LoadsAsTyped (dir : Directory) (path typed : String) : Prop :=
  ∀ config : Config,
    (dir.loadConfig path).toOption.map (·.settings.threshold) =
      (config.set "settings.fuzzy_threshold" typed).toOption.map (·.settings.threshold)

variable {dir : Directory} {path : String}

private theorem loadsAsTyped_iff_eq (hexists : dir.pathExists path = true)
    (hread : dir.readText path = .ok text) :
    dir.LoadsAsTyped path typed ↔
      (ofText? text).map (·.settings.threshold) = (Text.natural typed).toOption := by
  have hload : (dir.loadConfig path).toOption = ofText? text := by
    rw [loadConfig_of_readText hexists hread]
    cases ofText? text <;> rfl
  rw [LoadsAsTyped, hload]
  constructor
  · intro h
    rw [h .empty, toOption_set_threshold]
  · intro h config
    rw [h, toOption_set_threshold]

private theorem exists_loaded {value : Nat} (hexists : dir.pathExists path = true)
    (hread : dir.readText path = .ok text)
    (h : (ofText? text).map (·.settings.threshold) = some value) :
    ∃ loaded, dir.loadConfig path = .ok loaded ∧ some value = some loaded.settings.threshold := by
  obtain ⟨loaded, hloaded, rfl⟩ := Option.map_eq_some_iff.mp h
  rw [loadConfig_of_readText hexists hread, hloaded]
  exact ⟨loaded, rfl, rfl⟩

/-- When a file that is a strict document, well shaped apart from its threshold, is loaded as if its
threshold were typed. A threshold that may be typed is lost only when another part of the document
makes it be read as relaxed, and is then rounded to a binary number; one that may not be typed is
loaded all the same if the document is well shaped as a relaxed one and the number is not too large.
What is loaded amiss is the number that a relaxed document makes of it. -/
theorem loadsAsTyped_iff (hexists : dir.pathExists path = true)
    (hread : dir.readText path = .ok text) (hd : Strict.document? text = some d)
    (hn : writtenThreshold? d = some n) (htyped : Strict.scanNumber typed.toList = some (n, []))
    (hshaped : isShaped strictKind d = true ∨ isRelaxedShaped d = true) :
    (dir.LoadsAsTyped path typed ↔
      (∃ value, Text.natural typed = .ok value ∧
        (isShaped strictKind d = true ∨ truncate64 (.ofNat value) = value)) ∨
      (∃ fault, Text.natural typed = .error fault) ∧
        (isRelaxedShaped d = false ∨ relaxedKind.threshold n = none)) ∧
    (¬ dir.LoadsAsTyped path typed →
      ∃ loaded, dir.loadConfig path = .ok loaded ∧
        relaxedKind.threshold n = some loaded.settings.threshold) := by
  have hnatural := strict_threshold_eq htyped
  rw [loadsAsTyped_iff_eq hexists hread, ← hnatural]
  cases htext : Text.natural typed with
  | ok value =>
    have hvalue : strictKind.threshold n = some value := by
      rw [hnatural, htext]
      rfl
    rw [hvalue, accepted_iff hd hn hshaped hvalue]
    refine ⟨⟨fun h => .inl ⟨value, rfl, h⟩, ?_⟩, fun h => ?_⟩
    · rintro (⟨_, hok, h⟩ | ⟨⟨_, hfault⟩, -⟩)
      · cases hok
        exact h
      · cases hfault
    · have hloads := threshold_accepted hd hn hshaped hvalue
      rw [if_neg (mt Or.inl h)] at hloads
      rw [relaxed_threshold_of_strict hvalue]
      exact exists_loaded hexists hread hloads
  | error fault =>
    have hnone : strictKind.threshold n = none := by
      rw [hnatural, htext]
      rfl
    rw [hnone, refused_iff hd hn hnone]
    refine ⟨⟨fun h => .inr ⟨⟨fault, rfl⟩, h⟩, ?_⟩, fun h => ?_⟩
    · rintro (⟨_, hok, -⟩ | ⟨-, h⟩)
      · cases hok
      · exact h
    · obtain ⟨hrelaxed, hthreshold⟩ := not_or.mp h
      obtain ⟨value, hvalue⟩ := Option.ne_none_iff_exists'.mp hthreshold
      have hloads := threshold_refused hd hn hnone
      rw [if_pos (Bool.eq_true_of_not_eq_false hrelaxed), hvalue] at hloads
      rw [hvalue]
      exact exists_loaded hexists hread hloads

private def onlyC (text : String) : Directory := ⟨.folder [("c", .file text.toUTF8)], []⟩

private theorem pathExists_onlyC (text : String) : (onlyC text).pathExists "c" = true :=
  rfl

private theorem readText_onlyC (text : String) : (onlyC text).readText "c" = .ok text :=
  textOfBytes_toUTF8 text

private def writtenThree : WrittenNumber := .decimal .none ⟨['3'], none, none⟩

private def threeText : String :=
  "\x7b\"settings\":\x7b\"fuzzy_threshold\":3\x7d\x7d"

/-- An item too many, so that the document is read as relaxed. -/
private def crowdedText : String :=
  "\x7b\"settings\":[null,3,0]\x7d"

private theorem shape_three :
    (Strict.document? threeText).map (fun d => (writtenThreshold? d, isShaped strictKind d)) =
      some (some writtenThree, true) := by
  decide +kernel

private theorem shape_crowded :
    (Strict.document? crowdedText).map
      (fun d => (writtenThreshold? d, isShaped strictKind d, isRelaxedShaped d)) =
      some (some writtenThree, false, true) := by
  decide +kernel

/-- In a plain document, and in one with other members around it, `3` is loaded as it would be
typed. -/
theorem loadsAsTyped_three :
    Strict.scanNumber "3".toList = some (writtenThree, []) ∧
    (∃ d, (onlyC threeText).pathExists "c" = true ∧
      (onlyC threeText).readText "c" = .ok threeText ∧ Strict.document? threeText = some d ∧
      writtenThreshold? d = some writtenThree ∧ isShaped strictKind d = true ∧
      (onlyC threeText).LoadsAsTyped "c" "3") ∧
    ∃ d, (onlyC crowdedText).pathExists "c" = true ∧
      (onlyC crowdedText).readText "c" = .ok crowdedText ∧
      Strict.document? crowdedText = some d ∧ writtenThreshold? d = some writtenThree ∧
      isShaped strictKind d = false ∧ isRelaxedShaped d = true ∧
      (onlyC crowdedText).LoadsAsTyped "c" "3" := by
  have htyped : Strict.scanNumber "3".toList = some (writtenThree, []) := by decide
  have hthree : Text.natural "3" = .ok 3 := by decide
  refine ⟨htyped, ?_, ?_⟩
  · obtain ⟨d, hd, hparts⟩ := Option.map_eq_some_iff.mp shape_three
    obtain ⟨hn, hshaped⟩ := Prod.mk.inj hparts
    have hiff := loadsAsTyped_iff (pathExists_onlyC _) (readText_onlyC _) hd hn htyped
      (.inl hshaped)
    exact ⟨d, pathExists_onlyC _, readText_onlyC _, hd, hn, hshaped,
      hiff.1.mpr (.inl ⟨3, hthree, .inl hshaped⟩)⟩
  · obtain ⟨d, hd, hparts⟩ := Option.map_eq_some_iff.mp shape_crowded
    obtain ⟨hn, hparts⟩ := Prod.mk.inj hparts
    obtain ⟨hstrict, hrelaxed⟩ := Prod.mk.inj hparts
    have hiff := loadsAsTyped_iff (pathExists_onlyC _) (readText_onlyC _) hd hn htyped
      (.inr hrelaxed)
    exact ⟨d, pathExists_onlyC _, readText_onlyC _, hd, hn, hstrict, hrelaxed,
      hiff.1.mpr (.inl ⟨3, hthree, .inr (truncate64_ofNat (by decide))⟩)⟩

private def writtenHalf : WrittenNumber := .decimal .none ⟨['2'], some ['5'], none⟩

private def halfText : String :=
  "\x7b\"settings\":\x7b\"fuzzy_threshold\":2.5\x7d\x7d"

private theorem shape_half :
    (Strict.document? halfText).map (fun d => (writtenThreshold? d, isShaped strictKind d)) =
      some (some writtenHalf, true) := by
  decide +kernel

private theorem threshold_half : (ofText? halfText).map (·.settings.threshold) = some 2 := by
  decide +kernel

/-- A threshold of two and a half may not be typed, but is loaded as two. -/
theorem loads_half_as_two :
    ∃ d loaded, (onlyC halfText).readText "c" = .ok halfText ∧
      Strict.document? halfText = some d ∧ writtenThreshold? d = some writtenHalf ∧
      Strict.scanNumber "2.5".toList = some (writtenHalf, []) ∧ isShaped strictKind d = true ∧
      (onlyC halfText).loadConfig "c" = .ok loaded ∧ loaded.settings.threshold = 2 ∧
      (∀ config : Config, ∃ fault, config.set "settings.fuzzy_threshold" "2.5" = .error fault) ∧
      ¬ (onlyC halfText).LoadsAsTyped "c" "2.5" := by
  obtain ⟨d, hd, hparts⟩ := Option.map_eq_some_iff.mp shape_half
  obtain ⟨hn, hshaped⟩ := Prod.mk.inj hparts
  have htyped : Strict.scanNumber "2.5".toList = some (writtenHalf, []) := by decide
  obtain ⟨loaded, hload, htwo⟩ :=
    exists_loaded (pathExists_onlyC _) (readText_onlyC _) threshold_half
  have hrefused : (Text.natural "2.5").toOption = none := by decide
  have hset : ∀ config : Config, ∃ fault,
      config.set "settings.fuzzy_threshold" "2.5" = .error fault := by
    intro config
    have hthreshold := @toOption_set_threshold "2.5" config
    cases hset : config.set "settings.fuzzy_threshold" "2.5" with
    | error fault => exact ⟨fault, rfl⟩
    | ok saved =>
      rw [hset, hrefused] at hthreshold
      cases hthreshold
  refine ⟨d, loaded, readText_onlyC _, hd, hn, htyped, hshaped, hload,
    (Option.some.inj htwo).symm, hset, fun h => ?_⟩
  have hsame := h .empty
  rw [toOption_set_threshold, hrefused, hload] at hsame
  cases hsame

end Directory
end CartCriteria
