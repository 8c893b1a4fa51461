import CartCriteria.Config.Reader
import CartCriteria.Proofs.Json.PrettyRelaxed
import CartCriteria.Proofs.Json.PrettyStrict
import CartCriteria.Proofs.Json.StrictNumber

/-! The reading of a configuration from its own text. Whether the text is read and what becomes of a
rule is decided rule by rule, first as in a strict document and then as in a relaxed one. -/
namespace CartCriteria.Config

open Document

def reread? (kind : DocumentKind) (rule : Json) : Option Json :=
  kind.rule (.ofJson rule)

def rereadRules? (kind : DocumentKind) (rules : List (String × Json)) :
    Option (List (String × Json)) :=
  rules.mapM fun (name, rule) => (reread? kind rule).map (name, ·)

private theorem threshold_inRange (settings : Settings) :
    -0x8000000000000000 ≤ (settings.threshold : Int) ∧
      (settings.threshold : Int) < 0x10000000000000000 := by
  have hfits := settings.thresholdFits
  simp only [UInt64.size] at hfits
  omega

def thresholdNumber (settings : Settings) : JsonNumber :=
  .integer settings.threshold (threshold_inRange settings)

variable (kind : DocumentKind)

private theorem mapM_text? (rules : List (String × Json)) :
    ((ofMembers rules).mapM fun (key, d) => do
      let name ← StringPiece.text? kind.reading.pair key
      let rule ← kind.rule d
      return (name, rule)) = rereadRules? kind rules := by
  rw [ofMembers_eq_map, List.mapM_map, rereadRules?]
  congr 1
  funext (name, rule)
  dsimp only [Function.comp]
  rw [StringPiece.text?_ofString, reread?]
  cases kind.rule (ofJson rule) <;> rfl

private theorem rules?_ofMembers (rules : List (String × Json)) :
    rules? kind (.object (ofMembers rules)) =
      (rereadRules? kind rules).map Dictionary.ofList := by
  rw [rules?, mapM_text?]
  cases rereadRules? kind rules <;> rfl

theorem rereadRules?_cons (name : String) (rule : Json) (rest : List (String × Json)) :
    rereadRules? kind ((name, rule) :: rest) =
      (reread? kind rule).bind fun v => (rereadRules? kind rest).map ((name, v) :: ·) := by
  rw [rereadRules?, List.mapM_cons, ← rereadRules?]
  dsimp only
  cases reread? kind rule <;> cases rereadRules? kind rest <;> rfl

/-- The rules are read when each of them is. -/
theorem rereadRules?_isSome_iff (rules : List (String × Json)) :
    (rereadRules? kind rules).isSome = true ↔
      ∀ rule ∈ rules, (reread? kind rule.2).isSome = true := by
  induction rules with
  | nil => exact ⟨fun _ _ hrule => absurd hrule List.not_mem_nil, fun _ => rfl⟩
  | cons head rest ih =>
    rw [rereadRules?_cons, List.forall_mem_cons, ← ih]
    cases reread? kind head.2 <;> cases rereadRules? kind rest <;> simp

variable {kind}

/-- A rule is what it is read as, and keeps its name. -/
theorem find?_of_rereadRules? {rules values : List (String × Json)} (name : String)
    (h : rereadRules? kind rules = some values) :
    Dictionary.find? name values = (Dictionary.find? name rules).bind (reread? kind) := by
  induction rules generalizing values with
  | nil =>
    cases h
    rfl
  | cons head rest ih =>
    obtain ⟨key, rule⟩ := head
    rw [rereadRules?_cons] at h
    obtain ⟨v, hv, h⟩ := Option.bind_eq_some_iff.mp h
    obtain ⟨vs, hvs, h⟩ := Option.map_eq_some_iff.mp h
    subst h
    rw [Dictionary.find?, Dictionary.find?]
    split
    · exact hv.symm
    · exact ih hvs

private theorem keys_of_rereadRules? {rules values : List (String × Json)}
    (h : rereadRules? kind rules = some values) : values.map (·.1) = rules.map (·.1) := by
  induction rules generalizing values with
  | nil =>
    cases h
    rfl
  | cons head rest ih =>
    rw [rereadRules?_cons] at h
    obtain ⟨v, -, h⟩ := Option.bind_eq_some_iff.mp h
    obtain ⟨vs, hvs, h⟩ := Option.map_eq_some_iff.mp h
    subst h
    rw [List.map_cons, List.map_cons, ih hvs]

/-- Rules that are read in sorted order are a dictionary as they are. -/
theorem ofList_of_rereadRules? {rules values : List (String × Json)}
    (hsorted : Dictionary.Sorted rules) (h : rereadRules? kind rules = some values) :
    Dictionary.ofList values = values :=
  Dictionary.ofList_of_sorted
    ((Dictionary.sorted_iff_of_keys (keys_of_rereadRules? h)).mpr hsorted)

variable (kind)

private theorem fieldsOf?_two {first second : String} (hne : first ≠ second) (a b : Document) :
    fieldsOf? kind [first, second]
      (.object [(StringPiece.ofString first, a), (StringPiece.ofString second, b)]) =
        some [some a, some b] := by
  simp [fieldsOf?, StringPiece.text?_ofString, hne, Ne.symm hne]

private theorem fieldsOf?_second {first second : String} (hne : first ≠ second) (b : Document) :
    fieldsOf? kind [first, second] (.object [(StringPiece.ofString second, b)]) =
      some [none, some b] := by
  simp [fieldsOf?, StringPiece.text?_ofString, Ne.symm hne]

/-- The settings are read back but for the threshold, which is read as any number is. -/
theorem settings?_settingsJson (settings : Settings) :
    settings? kind (ofJson (settingsJson settings)) =
      (kind.threshold (thresholdNumber settings).spelling).bind fun n =>
        if h : n < UInt64.size then some ⟨settings.defaultRule, n, h⟩ else none := by
  obtain ⟨defaultRule, threshold, hfits⟩ := settings
  cases defaultRule with
  | none =>
    have hfields := fieldsOf?_second kind (by decide : "default_rule" ≠ "fuzzy_threshold")
      (.number (thresholdNumber ⟨none, threshold, hfits⟩).spelling)
    rw [settings?, show fieldsOf? kind _ (ofJson _) = _ from hfields]
    rfl
  | some name =>
    have hfields := fieldsOf?_two kind (by decide : "default_rule" ≠ "fuzzy_threshold")
      (.string (StringPiece.ofString name))
      (.number (thresholdNumber ⟨some name, threshold, hfits⟩).spelling)
    rw [settings?, show fieldsOf? kind _ (ofJson _) = _ from hfields]
    dsimp only
    rw [defaultRule?, StringPiece.text?_ofString]
    rfl

/-- What a configuration is read as from the document it is written as. -/
theorem ofDocument?_toJson (config : Config) :
    ofDocument? kind (ofJson config.toJson) =
      (rereadRules? kind config.rules).bind fun rules =>
        (settings? kind (ofJson (settingsJson config.settings))).map fun settings =>
          ⟨Dictionary.ofList rules, Dictionary.sorted_ofList rules, settings⟩ := by
  have hfields := fieldsOf?_two kind (by decide : "rules" ≠ "settings")
    (.object (ofMembers config.rules)) (ofJson (settingsJson config.settings))
  rw [ofDocument?, show fieldsOf? kind _ (ofJson _) = _ from hfields]
  dsimp only
  rw [rules?_ofMembers]
  cases rereadRules? kind config.rules with
  | none => rfl
  | some rules =>
    have hrules := Dictionary.ofList_of_sorted (Dictionary.sorted_ofList rules)
    cases settings? kind (ofJson (settingsJson config.settings)) with
    | none => rfl
    | some settings =>
      simp only [Option.map_some, Option.bind_eq_bind, Option.bind_some, hrules]
      rfl

/-- A threshold that was cut to 64 bits fits. -/
theorem truncate64_lt (x : Binary64) : truncate64 x < UInt64.size := by
  rw [truncate64.eq_def]
  split
  · decide
  · split <;> decide
  · split
    · decide
    · exact Nat.lt_of_le_of_lt (Nat.min_le_right _ _) (by decide)

private theorem strict_threshold_of_integer {sign : Sign} {n : Numeral} {i : Nat}
    {hi : -0x8000000000000000 ≤ (i : Int) ∧ (i : Int) < 0x10000000000000000}
    (h : Strict.integer? sign n = some (.integer i hi)) :
    strictKind.threshold (.decimal sign n) = some i := by
  rw [strictKind]
  dsimp only
  rw [h]
  rfl

private theorem strict_threshold (settings : Settings) :
    strictKind.threshold (thresholdNumber settings).spelling = some settings.threshold := by
  rw [thresholdNumber, JsonNumber.spelling]
  exact strict_threshold_of_integer (Strict.integer?_integer _)

private theorem relaxed_threshold (settings : Settings) :
    ∃ n < UInt64.size, relaxedKind.threshold (thresholdNumber settings).spelling = some n := by
  obtain ⟨x, hx⟩ := Relaxed.finite?_ofNat .none settings.thresholdFits
  have hthreshold : relaxedKind.threshold (thresholdNumber settings).spelling =
      some (truncate64 (.finite x)) := by
    rw [thresholdNumber, JsonNumber.spelling, JsonNumber.numeral, Int.natAbs_natCast,
      JsonNumber.isNegative, decide_eq_false (Int.not_lt.mpr (Int.natCast_nonneg _)), relaxedKind]
    dsimp only
    rw [relaxedNumber?, Sign.ofNegative, if_neg Bool.false_ne_true, hx]
    rfl
  exact ⟨_, truncate64_lt _, hthreshold⟩

private theorem settings?_strict (settings : Settings) :
    settings? strictKind (ofJson (settingsJson settings)) = some settings := by
  rw [settings?_settingsJson, strict_threshold, Option.bind_some, dif_pos settings.thresholdFits]

private theorem settings?_relaxed (settings : Settings) :
    ∃ read, settings? relaxedKind (ofJson (settingsJson settings)) = some read := by
  obtain ⟨n, hn, hthreshold⟩ := relaxed_threshold settings
  rw [settings?_settingsJson, hthreshold, Option.bind_some, dif_pos hn]
  exact ⟨_, rfl⟩

def ruleDepthLimit : Nat := Strict.depthLimit - 2

/-- Whether the text of a configuration is within the depth that a strict document may have. -/
def IsShallow (config : Config) : Prop :=
  ∀ rule ∈ config.rules, rule.2.depth ≤ ruleDepthLimit

instance (config : Config) : Decidable config.IsShallow :=
  inferInstanceAs (Decidable (∀ rule ∈ config.rules, rule.2.depth ≤ ruleDepthLimit))

/-- Whether the text of a configuration is a relaxed document whose rules all denote values. -/
def IsRelaxed (config : Config) : Prop :=
  config.toJson.allStrings Relaxed.isLegible = true ∧
    ∀ rule ∈ config.rules, rule.2.allNumbers Relaxed.holds = true

instance (config : Config) : Decidable config.IsRelaxed :=
  inferInstanceAs (Decidable (_ ∧ ∀ rule ∈ config.rules, _))

/-- A rule of its own depth is read as it would be alone, and a deeper one is not read. -/
theorem reread?_strict (rule : Json) :
    reread? strictKind rule =
      if rule.depth ≤ ruleDepthLimit then toJson? Strict.reading (ofJson rule) else none := by
  rw [← depth_ofJson]
  rfl

private theorem reread?_strict_isSome (rule : Json) :
    (reread? strictKind rule).isSome = true ↔ rule.depth ≤ ruleDepthLimit := by
  rw [reread?_strict]
  split
  · rename_i hdepth
    rw [toJson?_ofJson_isSome, Strict.rereads_eq, Json.allNumbers_true]
    exact ⟨fun _ => hdepth, fun _ => rfl⟩
  · rename_i hdepth
    exact ⟨nofun, fun h => absurd h hdepth⟩

private theorem reread?_relaxed_isSome (rule : Json) :
    (reread? relaxedKind rule).isSome = rule.allNumbers Relaxed.holds := by
  rw [← Relaxed.rereads_eq, ← toJson?_ofJson_isSome]
  rfl

/-- A rule is kept by a relaxed document that has it at all. -/
theorem reread?_relaxed {rule : Json} (hsorted : rule.Sorted)
    (hholds : rule.allNumbers Relaxed.holds = true) : reread? relaxedKind rule = some rule := by
  rw [← Relaxed.keeps_eq] at hholds
  exact (toJson?_ofJson_eq_iff Relaxed.reading hsorted).mpr hholds

/-- A rule within the depth is kept by a strict document when each of its numbers is. -/
theorem reread?_strict_eq_iff {rule : Json} (hsorted : rule.Sorted)
    (hdepth : rule.depth ≤ ruleDepthLimit) :
    reread? strictKind rule = some rule ↔ rule.allNumbers (keeps Strict.reading) = true := by
  rw [reread?_strict, if_pos hdepth]
  exact toJson?_ofJson_eq_iff Strict.reading hsorted

variable {config : Config}

private theorem ofDocument?_strict_none (h : ¬ config.IsShallow) :
    ofDocument? strictKind (ofJson config.toJson) = none := by
  have hrules : rereadRules? strictKind config.rules = none := by
    rw [← Option.not_isSome_iff_eq_none, rereadRules?_isSome_iff]
    exact fun hall => h fun rule hrule => (reread?_strict_isSome rule.2).mp (hall rule hrule)
  rw [ofDocument?_toJson, hrules, Option.bind_none]

/-- A shallow configuration is read from its text as from a strict document. -/
theorem ofText?_of_isShallow (h : config.IsShallow) :
    ∃ rules, rereadRules? strictKind config.rules = some rules ∧
      (∃ hsorted, ofText? config.toJson.pretty = some ⟨rules, hsorted, config.settings⟩) := by
  obtain ⟨rules, hrules⟩ := Option.isSome_iff_exists.mp
    ((rereadRules?_isSome_iff strictKind config.rules).mpr fun rule hrule =>
      (reread?_strict_isSome rule.2).mpr (h rule hrule))
  have hdictionary := ofList_of_rereadRules? config.rulesSorted hrules
  refine ⟨rules, hrules, hdictionary ▸ Dictionary.sorted_ofList rules, ?_⟩
  rw [ofText?, Strict.document?_pretty, Option.bind_some, ofDocument?_toJson, hrules,
    Option.bind_some, settings?_strict, Option.map_some]
  simp only [hdictionary]

/-- A configuration that is not shallow is read from its text as from a relaxed document. -/
theorem ofText?_of_not_isShallow (hdeep : ¬ config.IsShallow) (h : config.IsRelaxed) :
    ∃ rules, rereadRules? relaxedKind config.rules = some rules ∧
      (∃ hsorted settings, ofText? config.toJson.pretty = some ⟨rules, hsorted, settings⟩) := by
  obtain ⟨rules, hrules⟩ := Option.isSome_iff_exists.mp
    ((rereadRules?_isSome_iff relaxedKind config.rules).mpr fun rule hrule =>
      (reread?_relaxed_isSome rule.2).trans (h.2 rule hrule))
  have hdictionary := ofList_of_rereadRules? config.rulesSorted hrules
  obtain ⟨settings, hsettings⟩ := settings?_relaxed config.settings
  refine ⟨rules, hrules, hdictionary ▸ Dictionary.sorted_ofList rules, settings, ?_⟩
  rw [ofText?, Strict.document?_pretty, Option.bind_some, ofDocument?_strict_none hdeep,
    Relaxed.document?_pretty, if_pos h.1]
  dsimp only [Option.bind_some]
  rw [ofDocument?_toJson, hrules, Option.bind_some, hsettings, Option.map_some]
  simp only [hdictionary]

/-- The text of a configuration is not read when it is too deep for a strict document and a relaxed
one does not have its integers or strings. -/
theorem ofText?_eq_none (hdeep : ¬ config.IsShallow) (h : ¬ config.IsRelaxed) :
    ofText? config.toJson.pretty = none := by
  rw [ofText?, Strict.document?_pretty, Option.bind_some, ofDocument?_strict_none hdeep,
    Relaxed.document?_pretty]
  dsimp only
  split
  · rename_i hstrings
    have hrules : rereadRules? relaxedKind config.rules = none := by
      rw [← Option.not_isSome_iff_eq_none, rereadRules?_isSome_iff]
      refine fun hall => h ⟨hstrings, fun rule hrule => ?_⟩
      rw [← reread?_relaxed_isSome]
      exact hall rule hrule
    rw [Option.bind_some, ofDocument?_toJson, hrules, Option.bind_none]
  · rfl

end CartCriteria.Config
