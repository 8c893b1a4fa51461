import CartCriteria.Proofs.Command.Stages
import CartCriteria.Proofs.Files.Overwrite

/-! The exit code of a check and what its outcome depends on. The first thing that is missing
decides: the criteria or the rule that stands for them, and then the cart. -/
namespace CartCriteria

def Config.writtenRule (config : Config) (rule : Option String) : Except Nat Json :=
  match rule.or config.settings.defaultRule with
  | none => .error 4
  | some name =>
    match config.rule? name with
    | none => .error 6
    | some raw => if raw.members?.isSome then .ok raw else .error 5

/-- A selection of criteria next to the criteria as they were written: both fail with one exit code,
or what was selected gives the verdict of what was written. -/
inductive Selects : Except CommandFault (String × Criteria) → Except Nat Json → Prop
  | failed (fault : CommandFault) : Selects (.error fault) (.error fault.exitCode.toNat)
  | found (label : String) (criteria : Criteria) (raw : Json)
      (hcheck : ∀ cart, Criteria.check cart raw = .ok (criteria.eligible cart)) :
      Selects (.ok (label, criteria)) (.ok raw)

private theorem Selects.of_error {fault : CommandFault} {e : ExitCode} (h : fault.exitCode = e) :
    Selects (.error fault) (.error e.toNat) :=
  h ▸ .failed fault

/-- Selecting a rule is selecting it as it was written. -/
theorem Config.selects_selectRule (config : Config) (rule : Option String) :
    Selects (config.selectRule rule) (config.writtenRule rule) := by
  rw [selectRule, writtenRule]
  cases rule.or config.settings.defaultRule with
  | none => exact .failed .noCriteria
  | some name =>
    dsimp only
    rcases config.ruleCriteria_cases name with
      ⟨hrule, fault, hcriteria, hcode⟩ | ⟨raw, hrule, hraw, fault, hcriteria, hcode⟩ |
      ⟨members, criteria, hrule, hcriteria, hcheck⟩
    · rw [hrule, hcriteria]
      exact .of_error hcode
    · rw [hrule, hcriteria]
      dsimp only
      rw [hraw]
      exact .of_error hcode
    · rw [hrule, hcriteria]
      exact .found _ _ _ hcheck

namespace Directory

/-- The criteria that a check goes by as they were written, or the exit code when there are none. A
document of criteria is taken before the configuration is looked at. -/
def writtenCriteria (d : Directory) (around : Surroundings) (configPath : String)
    (criteria rule : Option String) : Except Nat Json :=
  match criteria with
  | some source =>
    match d.document? around source with
    | none => .error 3
    | some v => if v.members?.isSome then .ok v else .error 3
  | none =>
    match d.loadConfig configPath with
    | .error _ => .error 5
    | .ok config => config.writtenRule rule

def cartCode (d : Directory) (around : Surroundings) (cart : String) (raw : Json) : Nat :=
  match d.document? around cart with
  | none => 3
  | some cart =>
    match Criteria.check cart raw with
    | .ok true => 0
    | _ => 2

def checkCode (d : Directory) (around : Surroundings) (configPath cart : String)
    (criteria rule : Option String) : Nat :=
  if cart = "-" ∧ criteria = some "-" then 4
  else
    match d.writtenCriteria around configPath criteria rule with
    | .error code => code
    | .ok raw => d.cartCode around cart raw

variable {d other : Directory} {around : Surroundings} {checking : Invocation}
  {configPath cart source : String} {criteria rule : Option String}

/-- Selecting criteria is selecting them as they were written. -/
theorem selects_selectCriteria (d : Directory) (around : Surroundings) (configPath : String)
    (criteria rule : Option String) :
    Selects (d.selectCriteria around configPath criteria rule)
      (d.writtenCriteria around configPath criteria rule) := by
  cases criteria with
  | some source =>
    rw [selectCriteria, writtenCriteria]
    rcases d.readDocument_cases around .criteria source with
      ⟨v, hdocument, hread⟩ | ⟨hdocument, fault, hread, hcode⟩
    · rw [hdocument, hread]
      cases hmembers : v.members? with
      | none =>
        simp only [bind, Except.bind, Criteria.ofJson_of_members? hmembers, hmembers]
        exact .failed (.notCriteria _)
      | some members =>
        obtain ⟨selected, hselected, hcheck⟩ := Criteria.ofJson_object members
        simp only [bind, Except.bind, Json.eq_object_of_members? hmembers, hselected]
        exact .found _ _ _ hcheck
    · rw [hdocument, hread]
      exact .of_error hcode
  | none =>
    rw [selectCriteria, writtenCriteria]
    cases hload : d.loadConfig configPath with
    | error fault => exact .of_error (exitCode_of_loadConfig hload)
    | ok config => exact config.selects_selectRule rule

private theorem source_eq_input (text : String) : Source.ofText text = .input ↔ text = "-" := by
  rw [Source.ofText]
  split <;> simp [*]

private theorem inputTwice_iff (cart : String) (criteria : Option String) :
    (Source.ofText cart = .input ∧ criteria.map Source.ofText = some .input) ↔
      cart = "-" ∧ criteria = some "-" := by
  simp [source_eq_input]

private theorem exitCode_reportCheck (cart : Json) (label : String) (criteria : Criteria) :
    (Report.check cart label criteria).exitCode =
      if criteria.eligible cart then .success else .notEligible :=
  rfl

/-- A check has the exit code that it has to have. -/
theorem toNat_exitCode_check (haction : checking.action = .inquire (.check cart criteria rule)) :
    (d.run around checking).2.exitCode.toNat =
      d.checkCode around (around.configPath checking.configPath) cart criteria rule := by
  rw [run_inquire haction, Outcome.exitCode_ofResult, answer, checkCart, checkCode]
  by_cases htwice : cart = "-" ∧ criteria = some "-"
  · rw [if_pos htwice, if_pos ((inputTwice_iff cart criteria).mpr htwice)]
    rfl
  · rw [if_neg htwice, if_neg (mt (inputTwice_iff cart criteria).mp htwice)]
    have hselects :=
      d.selects_selectCriteria around (around.configPath checking.configPath) criteria rule
    revert hselects
    generalize d.selectCriteria around _ criteria rule = selected
    generalize d.writtenCriteria around _ criteria rule = written
    intro hselects
    cases hselects with
    | failed fault => rfl
    | found label selected raw hcheck =>
      dsimp only
      rw [cartCode]
      rcases d.readDocument_cases around .cart cart with
        ⟨v, hdocument, hread⟩ | ⟨hdocument, fault, hread, hcode⟩
      · simp only [hdocument, hread, hcheck, bind, Except.bind, pure, Except.pure,
          exitCode_reportCheck]
        cases selected.eligible v <;> rfl
      · rw [hdocument, hread]
        exact congrArg ExitCode.toNat hcode

/-- Once there are criteria, only the cart is left to fail. -/
theorem cartCode_mem (d : Directory) (around : Surroundings) (cart : String) (raw : Json) :
    d.cartCode around cart raw ∈ [0, 2, 3] := by
  rw [cartCode]
  split
  · simp
  · split <;> simp

/-- Without a document of criteria the rule decides. -/
theorem checkCode_of_loadConfig {config : Config} (hload : d.loadConfig configPath = .ok config) :
    d.checkCode around configPath cart none rule =
      match config.writtenRule rule with
      | .error code => code
      | .ok raw => d.cartCode around cart raw := by
  rw [checkCode, if_neg (by simp), writtenCriteria, hload]

def Avoids (d : Directory) (place : List String) : Source → Prop
  | .input => True
  | .file path => d.locate (.ofText path) ≠ .ok place

private theorem sourceText_overwrite {place : List String} {old content : ByteArray} {s : Source}
    (hplace : d.root.at? place = some (.file old)) (havoids : d.Avoids place s) :
    (d.withEntry place (.file content)).sourceText around s = d.sourceText around s := by
  cases s with
  | input => rfl
  | file path => exact readText_overwrite hplace havoids

private theorem readDocument_congr {role : DocumentRole} {s : Source}
    {configVariable : Option String} {home : String}
    (hsame : other.sourceText around s = d.sourceText around s) :
    other.readDocument { around with configVariable := configVariable, home := home } role s =
      d.readDocument around role s := by
  have htext : other.sourceText { around with configVariable := configVariable, home := home } s =
      other.sourceText around s := by
    cases s <;> rfl
  rw [readDocument, readDocument, htext, hsame]

private theorem checkCart_congr {configVariable : Option String} {home otherPath : String}
    (hsame : ∀ text ∈ [cart, source],
      other.sourceText around (.ofText text) = d.sourceText around (.ofText text)) :
    other.checkCart { around with configVariable := configVariable, home := home } otherPath cart
      (some source) rule = d.checkCart around configPath cart (some source) rule := by
  have hcart := hsame cart List.mem_cons_self
  have hsource := hsame source (List.mem_cons_of_mem _ List.mem_cons_self)
  rw [checkCart, checkCart, selectCriteria, selectCriteria, readDocument_congr hcart,
    readDocument_congr hsource]

private theorem run_check_congr {given configVariable : Option String} {home : String}
    (haction : checking.action = .inquire (.check cart (some source) rule))
    (hsame : ∀ text ∈ [cart, source],
      other.sourceText around (.ofText text) = d.sourceText around (.ofText text)) :
    (other.run { around with configVariable := configVariable, home := home }
      { checking with configPath := given }).2 = (d.run around checking).2 := by
  have hmoved := @run_inquire other { around with configVariable := configVariable, home := home }
    { checking with configPath := given } _ haction
  rw [run_inquire haction, hmoved, answer, answer, checkCart_congr hsame]
  rfl

/-- The default rule is taken for the one that is not named. -/
theorem checkCart_default {config : Config} {name : String}
    (hload : d.loadConfig configPath = .ok config)
    (hname : config.settings.defaultRule = some name) :
    d.checkCart around configPath cart none (some name) =
      d.checkCart around configPath cart none none := by
  have hselect : config.selectRule (some name) = config.selectRule none := by
    rw [Config.selectRule, Config.selectRule, hname]
    rfl
  rw [checkCart, checkCart, selectCriteria, selectCriteria, hload]
  simp only [bind, Except.bind, hselect]

/-- A check has the exit code that it has to have. Against a document of criteria its whole outcome
is the same wherever the configuration is sought and in every tree with the same two documents, so
also when any file but these two is overwritten. The default rule is as good as the same rule named. -/
theorem outcome_of_check (haction : checking.action = .inquire (.check cart criteria rule)) :
    (d.run around checking).2.exitCode.toNat =
      d.checkCode around (around.configPath checking.configPath) cart criteria rule ∧
    (∀ source, criteria = some source → ∀ (given configVariable : Option String) (home : String),
      (∀ other : Directory,
        (∀ text ∈ [cart, source],
          other.sourceText around (.ofText text) = d.sourceText around (.ofText text)) →
        (other.run { around with configVariable := configVariable, home := home }
          { checking with configPath := given }).2 = (d.run around checking).2) ∧
      (∀ place old content, d.root.at? place = some (.file old) →
        (∀ text ∈ [cart, source], d.Avoids place (.ofText text)) →
        ((d.withEntry place (.file content)).run
          { around with configVariable := configVariable, home := home }
          { checking with configPath := given }).2 = (d.run around checking).2)) ∧
    (criteria = none → rule = none → ∀ config name,
      d.loadConfig (around.configPath checking.configPath) = .ok config →
      config.settings.defaultRule = some name →
      (d.run around { checking with action := .inquire (.check cart none (some name)) }).2 =
        (d.run around checking).2) := by
  refine ⟨toNat_exitCode_check haction, ?_, ?_⟩
  · intro source hcriteria given configVariable home
    subst hcriteria
    refine ⟨fun other hsame => run_check_congr haction hsame, ?_⟩
    intro place old content hplace havoids
    apply run_check_congr haction
    intro text htext
    exact sourceText_overwrite hplace (havoids text htext)
  · intro hcriteria hrule config name hload hname
    subst hcriteria hrule
    have hnamed := @run_inquire d around
      { checking with action := .inquire (.check cart none (some name)) } _ rfl
    rw [run_inquire haction, hnamed, answer, answer, checkCart_default hload hname]
    rfl

private def defaultIsM : String :=
  "\x7b\"rules\":\x7b\"m\":\x7b\"a\":2\x7d\x7d,\"settings\":\x7b\"default_rule\":\"m\"\x7d\x7d"

private def shop : Directory :=
  ⟨.folder [
    ("c", .file defaultIsM.toUTF8),
    ("f", .file "\x7b\"a\":\x7b\"gt\":1\x7d\x7d".toUTF8),
    ("t", .file "\x7b\"a\":2\x7d".toUTF8)], []⟩

private def againstFile : Invocation := .onConfig "c" (.inquire (.check "t" (some "f") none))

private def againstDefault : Invocation := .onConfig "c" (.inquire (.check "t" none none))

private theorem shop_default :
    ∃ config, shop.loadConfig "c" = .ok config ∧ config.settings.defaultRule = some "m" := by
  have hname : ((shop.loadConfig "c").toOption.bind fun config => config.settings.defaultRule) =
      some "m" := by
    decide +kernel
  cases hload : shop.loadConfig "c" with
  | error fault =>
    rw [hload] at hname
    cases hname
  | ok config =>
    rw [hload] at hname
    exact ⟨config, rfl, hname⟩

private theorem shop_avoids : ∀ text ∈ ["t", "f"], shop.Avoids ["c"] (.ofText text) := by
  have hcart : shop.locate (.ofText "t") = .ok ["t"] := rfl
  have hcriteria : shop.locate (.ofText "f") = .ok ["f"] := rfl
  intro text htext
  simp only [List.mem_cons, List.not_mem_nil, or_false] at htext
  rcases htext with rfl | rfl <;> simp [Source.ofText, Avoids, hcart, hcriteria]

/-- The configuration is looked for in vain and emptied; the default rule is named. -/
theorem outcome_of_check_shop :
    (shop.run .plain againstFile).2.exitCode.toNat = 0 ∧
    shop.root.at? ["c"] = some (.file defaultIsM.toUTF8) ∧
    (∀ text ∈ ["t", "f"], shop.Avoids ["c"] (.ofText text)) ∧
    ((shop.withEntry ["c"] (.file .empty)).run
      { Surroundings.plain with configVariable := some "nowhere", home := "" }
      { againstFile with configPath := none }).2 = (shop.run .plain againstFile).2 ∧
    (∃ config, shop.loadConfig "c" = .ok config ∧ config.settings.defaultRule = some "m") ∧
    (shop.run .plain
      { againstDefault with action := .inquire (.check "t" none (some "m")) }).2 =
        (shop.run .plain againstDefault).2 := by
  have hfile := @outcome_of_check shop .plain againstFile _ _ _ rfl
  have hdefault := @outcome_of_check shop .plain againstDefault _ _ _ rfl
  have hplace : shop.root.at? ["c"] = some (.file defaultIsM.toUTF8) := rfl
  refine ⟨hfile.1.trans (by decide +kernel), hplace, shop_avoids, ?_, shop_default, ?_⟩
  · exact (hfile.2.1 "f" rfl none (some "nowhere") "").2 ["c"] _ _ hplace shop_avoids
  · obtain ⟨config, hload, hname⟩ := shop_default
    exact hdefault.2.2 rfl rfl config "m" hload hname

end Directory
end CartCriteria
