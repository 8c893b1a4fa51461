import CartCriteria.Command.Arguments
import CartCriteria.Proofs.Command.Stages

/-! The reading of arguments where it succeeds. Of each step it is said when it succeeds and what it
then does, so that nothing that follows opens the reader again. -/
namespace CartCriteria

namespace LevelState

variable {s s' : LevelState} {level : Level} {item : Item} {value : String}

/-- An item is recorded once, with a value that it admits. -/
theorem record_cases (h : s.record item value = .ok s') :
    (s.given.any fun g => g.1 == item) = false ∧ item.admits value = true ∧
      s' = { s with given := s.given ++ [(item, value)] } := by
  rw [record] at h
  split at h
  · cases h
  · rename_i hnew
    split at h
    · rename_i hadmits
      cases h
      exact ⟨Bool.eq_false_iff.mpr hnew, hadmits, rfl⟩
    · cases h

/-- Recording changes nothing but the given items. -/
theorem record_keeps (h : s.record item value = .ok s') :
    s'.pending = s.pending ∧ s'.awaiting = s.awaiting ∧ s'.escaped = s.escaped ∧
      s'.operandCount = s.operandCount := by
  obtain ⟨-, -, rfl⟩ := record_cases h
  exact ⟨rfl, rfl, rfl, rfl⟩

/-- What is pending is recorded, if it has its value by now. -/
theorem settle_cases (h : s.settle = .ok s') :
    s.pending = none ∧ s' = s ∨
    ∃ item value, s.pending = some (item, some value) ∧
      { s with pending := none, awaiting := false }.record item value = .ok s' := by
  rw [settle] at h
  split at h
  · cases h
    exact .inl ⟨‹_›, rfl⟩
  · cases h
  · exact .inr ⟨_, _, ‹_›, h⟩

theorem settle_escape (s : LevelState) : { s with escaped := true }.settle =
    s.settle.map fun s => { s with escaped := true } := by
  obtain ⟨given, _ | ⟨item, _ | value⟩, awaiting, escaped, count⟩ := s
  · rfl
  · rfl
  · dsimp only [settle, record]
    split
    · rfl
    · split <;> rfl

/-- Where nothing is pending there is nothing to settle. -/
theorem settle_of_pending (h : s.pending = none) : s.settle = .ok s := by
  rw [settle, h]

/-- An item with its value is recorded once what was pending is judged. -/
theorem attach_eq_ok_iff : s.attach item value = .ok s' ↔
    ∃ s₀, s.settle = .ok s₀ ∧ s₀.record item value = .ok s' :=
  bind_eq_ok_iff

/-- An option that waits for its value is pending behind what was settled. -/
theorem await_eq_ok_iff : s.await item = .ok s' ↔
    ∃ s₀, s.settle = .ok s₀ ∧
      s' = { s₀ with pending := some (item, none), awaiting := true } := by
  rw [await, bind_eq_ok_iff]
  simp only [pure, Except.pure, Except.ok.injEq, eq_comm]

/-- An operand goes to the next item of its level that takes one. -/
theorem operand_eq_ok_iff {arg : String} : s.operand level arg = .ok s' ↔
    ∃ item s₀, level.operands[s.operandCount]? = some item ∧ s.settle = .ok s₀ ∧
      s' = { s₀ with pending := some (item, some arg), operandCount := s₀.operandCount + 1 } := by
  rw [operand]
  cases level.operands[s.operandCount]? with
  | some item =>
    dsimp only
    rw [bind_eq_ok_iff]
    simp only [pure, Except.pure, Except.ok.injEq, Option.some.injEq, exists_and_left,
      exists_eq_left', eq_comm]
  | none =>
    dsimp only
    refine iff_of_false ?_ ?_
    · intro h
      split at h
      · cases h
      · split at h <;> cases h
    · rintro ⟨_, _, hitem, -⟩
      cases hitem

/-- A level is finished if all it needs was given and nothing that was given is in conflict. -/
theorem finish_eq_ok_iff {isLast : Bool} {given : Given} : s.finish level isLast = .ok given ↔
    ∃ s₀, s.settle = .ok s₀ ∧ (isLast && level.needsDeeper) = false ∧ s₀.hasConflict = false ∧
      (level.required.any fun item => !s₀.given.any fun g => g.1 == item) = false ∧
      s₀.given = given := by
  rw [finish, bind_eq_ok_iff]
  refine exists_congr fun s₀ => and_congr_right fun _ => ?_
  cases isLast && level.needsDeeper with
  | true => simp
  | false =>
    cases s₀.hasConflict with
    | true => simp
    | false =>
      cases level.required.any fun item => !s₀.given.any fun g => g.1 == item <;> simp

/-- A flag is recorded with an empty value, unless it ends the reading. -/
theorem flag_eq_ok_iff : s.flag item = .ok s' ↔
    item ≠ .help ∧ item ≠ .version ∧ s.attach item "" = .ok s' := by
  rw [flag, attach, bind_eq_ok_iff, bind_eq_ok_iff]
  cases item <;> simp

def take (s : LevelState) (item : Item) : Option String → Except UsageFault LevelState
  | none => s.await item
  | some value => s.attach item value

/-- A long option takes the value that is written with it; a flag has none. -/
theorem long_eq_ok_iff {name : String} {value : Option String} :
    s.long level name value = .ok s' ↔
    ∃ o, level.options.find? (fun o => o.long == name) = some o ∧
      (o.takesValue = true ∧ s.take o.item value = .ok s' ∨
      o.takesValue = false ∧ value = none ∧ s.flag o.item = .ok s') := by
  rw [long]
  cases level.options.find? fun o => o.long == name with
  | none => simp
  | some o =>
    dsimp only
    cases htakes : o.takesValue <;> cases value <;> simp [htakes, take]

def shortValue : List Char → Option String
  | [] => none
  | '=' :: value => some (String.ofList value)
  | value => some (String.ofList value)

/-- The first letter of short options takes the rest for its value, or it is a flag and the rest are
more options. -/
theorem short_cons_eq_ok_iff {c : Char} {rest : List Char} :
    s.short level (c :: rest) = .ok s' ↔
    ∃ o, level.options.find? (fun o => o.short == some c) = some o ∧
      (o.takesValue = true ∧ s.take o.item (shortValue rest) = .ok s' ∨
      o.takesValue = false ∧ ∃ s₁, s.flag o.item = .ok s₁ ∧ s₁.short level rest = .ok s') := by
  rw [short]
  cases level.options.find? fun o => o.short == some c with
  | none => simp
  | some o =>
    dsimp only
    cases htakes : o.takesValue with
    | true =>
      rw [if_pos rfl]
      split <;> simp [shortValue, take, htakes]
    | false =>
      rw [if_neg Bool.false_ne_true]
      cases hflag : s.flag o.item <;> simp [htakes, hflag]

def dashed (level : Level) (s : LevelState) : ArgumentForm → Except UsageFault LevelState
  | .escape => .ok { s with escaped := true }
  | .long name value => s.long level name value
  | .short letters => s.short level letters
  | .plain => .error .unknownArgument

end LevelState

def ArgumentForm.isPlain : ArgumentForm → Bool
  | plain => true
  | _ => false

theorem ArgumentForm.eq_plain_of_isPlain {form : ArgumentForm} (h : form.isPlain = true) :
    form = .plain := by
  cases form with
  | plain => rfl
  | escape | long | short => cases h

/-- The ways in which an argument is read with success: behind two dashes; as the name of a deeper
level; as an option; as the value of the pending option; or as an operand. -/
inductive Reads (level : Level) (s : LevelState) (arg : String) (rest : List String)
    (levels : List (Level × Given)) : Prop
  | escaped {s' : LevelState} (hescaped : s.escaped = true) (hoperand : s.operand level arg = .ok s')
      (hrest : readLevels level s' rest = .ok levels)
  | deeper {name : String} {next : Level} {below : List (Level × Given)} {given : Given}
      (hescaped : s.escaped = false) (hform : (ArgumentForm.ofText arg).isPlain = true)
      (hawaiting : s.awaiting = false)
      (hnamed : level.deeper.find? (fun l => l.1 == arg) = some (name, next))
      (hbelow : readLevels next .initial rest = .ok below)
      (hfinish : s.finish level false = .ok given) (hlevels : levels = (level, given) :: below)
  | option {s' : LevelState} (hescaped : s.escaped = false)
      (hform : (ArgumentForm.ofText arg).isPlain = false)
      (hoption : s.dashed level (.ofText arg) = .ok s')
      (hrest : readLevels level s' rest = .ok levels)
  | value (hescaped : s.escaped = false) (hform : (ArgumentForm.ofText arg).isPlain = true)
      (hawaiting : s.awaiting = true) (hrest : readLevels level (s.supply arg) rest = .ok levels)
  | operand {s' : LevelState} (hescaped : s.escaped = false)
      (hform : (ArgumentForm.ofText arg).isPlain = true) (hawaiting : s.awaiting = false)
      (hunnamed : level.deeper.find? (fun l => l.1 == arg) = none)
      (hhelp : (level.needsDeeper && arg == "help") = false)
      (hoperand : s.operand level arg = .ok s') (hrest : readLevels level s' rest = .ok levels)

private theorem isPlain_deeper (level : Level) :
    ∀ l ∈ level.deeper, (ArgumentForm.ofText l.1).isPlain = true := by
  cases level <;> decide

private theorem find?_deeper_of_dashed {level : Level} {arg : String}
    (h : (ArgumentForm.ofText arg).isPlain = false) :
    level.deeper.find? (fun l => l.1 == arg) = none := by
  rw [List.find?_eq_none]
  intro l hl hname
  rw [← eq_of_beq hname, isPlain_deeper level l hl] at h
  cases h

private theorem not_help_of_dashed {arg : String} (h : (ArgumentForm.ofText arg).isPlain = false) :
    (arg == "help") = false := by
  refine beq_false_of_ne ?_
  rintro rfl
  cases h

private theorem readLevels_dashed {level : Level} {s : LevelState} {arg : String}
    {rest : List String} (hescaped : s.escaped = false)
    (hform : (ArgumentForm.ofText arg).isPlain = false) :
    readLevels level s (arg :: rest) =
      s.dashed level (.ofText arg) >>= fun s' => readLevels level s' rest := by
  rw [readLevels, hescaped, find?_deeper_of_dashed hform, not_help_of_dashed hform, ite_self]
  dsimp only
  rw [if_neg Bool.false_ne_true, Bool.and_false, if_neg Bool.false_ne_true]
  cases hofText : ArgumentForm.ofText arg with
  | plain =>
    rw [hofText] at hform
    cases hform
  | escape | long | short => rfl

private theorem readLevels_plain {level : Level} {s : LevelState} {arg : String}
    {rest : List String} (hescaped : s.escaped = false)
    (hform : (ArgumentForm.ofText arg).isPlain = true) :
    readLevels level s (arg :: rest) =
      if s.awaiting then readLevels level (s.supply arg) rest
      else
        match level.deeper.find? fun l => l.1 == arg with
        | some (_, next) => do
          let below ← readLevels next .initial rest
          let given ← s.finish level false
          return (level, given) :: below
        | none =>
          if level.needsDeeper && arg == "help" then .error (helpFault level rest)
          else s.operand level arg >>= fun s' => readLevels level s' rest := by
  rw [readLevels, hescaped, ArgumentForm.eq_plain_of_isPlain hform]
  dsimp only
  rw [if_neg Bool.false_ne_true]
  cases s.awaiting with
  | true => rfl
  | false =>
    cases level.deeper.find? fun l => l.1 == arg with
    | none => rfl
    | some found => rfl

/-- The first argument is read in one of the ways that are listed. -/
theorem readLevels_cons_iff {level : Level} {s : LevelState} {arg : String} {rest : List String}
    {levels : List (Level × Given)} :
    readLevels level s (arg :: rest) = .ok levels ↔ Reads level s arg rest levels := by
  constructor
  · intro h
    cases hescaped : s.escaped with
    | true =>
      rw [readLevels, hescaped, if_pos rfl] at h
      obtain ⟨s', hoperand, hrest⟩ := bind_eq_ok_iff.mp h
      exact .escaped hescaped hoperand hrest
    | false =>
      cases hform : (ArgumentForm.ofText arg).isPlain with
      | false =>
        rw [readLevels_dashed hescaped hform] at h
        obtain ⟨s', hoption, hrest⟩ := bind_eq_ok_iff.mp h
        exact .option hescaped hform hoption hrest
      | true =>
        rw [readLevels_plain hescaped hform] at h
        cases hawaiting : s.awaiting with
        | true =>
          rw [hawaiting, if_pos rfl] at h
          exact .value hescaped hform hawaiting h
        | false =>
          rw [hawaiting, if_neg Bool.false_ne_true] at h
          cases hnamed : level.deeper.find? fun l => l.1 == arg with
          | some found =>
            rw [hnamed] at h
            obtain ⟨below, hbelow, h⟩ := bind_eq_ok_iff.mp h
            obtain ⟨given, hfinish, h⟩ := bind_eq_ok_iff.mp h
            cases h
            exact .deeper hescaped hform hawaiting hnamed hbelow hfinish rfl
          | none =>
            rw [hnamed] at h
            dsimp only at h
            split at h
            · cases h
            · rename_i hhelp
              obtain ⟨s', hoperand, hrest⟩ := bind_eq_ok_iff.mp h
              exact .operand hescaped hform hawaiting hnamed (Bool.eq_false_iff.mpr hhelp) hoperand
                hrest
  · intro h
    cases h with
    | escaped hescaped hoperand hrest =>
      rw [readLevels, hescaped, if_pos rfl, hoperand]
      exact hrest
    | deeper hescaped hform hawaiting hnamed hbelow hfinish hlevels =>
      rw [readLevels_plain hescaped hform, hawaiting, if_neg Bool.false_ne_true, hnamed]
      dsimp only
      rw [hbelow, hfinish, hlevels]
      rfl
    | option hescaped hform hoption hrest =>
      rw [readLevels_dashed hescaped hform, hoption]
      exact hrest
    | value hescaped hform hawaiting hrest =>
      rw [readLevels_plain hescaped hform, hawaiting, if_pos rfl]
      exact hrest
    | operand hescaped hform hawaiting hunnamed hhelp hoperand hrest =>
      rw [readLevels_plain hescaped hform, hawaiting, if_neg Bool.false_ne_true, hunnamed]
      dsimp only
      rw [hhelp, if_neg Bool.false_ne_true, hoperand]
      exact hrest

/-- After the last argument the innermost level is finished. -/
theorem readLevels_nil_eq_ok_iff {level : Level} {s : LevelState}
    {levels : List (Level × Given)} :
    readLevels level s [] = .ok levels ↔
      ∃ given, s.finish level true = .ok given ∧ levels = [(level, given)] := by
  rw [readLevels, bind_eq_ok_iff]
  simp only [pure, Except.pure, Except.ok.injEq, eq_comm]

/-- Levels make an invocation if the deepest one makes an action. -/
theorem Invocation.ofLevels_eq_ok_iff {levels : List (Level × Given)} {invocation : Invocation} :
    ofLevels levels = .ok invocation ↔
    ∃ level given above action, levels.reverse = (level, given) :: above ∧
      actionOf level given = some action ∧
      invocation = ⟨levels.reverse.findSome? fun l => l.2.value? .config,
        (levels.reverse.findSome? fun l => l.2.value? .quiet).isSome,
        (levels.reverse.findSome? fun l => l.2.value? .json).isSome,
        (levels.reverse.findSome? fun l => l.2.value? .noJson).isSome, action⟩ := by
  rw [ofLevels]
  cases levels.reverse with
  | nil => simp
  | cons deepest above =>
    obtain ⟨level, given⟩ := deepest
    dsimp only
    cases haction : actionOf level given with
    | none =>
      refine iff_of_false (fun h => by cases h) ?_
      rintro ⟨_, _, _, _, hinward, hsome, -⟩
      cases hinward
      rw [haction] at hsome
      cases hsome
    | some action =>
      constructor
      · intro h
        cases h
        exact ⟨level, given, above, action, rfl, haction, rfl⟩
      · rintro ⟨_, _, _, _, hinward, hsome, rfl⟩
        cases hinward
        rw [haction] at hsome
        cases hsome
        rfl

end CartCriteria
