import CartCriteria.Proofs.Command.Reading

/-! Arguments without the flags that say how to report. A command line that is accepted is accepted
without them as well, and asks for the same. The flags may stand on every level and among other short
options, so the reading of the one command line is followed by that of the other. -/
namespace CartCriteria

def Item.isReporting : Item → Bool
  | json | noJson | quiet => true
  | _ => false

def Given.unreporting (given : Given) : Given :=
  given.filter fun g => !g.1.isReporting

def reportingNames : List String := ["json", "no-json", "quiet"]

/-- Letters of short options without the flags for the report. What follows an option other than the
flag `v` is its value. -/
def plainLetters : List Char → List Char
  | [] => []
  | c :: rest =>
    if c = 'j' ∨ c = 'q' then plainLetters rest
    else if c = 'v' then c :: plainLetters rest
    else c :: rest

def shortArgument : List Char → List String
  | [] => []
  | c :: rest => [String.ofList ('-' :: c :: rest)]

/-- Arguments without the flags for the report. Behind two dashes alone there are no flags. -/
def plainArguments : List String → List String
  | [] => []
  | arg :: rest =>
    match ArgumentForm.ofText arg with
    | .escape => arg :: rest
    | .long name none =>
      if name ∈ reportingNames then plainArguments rest else arg :: plainArguments rest
    | .short letters => shortArgument (plainLetters letters) ++ plainArguments rest
    | _ => arg :: plainArguments rest

example : plainArguments ["-qvccart.json", "-j", "--no-json", "--", "--json"] =
    ["-vccart.json", "--", "--json"] := by
  decide

private theorem Level.isReporting_iff {level : Level} {name : String} {o : OptionForm}
    (h : level.options.find? (fun o => o.long == name) = some o) :
    o.item.isReporting = true ↔ name ∈ reportingNames := by
  have hnames : ∀ o ∈ level.options, o.item.isReporting = true ↔ o.long ∈ reportingNames := by
    cases level <;> decide
  have hname : o.long = name := by simpa using List.find?_some h
  rw [← hname]
  exact hnames o (List.mem_of_find?_eq_some h)

private theorem Level.not_isReporting_of_takesValue (level : Level) :
    ∀ o ∈ level.options, o.takesValue = true → o.item.isReporting = false := by
  cases level <;> decide

private abbrev OptionForm.FitsLetter (o : OptionForm) (c : Char) : Prop :=
  ((c = 'j' ∨ c = 'q') ↔ o.item.isReporting = true) ∧
  (c = 'v' → o.takesValue = false) ∧
  (o.takesValue = false → c = 'v' ∨ o.item.isReporting = true ∨ o.item = .help ∨
    o.item = .version) ∧
  c ≠ '-'

private theorem Level.letter_cases {level : Level} {c : Char} {o : OptionForm}
    (h : level.options.find? (fun o => o.short == some c) = some o) : o.FitsLetter c := by
  have hletters : ∀ o ∈ level.options, o.short.all (fun c => decide (o.FitsLetter c)) = true := by
    cases level <;> decide
  have hletter : o.short = some c := by simpa using List.find?_some h
  have hfits := hletters o (List.mem_of_find?_eq_some h)
  rw [hletter] at hfits
  exact of_decide_eq_true hfits

private theorem Level.not_isReporting_operand (level : Level) :
    ∀ item ∈ level.operands, item.isReporting = false := by
  cases level <;> decide

private theorem Level.not_isReporting_required (level : Level) :
    ∀ item ∈ level.required, item.isReporting = false := by
  cases level <;> decide

namespace Given

variable {given : Given} {item : Item}

private theorem any_of_unreporting {p : Item × String → Bool} (h : given.unreporting.any p = true) :
    given.any p = true := by
  obtain ⟨g, hg, hp⟩ := List.any_eq_true.mp h
  exact List.any_eq_true.mpr ⟨g, (List.mem_filter.mp hg).1, hp⟩

private theorem isItem_eq (hitem : item.isReporting = false) (g : Item × String) :
    (!g.1.isReporting && g.1 == item) = (g.1 == item) := by
  by_cases hsame : g.1 = item
  · rw [hsame, hitem]
    rfl
  · rw [beq_false_of_ne hsame, Bool.and_false]

private theorem any_item_unreporting (hitem : item.isReporting = false) :
    (given.unreporting.any fun g => g.1 == item) = given.any fun g => g.1 == item := by
  rw [unreporting, List.any_filter]
  exact List.any_congr rfl (isItem_eq hitem)

private theorem value?_unreporting (hitem : item.isReporting = false) :
    given.unreporting.value? item = given.value? item := by
  rw [value?, value?, unreporting, List.find?_filter]
  simp only [Bool.decide_and, Bool.decide_eq_true, isItem_eq hitem]

private theorem value?_unreporting_none (hitem : item.isReporting = true) :
    given.unreporting.value? item = none := by
  rw [value?, Option.map_eq_none_iff, List.find?_eq_none]
  intro g hg hsame
  rw [← eq_of_beq hsame] at hitem
  have hkept := (List.mem_filter.mp hg).2
  rw [hitem] at hkept
  cases hkept

end Given

namespace LevelState

def unreporting (s : LevelState) : LevelState :=
  { s with given := s.given.unreporting }

/-- What reading keeps true: a value is awaited for the item that is pending, and that item is no flag
for the report. -/
structure Coherent (s : LevelState) : Prop where
  awaiting : s.awaiting = true → ∃ item, s.pending = some (item, none)
  pending : ∀ item value, s.pending = some (item, value) → item.isReporting = false

/-- A reading `t` follows a reading `s` if it lacks nothing but flags for the report. Such a flag
makes `s` judge its pending item, and `t` may be late in that. -/
structure Follows (t s : LevelState) : Prop where
  coherent : s.Coherent
  escaped : t.escaped = s.escaped
  awaiting : t.awaiting = s.awaiting
  operandCount : t.operandCount = s.operandCount
  supplied : s.awaiting = true → t = s.unreporting
  settled : ∀ s₀, s.settle = .ok s₀ → t.settle = .ok s₀.unreporting

variable {s s' t : LevelState} {level : Level} {item : Item} {value : String}

/-- An item that is no flag for the report is recorded as well without such flags. -/
theorem record_unreporting (hitem : item.isReporting = false) (h : s.record item value = .ok s') :
    s.unreporting.record item value = .ok s'.unreporting := by
  obtain ⟨hnew, hadmits, rfl⟩ := record_cases h
  have hnew' : ¬ (s.given.unreporting.any fun g => g.1 == item) = true := by
    intro hold
    rw [Given.any_of_unreporting hold] at hnew
    cases hnew
  rw [record, unreporting, if_neg hnew', if_pos hadmits, unreporting]
  simp [Given.unreporting, hitem]

/-- A flag for the report leaves no trace. -/
theorem unreporting_record (hitem : item.isReporting = true) (h : s.record item value = .ok s') :
    s'.unreporting = s.unreporting := by
  obtain ⟨-, -, rfl⟩ := record_cases h
  simp [unreporting, Given.unreporting, hitem]

/-- What can be settled awaits no value. -/
theorem awaiting_of_settle (hs : s.Coherent) (h : s.settle = .ok s') : s.awaiting = false := by
  refine Bool.eq_false_iff.mpr fun hawaiting => ?_
  obtain ⟨item, hitem⟩ := hs.awaiting hawaiting
  rw [settle, hitem] at h
  cases h

/-- What is settled has no pending item, and reading goes on from where it was. -/
theorem Coherent.settled (hs : s.Coherent) (h : s.settle = .ok s') :
    s'.pending = none ∧ s'.awaiting = false ∧ s'.escaped = s.escaped ∧
      s'.operandCount = s.operandCount := by
  have hawaiting := awaiting_of_settle hs h
  rcases settle_cases h with ⟨hpending, rfl⟩ | ⟨item, value, -, hrecord⟩
  · exact ⟨hpending, hawaiting, rfl, rfl⟩
  · exact record_keeps hrecord

/-- A coherent reading is followed by the same one without the flags. -/
theorem Coherent.follows (hs : s.Coherent) : s.unreporting.Follows s where
  coherent := hs
  escaped := rfl
  awaiting := rfl
  operandCount := rfl
  supplied := fun _ => rfl
  settled := by
    intro s₀ h
    rcases settle_cases h with ⟨hpending, rfl⟩ | ⟨item, value, hpending, hrecord⟩
    · exact settle_of_pending hpending
    · rw [settle, unreporting, hpending]
      exact record_unreporting (hs.pending item _ hpending) hrecord

private theorem coherent_of_settled (hpending : s.pending = none) (hawaiting : s.awaiting = false) :
    s.Coherent where
  awaiting := by
    intro h
    rw [hawaiting] at h
    cases h
  pending := by
    intro item value h
    rw [hpending] at h
    cases h

private theorem coherent_of_pending {value : Option String}
    (hpending : s.pending = some (item, value))
    (hawaiting : s.awaiting = true → value = none) (hitem : item.isReporting = false) :
    s.Coherent where
  awaiting := by
    intro h
    rw [hpending, hawaiting h]
    exact ⟨item, rfl⟩
  pending := by
    intro other value' h
    rw [hpending] at h
    cases h
    exact hitem

namespace Follows

/-- An item that is no flag for the report is taken by both readings. -/
theorem attach (h : t.Follows s) (hitem : item.isReporting = false)
    (hs : s.attach item value = .ok s') :
    ∃ t', t.attach item value = .ok t' ∧ t'.Follows s' ∧ s'.escaped = s.escaped := by
  obtain ⟨s₀, hsettle, hrecord⟩ := attach_eq_ok_iff.mp hs
  obtain ⟨hpending, hawaiting, hescaped, -⟩ := h.coherent.settled hsettle
  obtain ⟨hpending', hawaiting', hescaped', -⟩ := record_keeps hrecord
  have hcoherent : s'.Coherent :=
    coherent_of_settled (hpending'.trans hpending) (hawaiting'.trans hawaiting)
  have hrecorded := record_unreporting hitem hrecord
  exact ⟨s'.unreporting, attach_eq_ok_iff.mpr ⟨_, h.settled s₀ hsettle, hrecorded⟩,
    hcoherent.follows, hescaped'.trans hescaped⟩

/-- A flag for the report is taken by the one reading and passed over by the other. -/
theorem pass (h : t.Follows s) (hitem : item.isReporting = true)
    (hs : s.flag item = .ok s') : t.Follows s' ∧ s'.escaped = s.escaped := by
  obtain ⟨-, -, hattach⟩ := flag_eq_ok_iff.mp hs
  obtain ⟨s₀, hsettle, hrecord⟩ := attach_eq_ok_iff.mp hattach
  obtain ⟨hpending, hawaiting, hescaped, hcount⟩ := h.coherent.settled hsettle
  obtain ⟨hpending', hawaiting', hescaped', hcount'⟩ := record_keeps hrecord
  have hidle : s'.awaiting = false := hawaiting'.trans hawaiting
  refine ⟨⟨coherent_of_settled (hpending'.trans hpending) hidle, ?_, ?_, ?_, ?_, ?_⟩,
    hescaped'.trans hescaped⟩
  · exact h.escaped.trans (hescaped'.trans hescaped).symm
  · exact h.awaiting.trans ((awaiting_of_settle h.coherent hsettle).trans hidle.symm)
  · exact h.operandCount.trans (hcount'.trans hcount).symm
  · intro hs
    rw [hidle] at hs
    cases hs
  · intro s₁ hs₁
    rw [settle_of_pending (hpending'.trans hpending)] at hs₁
    cases hs₁
    rw [unreporting_record hitem hrecord]
    exact h.settled s₀ hsettle

/-- An option that awaits its value is started by both readings. -/
theorem await (h : t.Follows s) (hitem : item.isReporting = false) (hs : s.await item = .ok s') :
    ∃ t', t.await item = .ok t' ∧ t'.Follows s' ∧ s'.escaped = s.escaped := by
  obtain ⟨s₀, hsettle, rfl⟩ := await_eq_ok_iff.mp hs
  obtain ⟨-, -, hescaped, -⟩ := h.coherent.settled hsettle
  have hcoherent : Coherent { s₀ with pending := some (item, none), awaiting := true } :=
    coherent_of_pending rfl (fun _ => rfl) hitem
  exact ⟨_, await_eq_ok_iff.mpr ⟨_, h.settled s₀ hsettle, rfl⟩, hcoherent.follows, hescaped⟩

private theorem take (h : t.Follows s) (hitem : item.isReporting = false) {value : Option String}
    (hs : s.take item value = .ok s') :
    ∃ t', t.take item value = .ok t' ∧ t'.Follows s' ∧ s'.escaped = s.escaped := by
  cases value with
  | none => exact h.await hitem hs
  | some v => exact h.attach hitem hs

/-- Two dashes end the options of both readings. -/
theorem escape (h : t.Follows s) :
    Follows { t with escaped := true } { s with escaped := true } where
  coherent := ⟨h.coherent.awaiting, h.coherent.pending⟩
  escaped := rfl
  awaiting := h.awaiting
  operandCount := h.operandCount
  supplied := by
    intro hawaiting
    rw [h.supplied hawaiting]
    rfl
  settled := by
    intro s₀ hsettle
    rw [settle_escape] at hsettle ⊢
    cases hs : s.settle with
    | error fault =>
      rw [hs] at hsettle
      cases hsettle
    | ok s₁ =>
      rw [hs] at hsettle
      cases hsettle
      rw [h.settled s₁ hs]
      rfl

/-- The value of a pending option is taken by both readings. -/
theorem supply (h : t.Follows s) (hawaiting : s.awaiting = true) (value : String) :
    (t.supply value).Follows (s.supply value) := by
  obtain rfl := h.supplied hawaiting
  obtain ⟨item, hpending⟩ := h.coherent.awaiting hawaiting
  have hsupplied : (s.supply value).pending = some (item, some value) := by
    rw [LevelState.supply, hpending]
    rfl
  have hcoherent : (s.supply value).Coherent :=
    coherent_of_pending hsupplied (fun hs => by cases hs) (h.coherent.pending item none hpending)
  exact hcoherent.follows

private theorem operand (h : t.Follows s) {arg : String} (hs : s.operand level arg = .ok s') :
    ∃ t', t.operand level arg = .ok t' ∧ t'.Follows s' ∧ s'.escaped = s.escaped := by
  obtain ⟨item, s₀, hitem, hsettle, rfl⟩ := operand_eq_ok_iff.mp hs
  obtain ⟨-, hawaiting, hescaped, -⟩ := h.coherent.settled hsettle
  have hcoherent : Coherent
      { s₀ with pending := some (item, some arg), operandCount := s₀.operandCount + 1 } :=
    coherent_of_pending rfl (fun hs => absurd hs (Bool.eq_false_iff.mp hawaiting))
      (level.not_isReporting_operand item (List.mem_of_getElem? hitem))
  rw [← h.operandCount] at hitem
  exact ⟨_, operand_eq_ok_iff.mpr ⟨item, _, hitem, h.settled s₀ hsettle, rfl⟩, hcoherent.follows,
    hescaped⟩

/-- At the end of a level both readings have the same items but for the flags. -/
theorem finish (h : t.Follows s) {isLast : Bool} {given : Given}
    (hs : s.finish level isLast = .ok given) : t.finish level isLast = .ok given.unreporting := by
  obtain ⟨s₀, hsettle, hlast, hconflict, hrequired, rfl⟩ := finish_eq_ok_iff.mp hs
  refine finish_eq_ok_iff.mpr ⟨_, h.settled s₀ hsettle, hlast, ?_, ?_, rfl⟩
  · rw [hasConflict, List.any_eq_false] at hconflict ⊢
    intro pair hpair hboth
    rw [Bool.and_eq_true] at hboth
    refine hconflict pair hpair ?_
    rw [Given.any_of_unreporting hboth.1, Given.any_of_unreporting hboth.2, Bool.and_self]
  · rw [List.any_eq_false] at hrequired ⊢
    intro item hitem
    have hnot := hrequired item hitem
    rwa [← Given.any_item_unreporting (level.not_isReporting_required item hitem)] at hnot

private theorem flag (h : t.Follows s) (hitem : item.isReporting = false)
    (hs : s.flag item = .ok s') :
    ∃ t', t.flag item = .ok t' ∧ t'.Follows s' ∧ s'.escaped = s.escaped := by
  obtain ⟨hhelp, hversion, hattach⟩ := flag_eq_ok_iff.mp hs
  obtain ⟨t', ht, hfollows⟩ := h.attach hitem hattach
  exact ⟨t', flag_eq_ok_iff.mpr ⟨hhelp, hversion, ht⟩, hfollows⟩

/-- A long option is taken by both readings unless it is a flag for the report. -/
theorem long (h : t.Follows s) {name : String} {value : Option String}
    (hname : value = none → name ∉ reportingNames) (hs : s.long level name value = .ok s') :
    ∃ t', t.long level name value = .ok t' ∧ t'.Follows s' ∧ s'.escaped = s.escaped := by
  obtain ⟨o, hfound, ⟨htakes, htake⟩ | ⟨htakes, rfl, hflag⟩⟩ := long_eq_ok_iff.mp hs
  · have hitem :=
      level.not_isReporting_of_takesValue o (List.mem_of_find?_eq_some hfound) htakes
    obtain ⟨t', ht', hfollows⟩ := h.take hitem htake
    exact ⟨t', long_eq_ok_iff.mpr ⟨o, hfound, .inl ⟨htakes, ht'⟩⟩, hfollows⟩
  · have hitem : o.item.isReporting = false := by
      refine Bool.eq_false_iff.mpr fun hreports => ?_
      exact hname rfl ((Level.isReporting_iff hfound).mp hreports)
    obtain ⟨t', ht', hfollows⟩ := h.flag hitem hflag
    exact ⟨t', long_eq_ok_iff.mpr ⟨o, hfound, .inr ⟨htakes, rfl, ht'⟩⟩, hfollows⟩

private theorem passLong (h : t.Follows s) {name : String} (hname : name ∈ reportingNames)
    (hs : s.long level name none = .ok s') : t.Follows s' ∧ s'.escaped = s.escaped := by
  obtain ⟨o, hfound, hcase⟩ := long_eq_ok_iff.mp hs
  have hitem : o.item.isReporting = true := (Level.isReporting_iff hfound).mpr hname
  rcases hcase with ⟨htakes, -⟩ | ⟨-, -, hflag⟩
  · rw [level.not_isReporting_of_takesValue o (List.mem_of_find?_eq_some hfound) htakes] at hitem
    cases hitem
  · exact h.pass hitem hflag

/-- Of letters of short options the reading without flags takes those that are left. -/
theorem short (h : t.Follows s) {letters : List Char} (hs : s.short level letters = .ok s') :
    ∃ t', t.short level (plainLetters letters) = .ok t' ∧ t'.Follows s' ∧
      s'.escaped = s.escaped := by
  induction letters generalizing s t with
  | nil =>
    cases hs
    exact ⟨t, rfl, h, rfl⟩
  | cons c rest ih =>
    obtain ⟨o, hfound, hcase⟩ := short_cons_eq_ok_iff.mp hs
    obtain ⟨hreporting, hverbose, hother, -⟩ := Level.letter_cases hfound
    rcases hcase with ⟨htakes, htake⟩ | ⟨htakes, s₁, hflag, hrest⟩
    · have hitem :=
        level.not_isReporting_of_takesValue o (List.mem_of_find?_eq_some hfound) htakes
      have hleft : plainLetters (c :: rest) = c :: rest := by
        rw [plainLetters, if_neg (by simp [hreporting, hitem]), if_neg fun hv => ?_]
        rw [hverbose hv] at htakes
        cases htakes
      obtain ⟨t', ht', hfollows⟩ := h.take hitem htake
      rw [hleft]
      exact ⟨t', short_cons_eq_ok_iff.mpr ⟨o, hfound, .inl ⟨htakes, ht'⟩⟩, hfollows⟩
    · cases hitem : o.item.isReporting with
      | true =>
        obtain ⟨hfollows, hescaped⟩ := h.pass hitem hflag
        obtain ⟨t', ht', hfollows', hescaped'⟩ := ih hfollows hrest
        rw [plainLetters, if_pos (hreporting.mpr hitem)]
        exact ⟨t', ht', hfollows', hescaped'.trans hescaped⟩
      | false =>
        obtain ⟨hhelp, hversion, -⟩ := flag_eq_ok_iff.mp hflag
        have hv : c = 'v' := by
          rcases hother htakes with hv | hyes | hyes | hyes
          · exact hv
          · rw [hitem] at hyes
            cases hyes
          · exact absurd hyes hhelp
          · exact absurd hyes hversion
        obtain ⟨t₁, ht₁, hfollows, hescaped⟩ := h.flag hitem hflag
        obtain ⟨t', ht', hfollows', hescaped'⟩ := ih hfollows hrest
        rw [plainLetters, if_neg (by simp [hreporting, hitem]), if_pos hv]
        exact ⟨t', short_cons_eq_ok_iff.mpr ⟨o, hfound, .inr ⟨htakes, t₁, ht₁, ht'⟩⟩, hfollows',
          hescaped'.trans hescaped⟩

end Follows
end LevelState

private theorem follows_initial : LevelState.initial.Follows .initial := by
  have hcoherent : LevelState.initial.Coherent := LevelState.coherent_of_settled rfl rfl
  exact hcoherent.follows

section

variable {level : Level} {s t : LevelState} {arg : String} {rest : List String}
  {levels : List (Level × Given)}

def unreportingLevels (levels : List (Level × Given)) : List (Level × Given) :=
  levels.map fun l => (l.1, l.2.unreporting)

private theorem readLevels_nil (h : t.Follows s) (hs : readLevels level s [] = .ok levels) :
    readLevels level t [] = .ok (unreportingLevels levels) := by
  obtain ⟨given, hfinish, rfl⟩ := readLevels_nil_eq_ok_iff.mp hs
  exact readLevels_nil_eq_ok_iff.mpr ⟨_, h.finish hfinish, rfl⟩

/-- Behind two dashes the arguments are the same in both readings. -/
theorem readLevels_escaped {args : List String} (h : t.Follows s) (hescaped : s.escaped = true)
    (hs : readLevels level s args = .ok levels) :
    readLevels level t args = .ok (unreportingLevels levels) := by
  induction args generalizing s t with
  | nil => exact readLevels_nil h hs
  | cons arg rest ih =>
    cases readLevels_cons_iff.mp hs with
    | escaped _ hoperand hrest =>
      obtain ⟨t', ht', hfollows, hkept⟩ := h.operand hoperand
      exact readLevels_cons_iff.mpr (.escaped (h.escaped.trans hescaped) ht'
        (ih hfollows (hkept.trans hescaped) hrest))
    | deeper hnot | option hnot | value hnot | operand hnot =>
      rw [hescaped] at hnot
      cases hnot

private theorem plainArguments_of_isPlain (h : (ArgumentForm.ofText arg).isPlain = true) :
    plainArguments (arg :: rest) = arg :: plainArguments rest := by
  rw [plainArguments, ArgumentForm.eq_plain_of_isPlain h]

private theorem ofText_short {c : Char} {letters : List Char} (hc : c ≠ '-') :
    ArgumentForm.ofText (String.ofList ('-' :: c :: letters)) = .short (c :: letters) := by
  rw [ArgumentForm.ofText, String.toList_ofList]
  simp [hc]

private theorem plainArguments_dashed {s' : LevelState} (h : t.Follows s)
    (hform : (ArgumentForm.ofText arg).isPlain = false) (hescape : ArgumentForm.ofText arg ≠ .escape)
    (hoption : s.dashed level (.ofText arg) = .ok s') :
    s'.escaped = s.escaped ∧
    (plainArguments (arg :: rest) = plainArguments rest ∧ t.Follows s' ∨
    ∃ left t', plainArguments (arg :: rest) = left :: plainArguments rest ∧
      (ArgumentForm.ofText left).isPlain = false ∧ t.dashed level (.ofText left) = .ok t' ∧
      t'.Follows s') := by
  cases hofText : ArgumentForm.ofText arg with
  | escape => exact absurd hofText hescape
  | plain =>
    rw [hofText] at hform
    cases hform
  | long name value =>
    rw [plainArguments, hofText]
    rw [hofText] at hoption
    by_cases hreports : value = none ∧ name ∈ reportingNames
    · obtain ⟨rfl, hname⟩ := hreports
      obtain ⟨hfollows, hkept⟩ := h.passLong hname hoption
      exact ⟨hkept, .inl ⟨if_pos hname, hfollows⟩⟩
    · have hname : value = none → name ∉ reportingNames := fun hnone hin => hreports ⟨hnone, hin⟩
      obtain ⟨t', ht', hfollows, hkept⟩ := h.long hname hoption
      refine ⟨hkept, .inr ⟨arg, t', ?_, hform, ?_, hfollows⟩⟩
      · cases value with
        | none => exact if_neg (hname rfl)
        | some v => rfl
      · rw [hofText]
        exact ht'
  | short letters =>
    rw [plainArguments, hofText]
    rw [hofText] at hoption
    obtain ⟨t', ht', hfollows, hkept⟩ := h.short hoption
    cases hleft : plainLetters letters with
    | nil =>
      rw [hleft] at ht'
      cases ht'
      refine ⟨hkept, .inl ⟨?_, hfollows⟩⟩
      dsimp only
      rw [hleft]
      rfl
    | cons c left =>
      rw [hleft] at ht'
      obtain ⟨o, hfound, -⟩ := LevelState.short_cons_eq_ok_iff.mp ht'
      obtain ⟨-, -, -, hdash⟩ := Level.letter_cases hfound
      refine ⟨hkept, .inr ⟨String.ofList ('-' :: c :: left), t', ?_, ?_, ?_, hfollows⟩⟩
      · dsimp only
        rw [hleft]
        rfl
      · rw [ofText_short hdash]
        rfl
      · rw [ofText_short hdash]
        exact ht'

/-- Arguments that are read with success are read without the flags for the report as well, and every
level is given the same but for these flags. The induction is over any reading that follows, since a
flag that is passed over leaves the two readings apart. -/
theorem readLevels_plainArguments {args : List String} (h : t.Follows s)
    (hescaped : s.escaped = false) (hs : readLevels level s args = .ok levels) :
    readLevels level t (plainArguments args) = .ok (unreportingLevels levels) := by
  induction args generalizing level s t levels with
  | nil => exact readLevels_nil h hs
  | cons arg rest ih =>
    have ht : t.escaped = false := h.escaped.trans hescaped
    cases readLevels_cons_iff.mp hs with
    | escaped hnot =>
      rw [hescaped] at hnot
      cases hnot
    | deeper _ hform hawaiting hnamed hbelow hfinish hlevels =>
      rw [plainArguments_of_isPlain hform, hlevels]
      exact readLevels_cons_iff.mpr (.deeper ht hform (h.awaiting.trans hawaiting) hnamed
        (ih follows_initial rfl hbelow) (h.finish hfinish) rfl)
    | value _ hform hawaiting hrest =>
      rw [plainArguments_of_isPlain hform]
      exact readLevels_cons_iff.mpr (.value ht hform (h.awaiting.trans hawaiting)
        (ih (h.supply hawaiting arg) hescaped hrest))
    | operand _ hform hawaiting hunnamed hhelp hoperand hrest =>
      obtain ⟨t', ht', hfollows, hkept⟩ := h.operand hoperand
      rw [plainArguments_of_isPlain hform]
      exact readLevels_cons_iff.mpr (.operand ht hform (h.awaiting.trans hawaiting) hunnamed hhelp
        ht' (ih hfollows (hkept.trans hescaped) hrest))
    | option _ hform hoption hrest =>
      by_cases hescape : ArgumentForm.ofText arg = .escape
      · rw [hescape] at hoption
        cases hoption
        have hdashed : t.dashed level (.ofText arg) = .ok { t with escaped := true } := by
          rw [hescape]
          rfl
        rw [plainArguments, hescape]
        exact readLevels_cons_iff.mpr (.option ht hform hdashed
          (readLevels_escaped h.escape rfl hrest))
      · obtain ⟨hkept, ⟨hplain, hfollows⟩ | ⟨left, t', hplain, hform', hoption', hfollows⟩⟩ :=
          @plainArguments_dashed level s t arg rest _ h hform hescape hoption
        · rw [hplain]
          exact ih hfollows (hkept.trans hescaped) hrest
        · rw [hplain]
          exact readLevels_cons_iff.mpr (.option ht hform' hoption'
            (ih hfollows (hkept.trans hescaped) hrest))

end

namespace Invocation

def unreporting (invocation : Invocation) : Invocation :=
  ⟨invocation.configPath, false, false, false, invocation.action⟩

private theorem actionOf_unreporting (level : Level) (given : Given) :
    actionOf level given.unreporting = actionOf level given := by
  cases level <;> simp (disch := decide) only [actionOf, Given.value?_unreporting]

private theorem innermost_unreporting {item : Item} (hitem : item.isReporting = false)
    (levels : List (Level × Given)) :
    (unreportingLevels levels).findSome? (fun l => l.2.value? item) =
      levels.findSome? fun l => l.2.value? item := by
  rw [unreportingLevels, List.findSome?_map]
  refine congrArg (List.findSome? · levels) (funext fun l => ?_)
  exact Given.value?_unreporting hitem

private theorem innermost_unreporting_none {item : Item} (hitem : item.isReporting = true)
    (levels : List (Level × Given)) :
    (unreportingLevels levels).findSome? (fun l => l.2.value? item) = none := by
  rw [unreportingLevels, List.findSome?_map, List.findSome?_eq_none_iff]
  intro l _
  exact Given.value?_unreporting_none hitem

private theorem ofLevels_unreportingLevels {levels : List (Level × Given)}
    {invocation : Invocation} (h : ofLevels levels = .ok invocation) :
    ofLevels (unreportingLevels levels) = .ok invocation.unreporting := by
  have hreverse : (unreportingLevels levels).reverse = unreportingLevels levels.reverse :=
    List.map_reverse.symm
  obtain ⟨level, given, above, action, hinward, haction, rfl⟩ := ofLevels_eq_ok_iff.mp h
  refine ofLevels_eq_ok_iff.mpr
    ⟨level, given.unreporting, unreportingLevels above, action, ?_, ?_, ?_⟩
  · rw [hreverse, hinward]
    rfl
  · rw [actionOf_unreporting, haction]
  · rw [hreverse, innermost_unreporting rfl, innermost_unreporting_none rfl,
      innermost_unreporting_none rfl, innermost_unreporting_none rfl]
    rfl

/-- A command line that is accepted is accepted without the flags for the report, and it then makes
the same invocation but for them. -/
theorem ofArguments_plainArguments {args : List String} {invocation : Invocation}
    (h : ofArguments args = .ok invocation) :
    ofArguments (plainArguments args) = .ok invocation.unreporting := by
  rw [ofArguments] at h ⊢
  cases hlevels : readLevels .top .initial args with
  | error fault =>
    rw [hlevels] at h
    cases h
  | ok levels =>
    rw [hlevels] at h
    rw [readLevels_plainArguments follows_initial rfl hlevels]
    exact ofLevels_unreportingLevels h

end Invocation
end CartCriteria
