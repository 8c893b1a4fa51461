import CartCriteria.Config.Reader

/-! Where the threshold stands in a document. Both kinds of documents find the same number there,
and a document that is a configuration but for that number has what its kind makes of it as its
threshold. -/
namespace CartCriteria

namespace StringPiece

/-- Whether each pair of surrogates denotes a character beyond the first plane. -/
def PairsAreHigh (pair : Nat → Nat → Char) : Prop :=
  ∀ u < 0x400, ∀ t < 0x400, 0x10000 ≤ (pair u t).toNat

private theorem toNat_ofNat {n : Nat} (hn : 0xDFFF < n ∧ n < 0x110000) :
    (Char.ofNat n).toNat = n := by
  rw [Char.ofNat, dif_pos (.inr hn)]
  rfl

/-- Two escapes that a strict document pairs denote no character of the first plane. -/
theorem strict_pairs : PairsAreHigh Strict.reading.pair := by
  intro u hu t ht
  rw [Strict.reading]
  dsimp only
  rw [Strict.pairChar, toNat_ofNat (by omega)]
  omega

/-- Nor do those that a relaxed document pairs. -/
theorem relaxed_pairs : PairsAreHigh Relaxed.reading.pair := by
  intro u hu t ht
  have hlow : 0x10000 ≤ (u * 0x400 + t) ||| 0x10000 := Nat.right_le_or
  have hhigh : (u * 0x400 + t) ||| 0x10000 < 2 ^ 20 := Nat.or_lt_two_pow (by omega) (by decide)
  rw [Relaxed.reading]
  dsimp only
  rw [Relaxed.pairChar, toNat_ofNat (by omega)]
  exact hlow

variable {pair pair' : Nat → Nat → Char}

private theorem chars?_of_low (hpair : PairsAreHigh pair) {pieces : List StringPiece}
    {cs : List Char} (h : chars? pair pieces = some cs) (hcs : ∀ c ∈ cs, c.toNat < 0x10000) :
    chars? pair' pieces = some cs := by
  induction pieces using chars?.induct generalizing cs with
  | case1 =>
    cases h
    rfl
  | case2 c rest ih =>
    obtain ⟨others, hrest, rfl⟩ := Option.map_eq_some_iff.mp h
    rw [chars?, ih hrest (List.forall_mem_cons.mp hcs).2, Option.map_some]
  | case3 u rest hu ih =>
    rw [chars?.eq_def] at h ⊢
    dsimp only at h ⊢
    rw [if_pos hu] at h ⊢
    obtain ⟨others, hrest, rfl⟩ := Option.map_eq_some_iff.mp h
    rw [ih hrest (List.forall_mem_cons.mp hcs).2, Option.map_some]
  | case4 u rest hu hlow =>
    rw [chars?.eq_def] at h
    dsimp only at h
    rw [if_neg hu, if_pos hlow] at h
    cases h
  | case5 u hu hlow t rest ht ih =>
    -- A pair would have left a high character in the text.
    rw [chars?, if_neg hu, if_neg hlow, if_pos ht] at h
    obtain ⟨others, -, rfl⟩ := Option.map_eq_some_iff.mp h
    have hhigh := hpair (u - 0xD800) (by omega) (t - 0xDC00) (by omega)
    exact absurd (hcs _ List.mem_cons_self) (Nat.not_lt.mpr hhigh)
  | case6 u hu hlow t rest ht =>
    rw [chars?, if_neg hu, if_neg hlow, if_neg ht] at h
    cases h
  | case7 u rest hu hlow hrest =>
    rw [chars?, if_neg hu, if_neg hlow] at h
    · cases h
    · exact hrest

/-- All readings whose pairs are high agree on which string is a given text of the first plane. -/
theorem text?_eq_some_iff (hpair : PairsAreHigh pair) (hpair' : PairsAreHigh pair') {name : String}
    (hname : name.toList.all (·.toNat < 0x10000) = true) (pieces : List StringPiece) :
    text? pair pieces = some name ↔ text? pair' pieces = some name := by
  have hchars : ∀ pair, text? pair pieces = some name ↔ chars? pair pieces = some name.toList := by
    intro pair
    rw [text?, Option.map_eq_some_iff]
    constructor
    · rintro ⟨cs, hcs, rfl⟩
      rw [hcs, String.toList_ofList]
    · exact fun h => ⟨_, h, String.ofList_toList⟩
  have hname : ∀ c ∈ name.toList, c.toNat < 0x10000 :=
    fun c hc => of_decide_eq_true (List.all_eq_true.mp hname c hc)
  rw [hchars, hchars]
  exact ⟨fun h => chars?_of_low hpair h hname, fun h => chars?_of_low hpair' h hname⟩

end StringPiece

namespace Config

open StringPiece

/-- The document of a field: the first member of an object with its name, or the item of an array in
its place. -/
def part? (name : String) (place : Nat) : Document → Option Document
  | .object members =>
    (members.find? fun m => text? Strict.reading.pair m.1 == some name).map (·.2)
  | .array items => items[place]?
  | _ => none

def writtenThreshold? (d : Document) : Option WrittenNumber :=
  match (part? "settings" 1 d).bind (part? "fuzzy_threshold" 1) with
  | some (.number n) => some n
  | _ => none

/-- The same kind of documents but for what the threshold is. -/
def DocumentKind.withThreshold (kind : DocumentKind) (threshold : WrittenNumber → Option Nat) :
    DocumentKind :=
  { kind with threshold }

/-- Whether a document would be a configuration if every number were a threshold. -/
def isShaped (kind : DocumentKind) (d : Document) : Bool :=
  (ofDocument? (kind.withThreshold fun _ => some 0) d).isSome

def IsBounded (threshold : WrittenNumber → Option Nat) : Prop :=
  ∀ n value, threshold n = some value → value < UInt64.size

variable {kind : DocumentKind} {d : Document} {n : WrittenNumber}

private theorem find?_of_named {name : String} (hpair : PairsAreHigh kind.reading.pair)
    (hname : name.toList.all (·.toNat < 0x10000) = true)
    {members : List (List StringPiece × Document)} {named : List (String × Document)}
    (h : (members.mapM fun (key, d) => do
      let name ← text? kind.reading.pair key
      return (name, d)) = some named) :
    (members.find? fun m => text? Strict.reading.pair m.1 == some name).map (·.2) =
      (named.find? fun m => m.1 == name).map (·.2) := by
  induction members generalizing named with
  | nil =>
    cases h
    rfl
  | cons member members ih =>
    obtain ⟨key, part⟩ := member
    rw [List.mapM_cons] at h
    obtain ⟨first, hfirst, h⟩ := Option.bind_eq_some_iff.mp h
    obtain ⟨others, hothers, h⟩ := Option.bind_eq_some_iff.mp h
    cases h
    obtain ⟨text, htext, hfirst⟩ := Option.bind_eq_some_iff.mp hfirst
    cases hfirst
    have hsame := text?_eq_some_iff hpair strict_pairs hname key
    rw [htext, Option.some_inj] at hsame
    have hkey : (text? Strict.reading.pair key == some name) = (text == name) := by
      rw [Bool.eq_iff_iff, beq_iff_eq, beq_iff_eq]
      exact hsame.symm
    rw [List.find?_cons, List.find?_cons]
    dsimp only
    rw [hkey]
    cases text == name with
    | true => rfl
    | false => exact ih hothers

private theorem given_eq {names : List String} {named : List (String × Document)}
    {fields : List (Option Document)}
    (h : (names.mapM fun name =>
      match named.filter fun m => m.1 == name with
      | [] => some none
      | [m] => some (some m.2)
      | _ => none) = some fields) :
    fields = names.map fun name => (named.find? fun m => m.1 == name).map (·.2) := by
  induction names generalizing fields with
  | nil =>
    cases h
    rfl
  | cons name names ih =>
    rw [List.mapM_cons] at h
    obtain ⟨field, hfield, h⟩ := Option.bind_eq_some_iff.mp h
    obtain ⟨others, hothers, h⟩ := Option.bind_eq_some_iff.mp h
    cases h
    rw [List.map_cons, ← ih hothers, ← List.head?_filter]
    split at hfield
    · rename_i hgiven
      cases hfield
      rw [hgiven]
      rfl
    · rename_i m hgiven
      cases hfield
      rw [hgiven]
      rfl
    · cases hfield

/-- The fields that a kind of documents finds are the parts of the document. -/
theorem fieldsOf?_eq_parts {first second : String} {fields : List (Option Document)}
    (hpair : PairsAreHigh kind.reading.pair)
    (hfirst : first.toList.all (·.toNat < 0x10000) = true)
    (hsecond : second.toList.all (·.toNat < 0x10000) = true)
    (h : fieldsOf? kind [first, second] d = some fields) :
    fields = [part? first 0 d, part? second 1 d] := by
  cases d with
  | object members =>
    obtain ⟨named, hnamed, h⟩ := Option.bind_eq_some_iff.mp h
    dsimp only at h
    split at h
    · rw [given_eq h, List.map_cons, List.map_cons, List.map_nil,
        ← find?_of_named hpair hfirst hnamed, ← find?_of_named hpair hsecond hnamed]
      rfl
    · cases h
  | array items =>
    rw [fieldsOf?] at h
    split at h
    · cases h
      rfl
    · cases h
  | _ => cases h

private theorem fieldsOf?_withThreshold (threshold : WrittenNumber → Option Nat)
    (names : List String) (d : Document) :
    fieldsOf? (kind.withThreshold threshold) names d = fieldsOf? kind names d := by
  cases d <;> rfl

private theorem threshold_of_name {threshold : WrittenNumber → Option Nat}
    (hbounded : IsBounded threshold) (name : Option (Option String)) :
    (do
      let name ← name
      let number ← threshold n
      if h : number < UInt64.size then return ⟨name, number, h⟩ else none : Option Settings).map
        (·.threshold) = if name.isSome then threshold n else none := by
  cases name with
  | none => rfl
  | some name =>
    cases hvalue : threshold n with
    | none => rfl
    | some value =>
      have hfits := hbounded n value hvalue
      simp only [Option.bind_eq_bind, Option.bind_some, dif_pos hfits]
      rfl

private theorem exists_shape_settings? (hpair : PairsAreHigh kind.reading.pair)
    (hn : part? "fuzzy_threshold" 1 d = some (.number n)) :
    ∃ shaped : Bool, ∀ threshold, IsBounded threshold →
      (settings? (kind.withThreshold threshold) d).map (·.threshold) =
        if shaped then threshold n else none := by
  cases hfields : fieldsOf? kind ["default_rule", "fuzzy_threshold"] d with
  | none =>
    refine ⟨false, fun threshold _ => ?_⟩
    rw [settings?, fieldsOf?_withThreshold, hfields]
    rfl
  | some fields =>
    obtain rfl := fieldsOf?_eq_parts hpair (by decide) (by decide) hfields
    cases hname : part? "default_rule" 0 d with
    | none =>
      refine ⟨true, fun threshold hbounded => ?_⟩
      rw [settings?, fieldsOf?_withThreshold, hfields, hname, hn]
      exact threshold_of_name hbounded (some none)
    | some name =>
      refine ⟨(defaultRule? kind name).isSome, fun threshold hbounded => ?_⟩
      rw [settings?, fieldsOf?_withThreshold, hfields, hname, hn]
      exact threshold_of_name hbounded (defaultRule? kind name)

private theorem threshold_of_rules (rules : Option (List (String × Json)))
    (settings : Option Settings) :
    (do
      let bindings ← rules
      let settings ← settings
      return ⟨Dictionary.ofList bindings, Dictionary.sorted_ofList bindings, settings⟩ :
      Option Config).map (·.settings.threshold) =
      if rules.isSome then settings.map (·.threshold) else none := by
  cases rules <;> cases settings <;> rfl

private theorem exists_shape (hpair : PairsAreHigh kind.reading.pair)
    (hn : writtenThreshold? d = some n) :
    ∃ shaped : Bool, ∀ threshold, IsBounded threshold →
      (ofDocument? (kind.withThreshold threshold) d).map (·.settings.threshold) =
        if shaped then threshold n else none := by
  obtain ⟨part, hpart, hnumber⟩ : ∃ part, part? "settings" 1 d = some part ∧
      part? "fuzzy_threshold" 1 part = some (.number n) := by
    rw [writtenThreshold?] at hn
    split at hn
    · rename_i hboth
      cases hn
      exact Option.bind_eq_some_iff.mp hboth
    · cases hn
  obtain ⟨settingsShaped, hsettings⟩ := exists_shape_settings? hpair hnumber
  cases hfields : fieldsOf? kind ["rules", "settings"] d with
  | none =>
    refine ⟨false, fun threshold _ => ?_⟩
    rw [ofDocument?, fieldsOf?_withThreshold, hfields]
    rfl
  | some fields =>
    obtain rfl := fieldsOf?_eq_parts hpair (by decide) (by decide) hfields
    cases hrules : part? "rules" 0 d with
    | none =>
      refine ⟨settingsShaped, fun threshold hbounded => ?_⟩
      rw [ofDocument?, fieldsOf?_withThreshold, hfields, hrules, hpart]
      exact (threshold_of_rules (some []) _).trans (hsettings threshold hbounded)
    | some rules =>
      refine ⟨(rules? kind rules).isSome && settingsShaped, fun threshold hbounded => ?_⟩
      rw [ofDocument?, fieldsOf?_withThreshold, hfields, hrules, hpart]
      refine (threshold_of_rules (rules? kind rules) _).trans ?_
      rw [hsettings threshold hbounded]
      cases (rules? kind rules).isSome <;> rfl

/-- A document whose threshold is a number has what its kind makes of it as its threshold, if it is
well shaped apart from it. -/
theorem threshold_of_ofDocument? (hpair : PairsAreHigh kind.reading.pair)
    (hbounded : IsBounded kind.threshold) (hn : writtenThreshold? d = some n) :
    (ofDocument? kind d).map (·.settings.threshold) =
      if isShaped kind d then kind.threshold n else none := by
  obtain ⟨shaped, hshaped⟩ := exists_shape hpair hn
  have hzero := hshaped (fun _ => some 0) fun _ _ h => by cases h; decide
  have hsame : isShaped kind d = shaped := by
    rw [isShaped, ← Option.isSome_map (f := fun config : Config => config.settings.threshold),
      hzero]
    cases shaped <;> rfl
  rw [hsame]
  exact hshaped kind.threshold hbounded

end Config
end CartCriteria
