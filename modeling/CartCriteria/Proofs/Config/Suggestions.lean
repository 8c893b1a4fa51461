import CartCriteria.Config.Suggestion
import CartCriteria.Proofs.Dictionary
import CartCriteria.Proofs.Text.Utf8

/-! Which rule names are suggested for a mistyped one, and in which order. A name is compared by its
lower-cased form; names with the same form are still different names. -/
namespace CartCriteria.Config
open Text

variable {config other : Config} {query name : String}

def Extends (query name : String) : Prop :=
  (lowercase query).toList <+: (lowercase name).toList

instance (query name : String) : Decidable (Extends query name) :=
  inferInstanceAs (Decidable (_ <+: _))

/-- How far a name is from a query: not at all when it extends the query, else by the edits that
turn one into the other in lower case. -/
def nearness (query name : String) : Nat :=
  if Extends query name then 0 else editDistance (lowercase query) (lowercase name)

/-- One name is suggested before another: it is nearer, or as near and lower by its bytes. -/
def SuggestedBefore (query a b : String) : Prop :=
  nearness query a < nearness query b ∨
    nearness query a = nearness query b ∧ bytes8 a < bytes8 b

private theorem nearness_le_iff {threshold : Nat} :
    nearness query name ≤ threshold ↔
      Extends query name ∨ editDistance (lowercase query) (lowercase name) ≤ threshold := by
  by_cases hextends : Extends query name
  · rw [nearness, if_pos hextends]
    exact ⟨fun _ => .inl hextends, fun _ => Nat.zero_le _⟩
  · rw [nearness, if_neg hextends, or_iff_right hextends]

/-- A name in the letters of the query extends it. -/
theorem extends_of_lowercase_eq (h : lowercase name = lowercase query) : Extends query name :=
  ⟨[], by rw [List.append_nil, h]⟩

private theorem lowerAfter_append {before cs rest : List Char} (h : '\u03A3' ∉ cs) :
    lowerAfter before (cs ++ rest) =
      lowerAfter before cs ++ lowerAfter (cs.reverse ++ before) rest := by
  induction cs generalizing before with
  | nil => rfl
  | cons c cs ih =>
    obtain ⟨hc, hcs⟩ := not_or.mp (mt List.mem_cons.mpr h)
    rw [List.cons_append, lowerAfter, if_neg (Ne.symm hc), lowerAfter, if_neg (Ne.symm hc), ih hcs,
      List.append_assoc, List.reverse_cons, List.append_assoc, List.singleton_append]

/-- A name that begins with the query as it stands extends it, unless the query has a capital sigma:
the lower-case form of that letter depends on what follows. -/
theorem extends_of_isPrefix (hsigma : '\u03A3' ∉ query.toList)
    (h : query.toList <+: name.toList) : Extends query name := by
  obtain ⟨rest, hrest⟩ := h
  rw [Extends, lowercase, lowercase, String.toList_ofList, String.toList_ofList, ← hrest,
    lowerAfter_append hsigma]
  exact List.prefix_append _ _

private theorem distance_eq_nearness :
    distance (lowercase query) (lowercase name) = nearness query name := by
  by_cases h : Extends query name
  · rw [nearness, if_pos h, distance, if_pos (List.isPrefixOf_iff_prefix.mpr h)]
  · rw [nearness, if_neg h, distance, if_neg (mt List.isPrefixOf_iff_prefix.mp h)]

private theorem comesFirst_iff (a b : Nat × String) :
    comesFirst a b = true ↔ a.1 < b.1 ∨ a.1 = b.1 ∧ a.2 ≤ b.2 := by
  rw [Std.le_iff_lt_or_eq]
  simp [comesFirst]

private theorem comesFirst_trans (a b c : Nat × String) (hab : comesFirst a b = true)
    (hbc : comesFirst b c = true) : comesFirst a c = true := by
  rw [comesFirst_iff] at *
  rcases hab with hab | ⟨hab, hle⟩ <;> rcases hbc with hbc | ⟨hbc, hle'⟩
  · exact .inl (by omega)
  · exact .inl (by omega)
  · exact .inl (by omega)
  · exact .inr ⟨hab.trans hbc, String.le_trans hle hle'⟩

private theorem comesFirst_total (a b : Nat × String) :
    (comesFirst a b || comesFirst b a) = true := by
  rw [Bool.or_eq_true, comesFirst_iff, comesFirst_iff]
  rcases Nat.lt_trichotomy a.1 b.1 with hlt | heq | hgt
  · exact .inl (.inl hlt)
  · exact (String.le_total a.2 b.2).imp (fun h => .inr ⟨heq, h⟩) fun h => .inr ⟨heq.symm, h⟩
  · exact .inr (.inl hgt)

private def near (config : Config) (query : String) : List (Nat × String) :=
  (config.distances query).filter fun c => c.1 ≤ config.settings.threshold

private theorem similarNames_eq :
    config.similarNames query = ((near config query).mergeSort comesFirst).map (·.2) :=
  rfl

private theorem distances_eq :
    config.distances query = config.rules.map fun entry => (nearness query entry.1, entry.1) := by
  simp only [distances, distance_eq_nearness]

private theorem mem_distances {d : Nat} :
    (d, name) ∈ config.distances query ↔
      nearness query name = d ∧ (config.rule? name).isSome = true := by
  rw [distances_eq, List.mem_map]
  simp only [Prod.mk.injEq]
  constructor
  · rintro ⟨entry, hentry, hdistance, rfl⟩
    refine ⟨hdistance, ?_⟩
    rw [rule?, Dictionary.find?_of_mem config.rulesSorted hentry]
    rfl
  · rintro ⟨hdistance, hrule⟩
    obtain ⟨rule, hrule⟩ := Option.isSome_iff_exists.mp hrule
    exact ⟨(name, rule), Dictionary.mem_of_find? hrule, hdistance, rfl⟩

private theorem mem_near {d : Nat} :
    (d, name) ∈ near config query ↔
      nearness query name = d ∧ (config.rule? name).isSome = true ∧
        d ≤ config.settings.threshold := by
  rw [near, List.mem_filter, mem_distances, decide_eq_true_eq, and_assoc]

/-- The names that are suggested are the rules near the query. -/
theorem mem_similarNames :
    name ∈ config.similarNames query ↔
      (config.rule? name).isSome = true ∧ nearness query name ≤ config.settings.threshold := by
  rw [similarNames_eq, List.mem_map]
  constructor
  · rintro ⟨⟨d, name⟩, hnear, rfl⟩
    obtain ⟨rfl, hrule, hthreshold⟩ := mem_near.mp (List.mem_mergeSort.mp hnear)
    exact ⟨hrule, hthreshold⟩
  · rintro ⟨hrule, hthreshold⟩
    have hnear : (nearness query name, name) ∈ near config query :=
      mem_near.mpr ⟨rfl, hrule, hthreshold⟩
    exact ⟨_, List.mem_mergeSort.mpr hnear, rfl⟩

/-- No name is suggested twice. -/
theorem nodup_similarNames (config : Config) (query : String) :
    (config.similarNames query).Nodup := by
  have hkeys : ((config.distances query).map (·.2)).Nodup := by
    rw [distances, List.map_map]
    exact List.pairwise_map.mpr (config.rulesSorted.imp String.ne_of_lt)
  have hnear : ((near config query).map (·.2)).Nodup :=
    hkeys.sublist (List.filter_sublist.map _)
  rw [similarNames_eq, ((List.mergeSort_perm _ _).map _).nodup_iff]
  exact hnear

/-- The suggestions stand in strictly increasing order. -/
theorem pairwise_similarNames (config : Config) (query : String) :
    (config.similarNames query).Pairwise (SuggestedBefore query) := by
  have hsorted := List.pairwise_mergeSort comesFirst_trans comesFirst_total (near config query)
  have hnodup := nodup_similarNames config query
  rw [similarNames_eq] at *
  rw [List.Nodup, List.pairwise_map] at hnodup
  rw [List.pairwise_map]
  refine (hsorted.and hnodup).imp_of_mem ?_
  rintro ⟨d, a⟩ ⟨e, b⟩ ha hb ⟨hfirst, hne⟩
  rw [comesFirst_iff] at hfirst
  rw [SuggestedBefore, (mem_near.mp (List.mem_mergeSort.mp ha)).1,
    (mem_near.mp (List.mem_mergeSort.mp hb)).1, ← lt_iff_bytes8_lt]
  exact hfirst.imp_right fun hname => ⟨hname.1, Std.lt_of_le_of_ne hname.2 hne⟩

private theorem isPrefix_filter {α : Type} {p : α → Bool} {l : List α}
    (h : l.Pairwise fun a b => p b = true → p a = true) : l.filter p <+: l := by
  induction l with
  | nil => exact List.prefix_refl _
  | cons a rest ih =>
    obtain ⟨hhead, hrest⟩ := List.pairwise_cons.mp h
    by_cases ha : p a = true
    · rw [List.filter_cons_of_pos ha]
      exact List.cons_prefix_cons.mpr ⟨rfl, ih hrest⟩
    · have hnone : (a :: rest).filter p = [] := by
        rw [List.filter_cons_of_neg ha, List.filter_eq_nil_iff]
        exact fun b hb hpb => ha (hhead b hb hpb)
      rw [hnone]
      exact List.nil_prefix

private theorem SuggestedBefore.asymm {a b : String} (hab : SuggestedBefore query a b) :
    ¬ SuggestedBefore query b a := by
  rintro (hba | ⟨heq, hba⟩)
  · rcases hab with hab | ⟨heq, -⟩
    · omega
    · omega
  · rcases hab with hab | ⟨-, hab⟩
    · omega
    · exact List.lt_asymm hab hba

private theorem SuggestedBefore.le {a b : String} (h : SuggestedBefore query a b) :
    nearness query a ≤ nearness query b :=
  h.elim Nat.le_of_lt fun h => Nat.le_of_eq h.1

/-- A greater threshold adds suggestions at the end. -/
theorem isPrefix_similarNames (hrules : other.rules = config.rules)
    (hthreshold : config.settings.threshold ≤ other.settings.threshold) :
    config.similarNames query <+: other.similarNames query := by
  have hnear : config.similarNames query = (other.similarNames query).filter
      fun name => nearness query name ≤ config.settings.threshold := by
    have hperm : (config.similarNames query).Perm ((other.similarNames query).filter
        fun name => nearness query name ≤ config.settings.threshold) := by
      rw [List.perm_ext_iff_of_nodup (nodup_similarNames config query)
        ((nodup_similarNames other query).filter _)]
      intro name
      rw [List.mem_filter, mem_similarNames, mem_similarNames, rule?, rule?, hrules,
        decide_eq_true_eq, and_assoc]
      exact and_congr_right fun _ =>
        ⟨fun hnear => ⟨Nat.le_trans hnear hthreshold, hnear⟩, And.right⟩
    exact hperm.eq_of_pairwise (fun _ _ _ _ hab hba => absurd hba hab.asymm)
      (pairwise_similarNames config query) ((pairwise_similarNames other query).filter _)
  rw [hnear]
  refine isPrefix_filter ((pairwise_similarNames other query).imp fun hbefore => ?_)
  simp only [decide_eq_true_eq]
  exact Nat.le_trans hbefore.le

/-- The suggestions are the rules that extend the query or are within the threshold of it, each
once, the nearest first and names at one distance by their bytes. A greater threshold only adds
names at the end, and no threshold is too low for a rule that extends the query or is equal to it
but for case. -/
theorem similarNames_exact (config : Config) (query : String) :
    (∀ name, name ∈ config.similarNames query ↔
      (config.rule? name).isSome = true ∧ (Extends query name ∨
        editDistance (lowercase query) (lowercase name) ≤ config.settings.threshold)) ∧
    (config.similarNames query).Nodup ∧
    (config.similarNames query).Pairwise (SuggestedBefore query) ∧
    ∀ other : Config, other.rules = config.rules →
      (config.settings.threshold ≤ other.settings.threshold →
        config.similarNames query <+: other.similarNames query) ∧
      ∀ name, (config.rule? name).isSome = true →
        lowercase name = lowercase query ∨ Extends query name →
          name ∈ other.similarNames query := by
  refine ⟨fun name => ?_, nodup_similarNames config query, pairwise_similarNames config query,
    fun other hrules => ⟨isPrefix_similarNames hrules, fun name hrule hname => ?_⟩⟩
  · rw [mem_similarNames, nearness_le_iff]
  · have hextends : Extends query name := hname.elim extends_of_lowercase_eq id
    rw [mem_similarNames, rule?, hrules]
    exact ⟨hrule, nearness_le_iff.mpr (.inl hextends)⟩

/-- Two rules whose names differ in case only are both suggested, at the threshold 0 too, where a
rule one edit away is not. -/
theorem similarNames_two_cases :
    let rules : List (String × Json) :=
      [("GIFT", .object []), ("gift", .object []), ("lift", .object [])]
    let strict : Config := ⟨rules, by decide, none, 0, by decide⟩
    let lenient : Config := ⟨rules, by decide, none, 1, by decide⟩
    strict.similarNames "Gift" <+: lenient.similarNames "Gift" ∧
      "GIFT" ∈ strict.similarNames "Gift" ∧ "gift" ∈ strict.similarNames "Gift" ∧
      "lift" ∉ strict.similarNames "Gift" ∧ "lift" ∈ lenient.similarNames "Gift" := by
  intro rules strict lenient
  obtain ⟨hstrict, -, -, hother⟩ := similarNames_exact strict "Gift"
  obtain ⟨hlenient, -⟩ := similarNames_exact lenient "Gift"
  refine ⟨(hother lenient rfl).1 (by decide), (hother strict rfl).2 _ rfl (.inl (by decide)),
    (hother strict rfl).2 _ rfl (.inl (by decide)), ?_, ?_⟩
  · rw [hstrict]
    decide
  · rw [hlenient]
    decide

end CartCriteria.Config
