import CartCriteria.Proofs.Resolution.Composition
import CartCriteria.Proofs.Text.Natural

/-! What a projection reads from arrays in an array. A segment reads the item whose index it spells, and
an index has many spellings: different segments may read the same item. Of an object the key is read as
it is written. -/
namespace CartCriteria.Resolution

open Text (Spells)

/-- The walk along a path meets an array: some segments lead to it, and the next one is read from its
items. -/
def MeetsArray (record : Json) (path segment : String) (outer : List Json) : Prop :=
  ∃ before after, segments path = before ++ segment :: after ∧ walk record before = found (.array outer)

variable {record : Json} {path segment : String} {outer items : List Json} {i : Nat}

/-- Segments behind the one that is read from the items are not looked at. -/
theorem ofPath_of_meetsArray (h : MeetsArray record path segment outer) :
    ofPath record path = projected (outer.map (entry segment)) := by
  obtain ⟨before, after, hsegments, hwalk⟩ := h
  rw [ofPath, hsegments, walk_append, hwalk]
  rfl

private theorem exists_of_walk {v : Json} {path : List String} {entries : List (Option Json)}
    (h : walk v path = projected entries) : ∃ before segment after outer,
      path = before ++ segment :: after ∧ walk v before = found (.array outer) := by
  induction path generalizing v with
  | nil => cases h
  | cons segment rest ih =>
    cases v with
    | array outer => exact ⟨[], segment, rest, outer, rfl, rfl⟩
    | object members =>
      rw [walk] at h
      cases hnext : Dictionary.find? segment members with
      | none =>
        rw [hnext] at h
        cases h
      | some next =>
        rw [hnext] at h
        obtain ⟨before, projectedSegment, after, outer, rfl, hwalk⟩ := ih h
        refine ⟨segment :: before, projectedSegment, after, outer, rfl, ?_⟩
        rw [walk, hnext]
        exact hwalk
    | null | bool | number | string => cases h

/-- A path leads to a projection exactly if its walk meets an array. -/
theorem exists_projected_iff : (∃ entries, ofPath record path = projected entries) ↔
    ∃ segment outer, MeetsArray record path segment outer := by
  constructor
  · rintro ⟨entries, h⟩
    obtain ⟨before, segment, after, outer, hsegments, hwalk⟩ := exists_of_walk h
    exact ⟨segment, outer, before, after, hsegments, hwalk⟩
  · rintro ⟨segment, outer, h⟩
    exact ⟨_, ofPath_of_meetsArray h⟩

/-- A segment reads the item at an index of an array: whatever stands there is read. -/
def ReadsItem (segment : String) (items : List Json) (i : Nat) : Prop :=
  ∀ v, entry segment (.array (items.set i v)) = some v

private theorem entry_array_of_spells (h : Spells segment i) (hi : i < UInt64.size) :
    entry segment (.array items) = items[i]? := by
  rw [entry, Text.natural_eq_ok_iff.mpr ⟨h, hi⟩]

private theorem exists_spells_of_entry {v : Json} (h : entry segment (.array items) = some v) :
    ∃ i, Spells segment i ∧ i < UInt64.size ∧ items[i]? = some v := by
  rw [entry] at h
  split at h
  · rename_i i hi
    obtain ⟨hspells, hfits⟩ := Text.natural_eq_ok_iff.mp hi
    exact ⟨i, hspells, hfits, h⟩
  · cases h

/-- A segment reads the item whose index it spells, if there is one. -/
theorem readsItem_iff : ReadsItem segment items i ↔
    Spells segment i ∧ i < items.length ∧ i < UInt64.size := by
  constructor
  · intro hreads
    obtain ⟨k, hspells, hfits, hnull⟩ := exists_spells_of_entry (hreads .null)
    -- What is read changes with the item at `i`, so no other item is read.
    by_cases hk : k = i
    · subst hk
      have hlength := (List.getElem?_eq_some_iff.mp hnull).1
      rw [List.length_set] at hlength
      exact ⟨hspells, hlength, hfits⟩
    · have htrue := hreads (.bool true)
      rw [entry_array_of_spells hspells hfits, List.getElem?_set_ne (Ne.symm hk)] at htrue
      rw [List.getElem?_set_ne (Ne.symm hk), htrue] at hnull
      cases hnull
  · rintro ⟨hspells, hlength, hfits⟩ v
    rw [entry_array_of_spells hspells hfits, List.getElem?_set_self hlength]

/-- Where the walk meets an array, an array among its items has the item read whose index the segment
spells, and nothing else. So an item is read by the spellings of its index alone, of which only one is
without a sign and without zeros in front. -/
theorem items_read (hmeets : MeetsArray record path segment outer) :
    ofPath record path = projected (outer.map (entry segment)) ∧
    ∀ inner, Json.array inner ∈ outer →
      (∀ i, ReadsItem segment inner i ↔
        Spells segment i ∧ i < inner.length ∧ i < UInt64.size) ∧
      (∀ v, entry segment (.array inner) = some v ↔
        ∃ i, ReadsItem segment inner i ∧ inner[i]? = some v) ∧
      (∀ i, ReadsItem segment inner i → ∀ other, ReadsItem other inner i ↔ Spells other i) ∧
      ∀ m n i : Nat, ReadsItem (toString m) inner i → ReadsItem (toString n) inner i → m = n := by
  refine ⟨ofPath_of_meetsArray hmeets, fun inner _ => ⟨fun i => readsItem_iff, ?_, ?_, ?_⟩⟩
  · intro v
    constructor
    · intro h
      obtain ⟨i, hspells, hfits, hi⟩ := exists_spells_of_entry h
      exact ⟨i, readsItem_iff.mpr ⟨hspells, (List.getElem?_eq_some_iff.mp hi).1, hfits⟩, hi⟩
    · rintro ⟨i, hreads, hi⟩
      obtain ⟨hspells, -, hfits⟩ := readsItem_iff.mp hreads
      rw [entry_array_of_spells hspells hfits, hi]
  · intro i hreads other
    obtain ⟨-, hinside⟩ := readsItem_iff.mp hreads
    rw [readsItem_iff, and_iff_left hinside]
  · intro m n i hm hn
    calc m
      _ = i := (Text.spells_toString m).unique (readsItem_iff.mp hm).1
      _ = n := (readsItem_iff.mp hn).1.unique (Text.spells_toString n)

private def row : List Json := [.string "a", .string "b"]

private def gridItems : List Json := [.array row, .object [("1", .null)]]

private def grid : Json := .object [("rows", .array gridItems)]

/-- A sign in front of the index is read over, but no member of an object has that key. -/
theorem items_read_signed :
    MeetsArray grid "rows.+1.x" "+1" gridItems ∧ Json.array row ∈ gridItems ∧
    ofPath grid "rows.+1.x" = projected [some (.string "b"), none] ∧
    Spells "+1" 1 ∧ ReadsItem "+1" row 1 := by
  have hmeets : MeetsArray grid "rows.+1.x" "+1" gridItems :=
    ⟨["rows"], ["x"], by decide +kernel, rfl⟩
  have hrow : Json.array row ∈ gridItems := List.mem_cons_self
  have hspells : Spells "+1" 1 := ⟨['+'], 0, .inr rfl, rfl⟩
  obtain ⟨hprojected, hitems⟩ := items_read hmeets
  obtain ⟨hreads, -⟩ := hitems row hrow
  exact ⟨hmeets, hrow, hprojected, hspells, (hreads 1).mpr ⟨hspells, by decide, by decide⟩⟩

/-- Two segments read the same item, and only one of them is the decimal text of its index. -/
theorem padded_segment_reads_item :
    MeetsArray grid "rows.01" "01" gridItems ∧ Json.array row ∈ gridItems ∧
    ReadsItem "1" row 1 ∧ ReadsItem "01" row 1 ∧
    ¬ (ReadsItem "01" row 1 ↔ "01" = toString 1 ∧ 1 < row.length) := by
  have hpadded : ReadsItem "01" row 1 := fun _ => rfl
  refine ⟨⟨["rows"], [], by decide +kernel, rfl⟩, List.mem_cons_self, fun _ => rfl, hpadded, ?_⟩
  intro hiff
  exact absurd (hiff.mp hpadded).1 (by decide)

end CartCriteria.Resolution
