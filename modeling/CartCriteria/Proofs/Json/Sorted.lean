import CartCriteria.Json.Reader
import CartCriteria.Proofs.Dictionary

/-! Every value that is read has the members of its objects sorted, whatever their order was in the
document. -/
namespace CartCriteria

namespace Json

/-- Members are sorted throughout if each value is. -/
theorem sortedMembers_iff {members : List (String × Json)} :
    SortedMembers members ↔ ∀ m ∈ members, m.2.Sorted := by
  induction members with
  | nil => exact ⟨fun _ => nofun, fun _ => trivial⟩
  | cons head rest ih => rw [List.forall_mem_cons, ← ih, SortedMembers]

/-- Items are sorted throughout if each is. -/
theorem sortedItems_iff {items : List Json} : SortedItems items ↔ ∀ v ∈ items, v.Sorted := by
  induction items with
  | nil => exact ⟨fun _ => nofun, fun _ => trivial⟩
  | cons v rest ih => rw [List.forall_mem_cons, ← ih, SortedItems]

private theorem sorted_ofMembers {members : List (String × Json)} (h : ∀ m ∈ members, m.2.Sorted) :
    (ofMembers members).Sorted :=
  ⟨Dictionary.sorted_ofList members,
    sortedMembers_iff.mpr fun m hm => h m (Dictionary.mem_of_mem_ofList hm)⟩

end Json

/-- Numbers denote sorted values; that they denote no objects is enough. -/
def Reading.HasSortedNumbers (reading : Reading) : Prop :=
  ∀ n v, reading.number n = some v → v.Sorted

namespace Document

variable {reading : Reading}

mutual

/-- A value that a document denotes is sorted. -/
theorem sorted_of_toJson? (hnumber : reading.HasSortedNumbers) : ∀ {d : Document} {v : Json},
    toJson? reading d = some v → v.Sorted
  | null, _, h | bool _, _, h => by
    cases h
    trivial
  | number n, v, h => hnumber n v h
  | string _, _, h => by
    obtain ⟨_, -, rfl⟩ := Option.map_eq_some_iff.mp h
    trivial
  | array _, _, h => by
    obtain ⟨vs, hvs, rfl⟩ := Option.map_eq_some_iff.mp h
    exact sorted_of_itemsToJson? hnumber hvs
  | object _, _, h => by
    obtain ⟨ms, hms, rfl⟩ := Option.map_eq_some_iff.mp h
    exact Json.sorted_ofMembers (sorted_of_membersToJson? hnumber hms)

private theorem sorted_of_itemsToJson? (hnumber : reading.HasSortedNumbers) :
    ∀ {items : List Document} {vs : List Json},
      itemsToJson? reading items = some vs → Json.SortedItems vs
  | [], _, h => by
    cases h
    trivial
  | _ :: _, _, h => by
    obtain ⟨v, hv, h⟩ := Option.bind_eq_some_iff.mp h
    obtain ⟨vs, hvs, h⟩ := Option.bind_eq_some_iff.mp h
    cases h
    exact ⟨sorted_of_toJson? hnumber hv, sorted_of_itemsToJson? hnumber hvs⟩

private theorem sorted_of_membersToJson? (hnumber : reading.HasSortedNumbers) :
    ∀ {members : List (List StringPiece × Document)} {ms : List (String × Json)},
      membersToJson? reading members = some ms → ∀ m ∈ ms, m.2.Sorted
  | [], _, h => by
    cases h
    nofun
  | (_, _) :: _, _, h => by
    obtain ⟨k, -, h⟩ := Option.bind_eq_some_iff.mp h
    obtain ⟨v, hv, h⟩ := Option.bind_eq_some_iff.mp h
    obtain ⟨ms, hms, h⟩ := Option.bind_eq_some_iff.mp h
    cases h
    exact List.forall_mem_cons.mpr
      ⟨sorted_of_toJson? hnumber hv, sorted_of_membersToJson? hnumber hms⟩

end

end Document

private theorem strict_number_sorted : Strict.reading.HasSortedNumbers := by
  intro n v h
  obtain ⟨_, -, rfl⟩ := Option.map_eq_some_iff.mp h
  trivial

private theorem relaxed_number_sorted : Relaxed.reading.HasSortedNumbers := by
  intro n v h
  change Relaxed.json? n = some v at h
  unfold Relaxed.json? at h
  split at h
  · split at h
    · obtain ⟨_, -, rfl⟩ := Option.map_eq_some_iff.mp h
      trivial
    · obtain ⟨_, -, rfl⟩ := Option.map_eq_some_iff.mp h
      trivial
  · obtain ⟨_, -, h⟩ := Option.bind_eq_some_iff.mp h
    obtain ⟨_, -, rfl⟩ := Option.map_eq_some_iff.mp h
    trivial
  all_goals cases h <;> trivial

namespace Json

/-- A value that a strict document denotes is sorted. -/
theorem sorted_of_strict {d : Document} {v : Json} (h : d.toJson? Strict.reading = some v) :
    v.Sorted :=
  Document.sorted_of_toJson? strict_number_sorted h

/-- A value that a relaxed document denotes is sorted. -/
theorem sorted_of_relaxed {d : Document} {v : Json} (h : d.toJson? Relaxed.reading = some v) :
    v.Sorted :=
  Document.sorted_of_toJson? relaxed_number_sorted h

/-- A value that is read from a text is sorted. -/
theorem sorted_of_ofText? {text : String} {v : Json} (h : ofText? text = some v) : v.Sorted := by
  rw [ofText?] at h
  split at h
  · rename_i w hstrict
    cases h
    obtain ⟨d, -, hd⟩ := Option.bind_eq_some_iff.mp hstrict
    rw [Strict.json?] at hd
    split at hd
    · exact sorted_of_strict hd
    · cases hd
  · obtain ⟨d, -, hd⟩ := Option.bind_eq_some_iff.mp h
    exact sorted_of_relaxed hd

end Json
end CartCriteria
