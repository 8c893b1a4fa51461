import CartCriteria.Proofs.Files.ReadBack

/-! The overwriting of a file that is there. No walk notices it, so every path leads to where it led
before, and only the file itself reads differently. -/
namespace CartCriteria

namespace FileEntry

/-- Two entries that a walk does not tell apart: files, or folders with the same names in them. -/
inductive Alike : FileEntry → FileEntry → Prop
  | file (content other : ByteArray) : Alike (.file content) (.file other)
  | folder {held holding : List (String × FileEntry)}
      (hnames : ∀ name, (Dictionary.find? name holding).isSome =
        (Dictionary.find? name held).isSome) : Alike (.folder held) (.folder holding)

private theorem Alike.refl (e : FileEntry) : Alike e e := by
  cases e with
  | file content => exact .file content content
  | folder entries => exact .folder fun _ => rfl

private theorem at?_put_file {e : FileEntry} {target : List String} {old : ByteArray}
    (content : ByteArray) (htarget : e.at? target = some (.file old)) (place : List String) :
    (e.at? place = none ∧ (e.put (.file content) target).at? place = none) ∨
    ∃ before after, e.at? place = some before ∧
      (e.put (.file content) target).at? place = some after ∧ Alike before after ∧
      (place ≠ target → ∀ held, before = .file held → after = .file held) := by
  induction target generalizing e place with
  | nil =>
    cases htarget
    cases place with
    | nil => exact .inr ⟨_, _, rfl, rfl, .file _ _, fun h => absurd rfl h⟩
    | cons name names => exact .inl ⟨rfl, rfl⟩
  | cons name names ih =>
    rw [at?] at htarget
    cases hnext : Dictionary.find? name e.entries with
    | none =>
      rw [hnext] at htarget
      cases htarget
    | some next =>
      rw [hnext] at htarget
      cases e with
      | file held => cases hnext
      | folder entries =>
        rw [FileEntry.entries] at hnext
        rw [put, FileEntry.entries, hnext, Option.getD_some]
        cases place with
        | nil =>
          refine .inr ⟨_, _, rfl, rfl, .folder ?_, ?_⟩
          · intro other
            by_cases hsame : other = name
            · rw [hsame, Dictionary.find?_insert_self, hnext]
              rfl
            · rw [Dictionary.find?_insert_of_ne _ _ hsame]
          · intro _ held hheld
            cases hheld
        | cons first rest =>
          rw [at?, at?, FileEntry.entries, FileEntry.entries]
          by_cases hsame : first = name
          · subst hsame
            rw [Dictionary.find?_insert_self, hnext]
            refine (ih htarget rest).imp_right ?_
            rintro ⟨before, after, hbefore, hafter, halike, hfile⟩
            exact ⟨before, after, hbefore, hafter, halike, fun hne => hfile fun h => hne (h ▸ rfl)⟩
          · rw [Dictionary.find?_insert_of_ne _ _ hsame]
            cases Dictionary.find? first entries with
            | none => exact .inl ⟨rfl, rfl⟩
            | some entry =>
              cases hrest : entry.at? rest with
              | none => exact .inl ⟨hrest, hrest⟩
              | some found =>
                exact .inr ⟨found, found, hrest, hrest, .refl found, fun _ _ h => h⟩

end FileEntry

namespace Directory

variable {d : Directory} {target : List String} {old content : ByteArray}

private theorem enter_overwrite (htarget : d.root.at? target = some (.file old))
    (place : List String) (component : String) :
    (d.withEntry target (.file content)).enter place component = d.enter place component := by
  rw [enter, enter, withEntry]
  dsimp only
  rcases FileEntry.at?_put_file content htarget place with
    ⟨hbefore, hafter⟩ | ⟨before, after, hbefore, hafter, halike, -⟩
  · rw [hbefore, hafter]
  · rw [hbefore, hafter]
    cases halike with
    | file _ _ => rfl
    | folder hnames =>
      dsimp only
      rw [hnames]

private theorem walk_overwrite (htarget : d.root.at? target = some (.file old))
    (place components : List String) :
    (d.withEntry target (.file content)).walk place components = d.walk place components := by
  induction components generalizing place with
  | nil => rfl
  | cons component rest ih =>
    rw [walk, walk, enter_overwrite htarget]
    cases d.enter place component with
    | error fault => rfl
    | ok next => exact ih next

private theorem isFolder_overwrite (htarget : d.root.at? target = some (.file old))
    (place : List String) :
    (d.withEntry target (.file content)).isFolder place = d.isFolder place := by
  rw [isFolder, isFolder, withEntry]
  dsimp only
  rcases FileEntry.at?_put_file content htarget place with
    ⟨hbefore, hafter⟩ | ⟨before, after, hbefore, hafter, halike, -⟩
  · rw [hbefore, hafter]
  · rw [hbefore, hafter]
    cases halike <;> rfl

/-- Every path leads to where it led before a file was overwritten. -/
theorem locate_overwrite (htarget : d.root.at? target = some (.file old)) (path : PathText) :
    (d.withEntry target (.file content)).locate path = d.locate path := by
  have hstart : (d.withEntry target (.file content)).start path = d.start path := rfl
  simp only [locate, hstart, walk_overwrite htarget, isFolder_overwrite htarget]

/-- The text at a path that leads elsewhere is what it was. -/
theorem readText_overwrite (htarget : d.root.at? target = some (.file old)) {path : String}
    (helsewhere : d.locate (.ofText path) ≠ .ok target) :
    (d.withEntry target (.file content)).readText path = d.readText path := by
  rw [readText, readText, locate_overwrite htarget]
  cases hplace : d.locate (.ofText path) with
  | error fault => rfl
  | ok place =>
    have hne : place ≠ target := fun h => helsewhere (h ▸ hplace)
    dsimp only [withEntry]
    rcases FileEntry.at?_put_file content htarget place with
      ⟨hbefore, hafter⟩ | ⟨before, after, hbefore, hafter, halike, hfile⟩
    · rw [hbefore, hafter]
    · rw [hbefore, hafter]
      cases halike with
      | file held _ => rw [hfile hne held rfl]
      | folder _ => rfl

end Directory
end CartCriteria
