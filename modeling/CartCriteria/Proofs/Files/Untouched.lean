import CartCriteria.Proofs.Files.ReadBack

/-! The bytes of files before and after a write. New folders leave all files as they are, and a file
that is written is the only one that changes. -/
namespace CartCriteria

namespace FileEntry

/-- The bytes of the file at the end of a chain of names; a folder has none. -/
def content? (e : FileEntry) (names : List String) : Option ByteArray :=
  match e.at? names with
  | some (file content) => some content
  | _ => none

private theorem content?_folder (entries : List (String × FileEntry)) :
    (folder entries).content? [] = none :=
  rfl

/-- The files in a folder are those of its entries. -/
theorem content?_cons (e : FileEntry) (name : String) (names : List String) :
    e.content? (name :: names) =
      (Dictionary.find? name e.entries).bind fun next => next.content? names := by
  rw [content?, at?]
  cases Dictionary.find? name e.entries <;> rfl

/-- There are no files inside a file, nor inside an empty folder. -/
theorem content?_cons_of_entries {e : FileEntry} (h : e.entries = []) (name : String)
    (names : List String) : e.content? (name :: names) = none := by
  rw [content?_cons, h]
  rfl

/-- What is put into a folder leaves the files elsewhere alone. It must have nothing inside, and so
must what was there in its place. The induction follows the way to the folder. -/
theorem content?_put {e new : FileEntry} {parent names : List String} {name : String}
    {held : List (String × FileEntry)} (hparent : e.at? parent = some (folder held))
    (hold : ∀ old, Dictionary.find? name held = some old → old.entries = [])
    (hnew : new.entries = []) (hnames : names ≠ parent ++ [name]) :
    (e.put new (parent ++ [name])).content? names = e.content? names := by
  induction parent generalizing e names with
  | nil =>
    cases hparent
    rw [List.nil_append, put, put, entries]
    cases names with
    | nil => rw [content?_folder, content?_folder]
    | cons first rest =>
      rw [content?_cons, content?_cons, entries, entries]
      by_cases hsame : first = name
      · subst hsame
        rw [Dictionary.find?_insert_self, Option.bind_some]
        cases rest with
        | nil => exact absurd rfl hnames
        | cons second rest =>
          rw [content?_cons_of_entries hnew]
          cases hfound : Dictionary.find? first held with
          | none => rfl
          | some old => exact (content?_cons_of_entries (hold old hfound) second rest).symm
      · rw [Dictionary.find?_insert_of_ne _ _ hsame]
  | cons front way ih =>
    rw [at?] at hparent
    cases hnext : Dictionary.find? front e.entries with
    | none =>
      rw [hnext] at hparent
      cases hparent
    | some next =>
      rw [hnext] at hparent
      rw [List.cons_append, put, hnext, Option.getD_some]
      cases e with
      | file content => cases hnext
      | folder entries =>
        cases names with
        | nil => rw [content?_folder, content?_folder]
        | cons first rest =>
          rw [content?_cons, content?_cons, FileEntry.entries]
          by_cases hsame : first = front
          · subst hsame
            rw [Dictionary.find?_insert_self, hnext, Option.bind_some, Option.bind_some]
            exact ih hparent fun h => hnames (congrArg (first :: ·) h)
          · rw [Dictionary.find?_insert_of_ne _ _ hsame]

end FileEntry

namespace Directory

def content? (d : Directory) (names : List String) : Option ByteArray :=
  d.root.content? names

variable {d : Directory} {refused : List String → Option OsFault} {parent : List String}
  {name : String}

private theorem exists_of_isFolder {place : List String} (h : d.isFolder place = true) :
    ∃ held, d.root.at? place = some (.folder held) := by
  rw [isFolder] at h
  split at h
  · exact ⟨_, ‹_›⟩
  · cases h

/-- An entry without anything inside that is put into a folder, in no folder's place, leaves the files
elsewhere alone. -/
theorem content?_withEntry {new : FileEntry} (hparent : d.isFolder parent = true)
    (hplace : d.isFolder (parent ++ [name]) = false) (hnew : new.entries = []) {names : List String}
    (hnames : names ≠ parent ++ [name]) :
    (d.withEntry (parent ++ [name]) new).content? names = d.content? names := by
  obtain ⟨held, hheld⟩ := exists_of_isFolder hparent
  refine FileEntry.content?_put hheld ?_ hnew hnames
  intro old hold
  cases old with
  | file content => rfl
  | folder entries =>
    have hfolder : d.root.at? (parent ++ [name]) = some (.folder entries) := by
      rw [FileEntry.at?_append, hheld, Option.bind_some, FileEntry.at?, FileEntry.entries, hold]
      rfl
    rw [isFolder, hfolder] at hplace
    cases hplace

/-- A file that is written has the text, and no other file changes. -/
theorem content?_writeText {path text : String} {written : Directory}
    (h : d.writeText refused path text = .ok written) :
    ∃ place, written.locate (.ofText path) = .ok place ∧
      written.content? place = some text.toUTF8 ∧
      ∀ names, names ≠ place → written.content? names = d.content? names := by
  obtain ⟨parent, name, hparent, hplace, rfl, hlocate⟩ := exists_place_of_writeText h
  refine ⟨parent ++ [name], hlocate, ?_, ?_⟩
  · have hself := FileEntry.at?_put_self d.root (.file text.toUTF8) (parent ++ [name])
    rw [content?, withEntry, FileEntry.content?, hself]
  · intro names hnames
    exact content?_withEntry hparent hplace rfl hnames

/-- A folder that is made leaves all files alone. -/
theorem content?_makeFolder {path : PathText} {made : Directory}
    (h : d.makeFolder refused path = .ok made) (names : List String) :
    made.content? names = d.content? names := by
  rw [makeFolder] at h
  split at h
  · cases h
  · rename_i parent name hparentOf
    obtain ⟨-, -, hparent⟩ := parentOf_cases hparentOf
    split at h
    · cases h
    · rename_i hnothing
      split at h
      · cases h
      · split at h
        · cases h
        · cases h
          simp only [Bool.or_eq_true, not_or, Bool.not_eq_true, Option.isSome_eq_false_iff,
            Option.isNone_iff_eq_none] at hnothing
          have hplace : d.isFolder (parent ++ [name]) = false := by
            rw [isFolder, hnothing.2]
          by_cases hnames : names = parent ++ [name]
          · subst hnames
            have hself := FileEntry.at?_put_self d.root (.folder []) (parent ++ [name])
            rw [content?, content?, FileEntry.content?, FileEntry.content?, hself, hnothing.2]
          · exact content?_withEntry hparent hplace rfl hnames

/-- The making of folders leaves all files alone, also where only some of them could be made. The
induction is on the folders further out, which are made first. -/
theorem content?_makeFolders (d : Directory) (refused : List String → Option OsFault)
    (paths : List PathText) (names : List String) :
    (d.makeFolders refused paths).1.content? names = d.content? names := by
  induction paths with
  | nil => rfl
  | cons path around ih =>
    rw [makeFolders]
    cases hmade : d.makeFolder refused path with
    | ok made => exact content?_makeFolder hmade names
    | error fault =>
      cases fault with
      | notFound =>
        dsimp only
        cases houter : d.makeFolders refused around with
        | mk ready fault? =>
          rw [houter] at ih
          cases fault? with
          | some fault => exact ih
          | none =>
            dsimp only
            cases hmade : ready.makeFolder refused path with
            | ok made => exact (content?_makeFolder hmade names).trans ih
            | error fault => exact ih
      | _ => rfl

end Directory
end CartCriteria
