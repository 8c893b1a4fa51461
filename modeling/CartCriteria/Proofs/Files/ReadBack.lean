import CartCriteria.Files.Access
import CartCriteria.Proofs.Dictionary

/-! The reading of a file that was just written: the path leads to the same place as before, and the
text that was written is there. -/
namespace CartCriteria

/-- Text survives its bytes. -/
theorem textOfBytes_toUTF8 (text : String) : textOfBytes text.toUTF8 = .ok text := by
  have hbytes : String.fromUTF8? text.toUTF8 = some text := by
    rw [String.fromUTF8?, String.toUTF8_eq_toByteArray, dif_pos text.isValidUTF8]
    rfl
  rw [textOfBytes, hbytes]

namespace FileEntry

/-- A chain of names is followed part by part. -/
theorem at?_append (e : FileEntry) (names more : List String) :
    e.at? (names ++ more) = (e.at? names).bind (·.at? more) := by
  induction names generalizing e with
  | nil => rfl
  | cons name names ih =>
    rw [List.cons_append, at?, at?]
    cases Dictionary.find? name e.entries with
    | none => rfl
    | some next => exact ih next

/-- What was put at the end of a chain of names lies there. -/
theorem at?_put_self (e new : FileEntry) (names : List String) :
    (e.put new names).at? names = some new := by
  induction names generalizing e with
  | nil => rfl
  | cons name names ih =>
    rw [put, at?, entries, Dictionary.find?_insert_self]
    exact ih _

/-- A folder stays a folder with the same names in it, unless something is put in its own place. -/
theorem at?_put_folder {e : FileEntry} {place target : List String}
    {held : List (String × FileEntry)} (new : FileEntry) (hplace : e.at? place = some (folder held))
    (htarget : ∀ entries, e.at? target ≠ some (folder entries)) :
    ∃ holding, (e.put new target).at? place = some (folder holding) ∧
      ∀ name, (Dictionary.find? name held).isSome = true →
        (Dictionary.find? name holding).isSome = true := by
  induction target generalizing e place with
  | nil =>
    cases e with
    | folder entries => exact absurd rfl (htarget entries)
    | file content =>
      cases place with
      | nil => cases hplace
      | cons name names => cases hplace
  | cons name names ih =>
    cases place with
    | nil =>
      cases hplace
      exact ⟨_, rfl, fun _ => Dictionary.isSome_find?_insert _⟩
    | cons first rest =>
      rw [at?] at hplace
      rw [put, at?, entries]
      by_cases hsame : first = name
      · subst hsame
        rw [Dictionary.find?_insert_self]
        cases hnext : Dictionary.find? first e.entries with
        | none =>
          rw [hnext] at hplace
          cases hplace
        | some next =>
          rw [hnext] at hplace
          refine ih hplace fun entries h => htarget entries ?_
          rw [at?, hnext]
          exact h
      · rw [Dictionary.find?_insert_of_ne _ _ hsame]
        exact ⟨held, hplace, fun _ => id⟩

end FileEntry

namespace Directory

def empty : Directory := ⟨.folder [], []⟩

def withEntry (d : Directory) (target : List String) (new : FileEntry) : Directory :=
  { d with root := d.root.put new target }

variable {d : Directory} {refused : List String → Option OsFault} {target : List String}

private theorem not_folder (h : d.isFolder target = false) (entries : List (String × FileEntry)) :
    d.root.at? target ≠ some (.folder entries) := by
  intro hfolder
  rw [isFolder, hfolder] at h
  cases h

private theorem enter_withEntry (new : FileEntry) (htarget : d.isFolder target = false)
    {place next : List String} {component : String} (h : d.enter place component = .ok next) :
    (d.withEntry target new).enter place component = .ok next := by
  rw [enter] at h
  split at h
  · cases h
  · cases h
  · rename_i held hplace
    obtain ⟨holding, hafter, hnames⟩ := FileEntry.at?_put_folder new hplace (not_folder htarget)
    rw [enter, withEntry]
    dsimp only
    rw [hafter]
    dsimp only
    split at h
    · rwa [if_pos ‹_›]
    rw [if_neg ‹_›]
    split at h
    · rwa [if_pos ‹_›]
    rw [if_neg ‹_›]
    split at h
    · cases h
    rw [if_neg ‹_›]
    split at h
    · rwa [if_pos (hnames component ‹_›)]
    · cases h

private theorem walk_withEntry (new : FileEntry) (htarget : d.isFolder target = false)
    {components place final : List String} (h : d.walk place components = .ok final) :
    (d.withEntry target new).walk place components = .ok final := by
  induction components generalizing place with
  | nil => exact h
  | cons component rest ih =>
    rw [walk] at h ⊢
    split at h
    · rename_i next hnext
      rw [enter_withEntry new htarget hnext]
      exact ih h
    · cases h

/-- So is a path. -/
theorem walk_append (place : List String) (components more : List String) :
    d.walk place (components ++ more) = (d.walk place components).bind (d.walk · more) := by
  induction components generalizing place with
  | nil => rfl
  | cons component rest ih =>
    rw [List.cons_append, walk, walk]
    cases d.enter place component with
    | error fault => rfl
    | ok next => exact ih next

private theorem writeText_cases {path text : String} {written : Directory}
    (h : d.writeText refused path text = .ok written) :
    ∃ parent name, d.parentOf (.ofText path) = .ok (parent, name) ∧
      (PathText.ofText path).asksFolder = false ∧ name ≠ "." ∧ name ≠ ".." ∧
      d.isFolder (parent ++ [name]) = false ∧ isLongName name = false ∧
      written = d.withEntry (parent ++ [name]) (.file text.toUTF8) := by
  rw [writeText] at h
  split at h
  · cases h
  · rename_i parent name hparent
    dsimp only at h
    split at h
    · cases h
    · rename_i hfits
      split at h
      · cases h
      · rename_i hlong
        split at h
        · cases h
        · cases h
          simp only [Bool.or_eq_true, beq_iff_eq, not_or, Bool.not_eq_true] at hfits hlong
          obtain ⟨⟨⟨hasks, hdot⟩, hdots⟩, hfolder⟩ := hfits
          exact ⟨parent, name, hparent, hasks, hdot, hdots, hfolder, hlong, rfl⟩

/-- An entry is written in a folder that the components before the last one lead to. -/
theorem parentOf_cases {path : PathText} {parent : List String} {name : String}
    (h : d.parentOf path = .ok (parent, name)) :
    path.fault? = none ∧ (∃ before, path.components = before ++ [name] ∧
      d.walk (d.start path) before = .ok parent) ∧ d.isFolder parent = true := by
  rw [parentOf] at h
  split at h
  · cases h
  · cases h
  · rename_i last hfault hlast
    split at h
    · cases h
    · rename_i place hwalk
      split at h
      · rename_i hfolder
        cases h
        obtain ⟨before, hcomponents⟩ := List.getLast?_eq_some_iff.mp hlast
        rw [hcomponents, List.dropLast_concat] at hwalk
        exact ⟨hfault, ⟨before, hcomponents, hwalk⟩, hfolder⟩
      · cases h

private theorem enter_written {parent : List String} {name text : String}
    (hparent : d.isFolder parent = true) (hdot : name ≠ ".") (hdots : name ≠ "..")
    (hfolder : d.isFolder (parent ++ [name]) = false) (hlong : isLongName name = false) :
    (d.withEntry (parent ++ [name]) (.file text.toUTF8)).enter parent name =
      .ok (parent ++ [name]) := by
  have hself := FileEntry.at?_put_self d.root (.file text.toUTF8) (parent ++ [name])
  rw [isFolder] at hparent
  split at hparent
  · rename_i held hheld
    obtain ⟨holding, hafter, -⟩ :=
      FileEntry.at?_put_folder (.file text.toUTF8) hheld (not_folder hfolder)
    have hfound : (Dictionary.find? name holding).isSome = true := by
      rw [FileEntry.at?_append, hafter, Option.bind_some, FileEntry.at?, FileEntry.entries] at hself
      split at hself
      · rename_i next hnext
        rw [hnext]
        rfl
      · cases hself
    rw [enter, withEntry]
    dsimp only
    rw [hafter]
    dsimp only
    rw [if_neg hdot, if_neg hdots, hlong, if_neg Bool.false_ne_true, if_pos hfound]
  · cases hparent

/-- A file is written in a folder, in no folder's place, and then its path leads to it. -/
theorem exists_place_of_writeText {path text : String} {written : Directory}
    (h : d.writeText refused path text = .ok written) :
    ∃ parent name, d.isFolder parent = true ∧ d.isFolder (parent ++ [name]) = false ∧
      written = d.withEntry (parent ++ [name]) (.file text.toUTF8) ∧
      written.locate (.ofText path) = .ok (parent ++ [name]) := by
  obtain ⟨parent, name, hparentOf, hasks, hdot, hdots, hfolder, hlong, rfl⟩ := writeText_cases h
  obtain ⟨hfault, ⟨before, hcomponents, hwalk⟩, hparent⟩ := parentOf_cases hparentOf
  refine ⟨parent, name, hparent, hfolder, rfl, ?_⟩
  have hstart : (d.withEntry (parent ++ [name]) (.file text.toUTF8)).start (.ofText path) =
      d.start (.ofText path) := rfl
  have hwhole : (d.withEntry (parent ++ [name]) (.file text.toUTF8)).walk (d.start (.ofText path))
      (PathText.ofText path).components = .ok (parent ++ [name]) := by
    rw [hcomponents, walk_append, walk_withEntry _ hfolder hwalk]
    change walk _ parent [name] = _
    rw [walk, enter_written hparent hdot hdots hfolder hlong]
    rfl
  rw [locate, hfault]
  dsimp only
  rw [hstart, hwhole, hcomponents, hasks]
  simp

/-- The path of a file that was written leads to it, and the text is read from it. -/
theorem readText_writeText {path text : String} {written : Directory}
    (h : d.writeText refused path text = .ok written) :
    written.pathExists path = true ∧ written.readText path = .ok text := by
  obtain ⟨parent, name, -, -, hwritten, hlocate⟩ := exists_place_of_writeText h
  have hat : written.root.at? (parent ++ [name]) = some (.file text.toUTF8) := by
    rw [hwritten]
    exact FileEntry.at?_put_self d.root (.file text.toUTF8) (parent ++ [name])
  refine ⟨by rw [pathExists, hlocate], ?_⟩
  rw [readText, hlocate]
  dsimp only
  rw [hat]
  exact textOfBytes_toUTF8 text

end Directory
end CartCriteria
