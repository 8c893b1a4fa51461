import CartCriteria.Dictionary
import CartCriteria.Text.Split

/-! A tree of files and folders, and the walk along a path through it. -/
namespace CartCriteria

/-- A file with its bytes, or a folder with its entries sorted by name. -/
inductive FileEntry
  | file (content : ByteArray)
  | folder (entries : List (String × FileEntry))

/-- The faults of the file system that can be met. -/
inductive OsFault
  | notFound
  | permissionDenied
  | alreadyExists
  | notDirectory
  | isDirectory
  | readOnly
  | nameTooLong
  | nulInName
  deriving DecidableEq

def OsFault.message : OsFault → String
  | notFound => "No such file or directory (os error 2)"
  | permissionDenied => "Permission denied (os error 13)"
  | alreadyExists => "File exists (os error 17)"
  | notDirectory => "Not a directory (os error 20)"
  | isDirectory => "Is a directory (os error 21)"
  | readOnly => "Read-only file system (os error 30)"
  | nameTooLong => "File name too long (os error 36)"
  | nulInName => "file name contained an unexpected NUL byte"

namespace FileEntry

def entries : FileEntry → List (String × FileEntry)
  | file _ => []
  | folder entries => entries

def at? (e : FileEntry) : List String → Option FileEntry
  | [] => some e
  | name :: names =>
    match Dictionary.find? name e.entries with
    | some next => next.at? names
    | none => none

/-- With `new` at the end of a chain of names. Folders that are missing on the way are made, and a
file on the way gives place to one. -/
def put (e new : FileEntry) : List String → FileEntry
  | [] => new
  | name :: names =>
    let next := (Dictionary.find? name e.entries).getD (folder [])
    folder (Dictionary.insert name (next.put new names) e.entries)

mutual

def files : FileEntry → List (List String × ByteArray)
  | file content => [([], content)]
  | folder entries => filesOfEntries entries

def filesOfEntries : List (String × FileEntry) → List (List String × ByteArray)
  | [] => []
  | (name, e) :: rest =>
    (files e).map (fun (names, content) => (name :: names, content)) ++ filesOfEntries rest

end

mutual

def folders : FileEntry → List (List String)
  | file _ => []
  | folder entries => [] :: foldersOfEntries entries

def foldersOfEntries : List (String × FileEntry) → List (List String)
  | [] => []
  | (name, e) :: rest => (folders e).map (name :: ·) ++ foldersOfEntries rest

end

end FileEntry

/-- A tree of files and the chain of names that leads to the working directory in it. -/
structure Directory where
  root : FileEntry
  here : List String

/-- A path as it is given: a chain of components, empty ones left out, that starts at the root or
in the working directory. A slash at the end asks for a folder. -/
structure PathText where
  absolute : Bool
  components : List String
  asksFolder : Bool
  /-- How many bytes the whole path has. -/
  size : Nat
  deriving DecidableEq

namespace PathText

def ofText (path : String) : PathText :=
  let components := (Text.split '/' path).filter (· ≠ "")
  ⟨path.toList.head? == some '/', components, path.toList.getLast? == some '/', path.utf8ByteSize⟩

/-- The fronts of a path that end in a name, the longest first, from its parts listed backwards. Each
is spelled as the path is, for a spelling may be too long that denotes what a shorter one does. -/
def fronts : List String → List PathText
  | [] => []
  | part :: before =>
    if part = "" ∨ part = "." then fronts before
    else ofText ("/".intercalate (part :: before).reverse) :: fronts before

def parents (path : String) : List PathText :=
  (fronts (Text.split '/' path).reverse).tail

/-- The fault of a path that is refused before it is walked: it has no NUL and less than 4096
bytes. -/
def fault? (path : PathText) : Option OsFault :=
  if path.components.any fun component => component.toList.contains '\x00' then some .nulInName
  else if 4096 ≤ path.size then some .nameTooLong
  else none

end PathText

def isLongName (component : String) : Bool :=
  255 < component.utf8ByteSize

namespace Directory

def start (d : Directory) (path : PathText) : List String :=
  if path.absolute then [] else d.here

def enter (d : Directory) (place : List String) (component : String) :
    Except OsFault (List String) :=
  match d.root.at? place with
  | none => .error .notFound
  | some (.file _) => .error .notDirectory
  | some (.folder entries) =>
    if component = "." then .ok place
    else if component = ".." then .ok place.dropLast
    else if isLongName component then .error .nameTooLong
    else if (Dictionary.find? component entries).isSome then .ok (place ++ [component])
    else .error .notFound

def walk (d : Directory) (place : List String) : List String → Except OsFault (List String)
  | [] => .ok place
  | component :: rest =>
    match d.enter place component with
    | .ok next => d.walk next rest
    | .error fault => .error fault

def isFolder (d : Directory) (place : List String) : Bool :=
  match d.root.at? place with
  | some (.folder _) => true
  | _ => false

/-- The chain of names that a path leads to; the empty path leads nowhere. -/
def locate (d : Directory) (path : PathText) : Except OsFault (List String) :=
  match path.fault? with
  | some fault => .error fault
  | none =>
    if path.components.isEmpty && !path.absolute then .error .notFound
    else
      match d.walk (d.start path) path.components with
      | .error fault => .error fault
      | .ok place =>
        if path.asksFolder && !d.isFolder place then .error .notDirectory else .ok place

def parentOf (d : Directory) (path : PathText) : Except OsFault (List String × String) :=
  match path.fault?, path.components.getLast? with
  | some fault, _ => .error fault
  | none, none => .error (if path.absolute then .isDirectory else .notFound)
  | none, some last =>
    match d.walk (d.start path) path.components.dropLast with
    | .error fault => .error fault
    | .ok parent => if d.isFolder parent then .ok (parent, last) else .error .notDirectory

/-- The files that `after` has and `before` has not, or has with other bytes. -/
def changedFiles (before after : Directory) : List (List String × ByteArray) :=
  after.root.files.filter fun (names, content) =>
    match before.root.at? names with
    | some (.file old) => old.data != content.data
    | _ => true

def newFolders (before after : Directory) : List (List String) :=
  after.root.folders.filter fun names => !before.isFolder names

end Directory
end CartCriteria
