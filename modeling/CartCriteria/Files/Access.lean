import CartCriteria.Files.Basic

/-! Reading and writing in a tree of files. Reading is never refused; what the system refuses to have
written, for want of a right or on a read-only file system, is given place by place. -/
namespace CartCriteria

/-- Why a file was not read as text. -/
inductive ReadFault
  | os (fault : OsFault)
  | notUtf8
  deriving DecidableEq

def ReadFault.message : ReadFault → String
  | os fault => fault.message
  | notUtf8 => "stream did not contain valid UTF-8"

def textOfBytes (content : ByteArray) : Except ReadFault String :=
  match String.fromUTF8? content with
  | some text => .ok text
  | none => .error .notUtf8

namespace Directory

def pathExists (d : Directory) (path : String) : Bool :=
  match d.locate (.ofText path) with
  | .ok _ => true
  | .error _ => false

def readText (d : Directory) (path : String) : Except ReadFault String :=
  match d.locate (.ofText path) with
  | .error fault => .error (.os fault)
  | .ok place =>
    match d.root.at? place with
    | some (.file content) => textOfBytes content
    | some (.folder _) => .error (.os .isDirectory)
    | none => .error (.os .notFound)

/-- With the file at a path created or replaced. What is written to is a file that is there, or else
the folder that it gets into; the system may refuse that, and then nothing is changed. -/
def writeText (d : Directory) (refused : List String → Option OsFault) (path text : String) :
    Except OsFault Directory :=
  let p := PathText.ofText path
  match d.parentOf p with
  | .error fault => .error fault
  | .ok (parent, name) =>
    let place := parent ++ [name]
    if p.asksFolder || name == "." || name == ".." || d.isFolder place then .error .isDirectory
    else if isLongName name then .error .nameTooLong
    else
      match refused (if (d.root.at? place).isSome then place else parent) with
      | some fault => .error fault
      | none => .ok { d with root := d.root.put (.file text.toUTF8) place }

def makeFolder (d : Directory) (refused : List String → Option OsFault) (path : PathText) :
    Except OsFault Directory :=
  match d.parentOf path with
  | .error fault => .error fault
  | .ok (parent, name) =>
    if name == "." || name == ".." || (d.root.at? (parent ++ [name])).isSome then
      .error .alreadyExists
    else if isLongName name then .error .nameTooLong
    else
      match refused parent with
      | some fault => .error fault
      | none => .ok { d with root := d.root.put (.folder []) (parent ++ [name]) }

def leadsToFolder (d : Directory) (path : PathText) : Bool :=
  match d.locate path with
  | .ok place => d.isFolder place
  | .error _ => false

/-- With the folder at the first of some paths, each of which leads to the folder around what the one
before it leads to. Those that are missing are made, from the outside, and stay when one further in
cannot be made. What cannot be made because it is there is no fault. -/
def makeFolders (d : Directory) (refused : List String → Option OsFault) :
    List PathText → Directory × Option OsFault
  | [] => (d, none)
  | path :: around =>
    match d.makeFolder refused path with
    | .ok made => (made, none)
    | .error .notFound =>
      match d.makeFolders refused around with
      | (ready, some fault) => (ready, some fault)
      | (ready, none) =>
        match ready.makeFolder refused path with
        | .ok made => (made, none)
        | .error fault => (ready, if ready.leadsToFolder path then none else some fault)
    | .error fault => (d, if d.leadsToFolder path then none else some fault)

def makeParents (d : Directory) (refused : List String → Option OsFault) (path : String) :
    Directory × Option OsFault :=
  d.makeFolders refused (PathText.parents path)

end Directory
end CartCriteria
