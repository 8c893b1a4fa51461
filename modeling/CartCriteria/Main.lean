import CartCriteria.Command.Arguments
import CartCriteria.Command.Run

/-! The command line on the real file system. The files that an invocation can look at are read into a
tree, the invocation is run on the tree, and what changed in it is written back. -/
namespace CartCriteria.Program

def sourcesOf : Action → List Source
  | .inquire (.check cart criteria _) => (cart :: criteria.toList).map Source.ofText
  | .inquire (.resolve cart _) => [Source.ofText cart]
  | _ => []

/-- The chain of names that components lead to when no link is in the way. -/
def plainPlace (place : List String) (components : List String) : List String :=
  components.foldl
    (fun place component =>
      if component = "." then place
      else if component = ".." then place.dropLast
      else place ++ [component])
    place

def beginnings (components : List String) : List (List String) :=
  (List.range (components.length + 1)).map fun n => components.take n

/-- The tree of what lies on the way to the given paths, and at their ends. -/
def snapshot (paths : List String) : IO Directory := do
  let base ← IO.currentDir
  let here := (PathText.ofText base.toString).components
  let mut root := (FileEntry.folder []).put (.folder []) here
  for path in paths do
    let p := PathText.ofText path
    for front in beginnings p.components do
      let place := plainPlace (if p.absolute then [] else here) front
      let target := base / ("/" ++ "/".intercalate place)
      if ← target.isDir then
        if (root.at? place).isNone then root := root.put (.folder []) place
      else if ← target.pathExists then
        root := root.put (.file (← IO.FS.readBinFile target)) place
  return ⟨root, here⟩

def writeBack (before after : Directory) : IO Unit := do
  let base ← IO.currentDir
  for names in before.newFolders after do
    IO.FS.createDir (base / ("/" ++ "/".intercalate names))
  for (names, content) in before.changedFiles after do
    IO.FS.writeBinFile (base / ("/" ++ "/".intercalate names)) content

partial def readAll (stream : IO.FS.Stream) (seen : ByteArray) : IO ByteArray := do
  let block ← stream.read 65536
  if block.isEmpty then return seen else readAll stream (seen ++ block)

/-- Reports that the arguments make no invocation. A request for help or for the version is no fault
of the caller's. -/
def reportUsage (fault : UsageFault) : IO UInt32 := do
  match fault with
  | .help => IO.println "usage: eligibility [OPTIONS] <check|resolve|rules|config|completions>"; return 0
  | .version => IO.println "eligibility 0.1.0"; return 0
  | _ =>
    IO.eprintln "usage: eligibility [OPTIONS] <check|resolve|rules|config|completions>"
    return 2

def runInvocation (invocation : Invocation) : IO UInt32 := do
  let sources := sourcesOf invocation.action
  let output ← IO.getStdout
  let input ← if sources.contains .input then readAll (← IO.getStdin) ByteArray.empty
    else pure ByteArray.empty
  -- Nothing is taken to be refused: a refusal is met when the tree is written back.
  let around : Surroundings := {
    configVariable := ← IO.getEnv "ELIGIBILITY_CONFIG"
    home := (← IO.getEnv "HOME").getD "."
    terminal := ← output.isTty
    input }
  let configPath := around.configPath invocation.configPath
  let before ← snapshot (configPath :: sources.map Source.label)
  let (after, outcome) := before.run around invocation
  writeBack before after
  output.putStr outcome.output
  (← IO.getStderr).putStr outcome.errors
  return outcome.exitCode.toNat.toUInt32

end CartCriteria.Program

def main (args : List String) : IO UInt32 := do
  match CartCriteria.Invocation.ofArguments args with
  | .ok invocation => CartCriteria.Program.runInvocation invocation
  | .error fault => CartCriteria.Program.reportUsage fault
