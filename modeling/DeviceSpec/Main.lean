import DeviceSpec.Reach

/-!
# The program

Runs a request on the real file system: notes on a disk what the request can reach, runs it there,
prints what it prints and makes the changes it made.
-/

namespace DeviceSpec

/-! ## Looking -/

/-- The entry at a location of the real file system. -/
def entryAt (l : Location) : IO.FS.DirEntry := ⟨"/", "/".intercalate l⟩

/-- What really is at a location. The content of a file is read only if it is wanted. -/
def nodeAt (wantsContent : Bool) (l : Location) : IO (Option Node) := do
  try
    let path := (entryAt l).path
    match (← path.metadata).type with
    | .dir => return some .directory
    | _ => return some (.file (← if wantsContent then IO.FS.readBinFile path else pure .empty))
  catch _ => return none

/-- Note what is at a location, unless that is known. -/
def noteAt (wantsContent : Bool) (d : Disk) (l : Location) : IO Disk := do
  if (d.node? l).isSome then return d
  match ← nodeAt wantsContent l with
  | some n => return d.put l n
  | none => return d

/-- Note what is at each step of a path, and say where the path leads. -/
def notePath (wantsContent : Bool) (d : Disk) (p : Path) : IO (Disk × Location) := do
  let mut d := d
  let mut here := if p.isAbsolute then [] else d.workingDir
  for segment in p.segments do
    if segment = ".." then here := here.dropLast
    else if !Path.isIdle segment then
      here := here ++ [segment]
      d ← noteAt wantsContent d here
  return (d, here)

/-- The locations of the entries of a directory, and whether each is a directory of its own and no
link to one. -/
def entriesOf (l : Location) : IO (List (Location × Bool)) := do
  try
    let entries ← (entryAt l).path.readDir
    entries.toList.mapM fun e => do
      let isTree := match (← e.path.symlinkMetadata).type with
        | .dir => true
        | _ => false
      return (l ++ [e.fileName], isTree)
  catch _ => return []

/-- Note everything below a location. -/
partial def noteBelow (d : Disk) (l : Location) : IO Disk := do
  let mut d := d
  for (entry, isTree) in ← entriesOf l do
    d ← noteAt true d entry
    if isTree then d ← noteBelow d entry
  return d

/-- Note what is at a path and everything below it. -/
def noteTree (d : Disk) (p : Path) : IO Disk := do
  let (d, l) ← notePath true d p
  noteBelow d l

/-- The part of the real file system that a request can reach. -/
def noteReach (r : Request) (environment : Variables) (dir : Path) : IO Disk := do
  let (start, l) ← notePath true {} dir
  let mut d := { start with workingDir := l }
  for file in environmentFiles l do d ← noteAt true d file
  for p in r.template?.toList do (d, _) ← notePath true d p
  for p in r.directories do d ← noteTree d p
  let reach := r.reach (Settings.ofRun dir environment d) d
  for p in reach.trees do d ← noteTree d p
  for p in reach.places do (d, _) ← notePath false d p
  return d

/-! ## The environment -/

/-- The variables in a listing of the environment, in which each definition ends with a NUL. -/
def definitionsIn (listing : ByteArray) : Variables :=
  let text := (String.fromUTF8? listing).getD ""
  (text.splitOn "\x00").filterMap fun line =>
    match line.splitOn "=" with
    | key :: value => if value.isEmpty then none else some (key, "=".intercalate value)
    | [] => none

/-- The environment of the program. -/
def environmentOfProgram : IO Variables := do
  try
    return definitionsIn (← IO.FS.readBinFile "/proc/self/environ")
  catch _ => return []

/-! ## Changing -/

/-- Everyone may read and write, as `documentMode` says. -/
def documentRights : IO.FileRight :=
  let readWrite : IO.AccessRight := ⟨true, true, false⟩
  ⟨readWrite, readWrite, readWrite⟩

/-- Put on the real file system what is new on a disk. -/
def applyEntry (l : Location) (n : Node) : IO Unit := do
  let path := (entryAt l).path
  match n with
  | .directory => IO.FS.createDir path
  | .file content =>
    IO.FS.writeBinFile path content
    if l.getLast? = some configName ∨ l.getLast? = some ledgerName then
      IO.setAccessRights path documentRights

/-- Make the changes between two disks on the real file system: directories from the top, then
files. -/
def applyChanges (before after : Disk) : IO Unit := do
  let changed := after.entries.filter fun (l, n) => decide (before.node? l ≠ some n)
  for (l, n) in changed.mergeSort (fun a b => decide (a.1.length ≤ b.1.length)) do
    applyEntry l n
  for (l, _) in before.entries do
    if after.node? l = none then IO.FS.removeFile (entryAt l).path

/-! ## Running -/

/-- The ways to call the program. -/
def usage : String := Text.unlines [
  "usage: avs init [--config PATH] VENDOR DEVICE",
  "       avs validate|update|clean [DIR]",
  "       avs show config",
  "       avs show state [DIR]"]

/-- Run a request in the working directory. -/
def Request.perform (r : Request) : IO UInt32 := do
  let environment ← environmentOfProgram
  let before ← noteReach r environment ⟨(← IO.currentDir).toString⟩
  let outcome := runRequest r environment ⟨before, "", ""⟩
  (← IO.getStdout).putStr outcome.world.out
  (← IO.getStderr).putStr outcome.world.err
  applyChanges before outcome.world.disk
  return outcome.exitCode.toUInt32

end DeviceSpec

/-- Do what the words of the command line ask for. -/
def main (args : List String) : IO UInt32 := do
  match DeviceSpec.Request.parse args with
  | some request => request.perform
  | none =>
    IO.eprint DeviceSpec.usage
    return DeviceSpec.usageExitCode.toUInt32
