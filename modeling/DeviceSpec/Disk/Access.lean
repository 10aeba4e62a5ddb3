import DeviceSpec.Disk.Basic

/-!
# Reading and changing a disk

The file operations of the program and of those who use it. Each takes a path and follows it first,
so that a missing directory, a file in the place of a directory or a name that is too long is met in
the order of the path.

* `Disk.write`, `Disk.makeDir` and `Disk.remove` change one location or nothing.
* `Disk.makeDirs` makes the missing directories of a path from the top; those made before it fails
  stay.
* `Disk.removeAll` and `Disk.move` are what others do to the disk between two runs of the program.
-/

namespace DeviceSpec

namespace Disk

/-! ## One location -/

/-- The content of a file. -/
def read (d : Disk) (p : Path) : Except FileError ByteArray :=
  match d.find p with
  | .error e => .error e
  | .ok (_, .directory) => .error .isDirectory
  | .ok (_, .file content) => .ok content

/-- The content of a file as text. -/
def readText (d : Disk) (p : Path) : Except FileError String :=
  match d.read p with
  | .error e => .error e
  | .ok content =>
    match String.fromUTF8? content with
    | some s => .ok s
    | none => .error .notText

/-- Give a file a content, making the file if there is none. -/
def write (d : Disk) (p : Path) (content : ByteArray) : Except FileError Disk :=
  match d.target p with
  | .error e => .error e
  | .ok t =>
    if t.name? = none ∨ t.endsInSlash then .error .isDirectory
    else
      match d.at? t with
      | .error e => .error e
      | .ok (some .directory) => .error .isDirectory
      | .ok _ => .ok (d.put t.location (.file content))

/-- Make a directory. -/
def makeDir (d : Disk) (p : Path) : Except FileError Disk :=
  match d.target p with
  | .error e => .error e
  | .ok t =>
    match d.at? t with
    | .error e => .error e
    | .ok (some _) => .error .alreadyExists
    | .ok none => .ok (d.put t.location .directory)

/-- Remove a file. -/
def remove (d : Disk) (p : Path) : Except FileError Disk :=
  match d.target p with
  | .error e => .error e
  | .ok t =>
    match d.at? t with
    | .error e => .error e
    | .ok none => .error .notFound
    | .ok (some .directory) => .error .isDirectory
    | .ok (some (.file _)) =>
      if t.endsInSlash then .error .notDirectory else .ok (d.erase t.location)

/-- Remove a file if it is there, and say whether it was. -/
def removeIfThere (d : Disk) (p : Path) : Except FileError (Bool × Disk) :=
  match d.remove p with
  | .ok d => .ok (true, d)
  | .error .notFound => .ok (false, d)
  | .error e => .error e

/-! ## Directories on the way -/

/-- Make a directory and, first, the missing ones above it; `steps` bounds how many. -/
def makeDirsWithin : Nat → Disk → Path → Except FileError Unit × Disk
  | 0, d, _ => (.error .notFound, d)
  | steps + 1, d, p =>
    if p.text.isEmpty then (.ok (), d)
    else
      match d.makeDir p with
      | .ok d => (.ok (), d)
      | .error .notFound =>
        match p.parent? with
        | none => (.error .notFound, d)
        | some above =>
          match makeDirsWithin steps d above with
          | (.error e, d) => (.error e, d)
          | (.ok (), d) =>
            match d.makeDir p with
            | .ok d => (.ok (), d)
            | .error e => if d.isDir p then (.ok (), d) else (.error e, d)
      | .error e => if d.isDir p then (.ok (), d) else (.error e, d)

/-- Make a directory and the missing ones above it. One that is there is fine. The path of a parent
has one component less. -/
def makeDirs (d : Disk) (p : Path) : Except FileError Unit × Disk :=
  makeDirsWithin (p.components.length + 1) d p

/-- Make the directories above a file. -/
def makeParents (d : Disk) (p : Path) : Except FileError Unit × Disk :=
  match p.parent? with
  | none => (.ok (), d)
  | some above => if above.text.isEmpty then (.ok (), d) else d.makeDirs above

/-- Give a file a content, with the directories above it. -/
def writeWithParents (d : Disk) (p : Path) (content : ByteArray) : Except FileError Unit × Disk :=
  match d.makeParents p with
  | (.error e, d) => (.error e, d)
  | (.ok (), d) =>
    match d.write p content with
    | .error e => (.error e, d)
    | .ok d => (.ok (), d)

/-! ## Subtrees -/

/-- What stands at a location and below it, by the names that lead there from the location. -/
def subtree (d : Disk) (l : Location) : List (List String × Node) :=
  let below := d.entries.filterMap fun e =>
    if l.isPrefixOf e.1 ∧ e.1 ≠ l then some (e.1.drop l.length, e.2) else none
  match d.node? l with
  | some n => ([], n) :: below
  | none => below

/-- The names in a directory. -/
def list (d : Disk) (p : Path) : Except FileError (List String) :=
  match d.find p with
  | .error e => .error e
  | .ok (_, .file _) => .error .notDirectory
  | .ok (l, .directory) =>
    .ok ((d.subtree l).filterMap fun e =>
      match e.1 with
      | [name] => some name
      | _ => none)

/-- Remove a file, or a directory with all that is in it. -/
def removeAll (d : Disk) (p : Path) : Except FileError Disk :=
  match d.find p with
  | .error e => .error e
  | .ok (_, .file _) => d.remove p
  | .ok (l, .directory) =>
    .ok { d with entries := d.entries.filter (fun e => !l.isPrefixOf e.1) }

/-- Take what stands at a location, with all below it, to another location. -/
def relocate (d : Disk) (source destination : Location) : Disk :=
  let rest := d.entries.filter fun e => !source.isPrefixOf e.1 && !destination.isPrefixOf e.1
  let moved := d.entries.filterMap fun e =>
    if source.isPrefixOf e.1 then some (destination ++ e.1.drop source.length, e.2) else none
  { d with entries := moved ++ rest }

/-- Move a file, or a directory with all that is in it. A file may replace a file and a directory
an empty directory. -/
def move (d : Disk) (source destination : Path) : Except FileError Disk :=
  match d.target source, d.target destination with
  | .error e, _ => .error e
  | _, .error e => .error e
  | .ok s, .ok t =>
    if s.name? = none ∨ t.name? = none then .error .busy
    else
      match d.at? s, d.at? t with
      | .error e, _ => .error e
      | .ok none, _ => .error .notFound
      | _, .error e => .error e
      | .ok (some (.file _)), .ok found =>
        if s.endsInSlash ∨ t.endsInSlash then .error .notDirectory
        else if s.location = t.location then .ok d
        else if t.location.isPrefixOf s.location then .error .notEmpty
        else if found = some .directory then .error .isDirectory
        else .ok (d.relocate s.location t.location)
      | .ok (some .directory), .ok found =>
        if s.location = t.location then .ok d
        else if s.location.isPrefixOf t.location then .error .invalidMove
        else
          match found with
          | some (.file _) => .error .notDirectory
          | some .directory =>
            if (d.subtree t.location).length = 1 then .ok (d.relocate s.location t.location)
            else .error .notEmpty
          | none => .ok (d.relocate s.location t.location)

end Disk

end DeviceSpec
