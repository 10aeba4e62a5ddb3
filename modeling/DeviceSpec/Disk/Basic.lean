import DeviceSpec.Path

/-!
# The file system as a value

A disk maps locations, the lists of names from the root down, to directories and files, and knows
the working directory that relative paths start from. There are no links. An operation that fails
says why and leaves the disk as it was.

* `Disk.node?` is the view: what stands at a location.
* `node?_put` and `node?_erase` say what the two changes do to it.
* `Disk.target` follows a path through the directories to the place its last component names.
-/

namespace DeviceSpec

/-- The names from the root down to an entry. -/
abbrev Location := List String

/-- What stands at a location. -/
inductive Node where
  | directory
  | file (content : ByteArray)

instance : DecidableEq Node
  | .directory, .directory => isTrue rfl
  | .directory, .file _ => isFalse nofun
  | .file _, .directory => isFalse nofun
  | .file a, .file b =>
    match ByteArray.instDecidableEq a b with
    | isTrue h => isTrue (h ▸ rfl)
    | isFalse h => isFalse fun e => h (Node.file.inj e)

/-- Why a file operation fails. -/
inductive FileError where
  | notFound
  | alreadyExists
  | notDirectory
  | isDirectory
  | notEmpty
  | invalidMove
  | busy
  | nameTooLong
  /-- The path holds a NUL character. -/
  | nulInPath
  /-- The content is no UTF-8 text. -/
  | notText
  deriving DecidableEq

/-- The wording of a file error. -/
def FileError.message : FileError → String
  | .notFound => "No such file or directory (os error 2)"
  | .busy => "Device or resource busy (os error 16)"
  | .alreadyExists => "File exists (os error 17)"
  | .notDirectory => "Not a directory (os error 20)"
  | .isDirectory => "Is a directory (os error 21)"
  | .invalidMove => "Invalid argument (os error 22)"
  | .nameTooLong => "File name too long (os error 36)"
  | .notEmpty => "Directory not empty (os error 39)"
  | .nulInPath => "file name contained an unexpected NUL byte"
  | .notText => "stream did not contain valid UTF-8"

/-- A file system. -/
structure Disk where
  /-- Everything below the root. -/
  entries : List (Location × Node) := []
  /-- Where relative paths start. -/
  workingDir : Location := []
  deriving DecidableEq

namespace Disk

/-! ## The view -/

/-- What stands at a location. The root is a directory. -/
def node? (d : Disk) (l : Location) : Option Node :=
  if l = [] then some .directory else d.entries.lookup l

/-- Put something at a location, in place of what was there. -/
def put (d : Disk) (l : Location) (n : Node) : Disk :=
  { d with entries := (l, n) :: d.entries.filter (fun e => e.1 != l) }

/-- Take away what is at a location. -/
def erase (d : Disk) (l : Location) : Disk :=
  { d with entries := d.entries.filter (fun e => e.1 != l) }

theorem lookup_filter_ne {l m : Location} (h : m ≠ l) (es : List (Location × Node)) :
    (es.filter (fun e => e.1 != l)).lookup m = es.lookup m := by
  induction es with
  | nil => rfl
  | cons e es ih =>
    obtain ⟨k, n⟩ := e
    by_cases hk : k = l
    · subst hk
      have hm : (m == k) = false := by simpa using h
      simpa [List.lookup_cons, hm] using ih
    · simp [hk, List.lookup_cons, ih]

theorem lookup_filter_self (l : Location) (es : List (Location × Node)) :
    (es.filter (fun e => e.1 != l)).lookup l = none := by
  induction es with
  | nil => rfl
  | cons e es ih =>
    obtain ⟨k, n⟩ := e
    by_cases hk : k = l
    · subst hk
      simpa using ih
    · have hl : (l == k) = false := by simpa using fun h => hk h.symm
      simp [hk, List.lookup_cons, hl, ih]

/-- Putting changes one location. -/
theorem node?_put {d : Disk} {l m : Location} {n : Node} (hl : l ≠ []) :
    (d.put l n).node? m = if m = l then some n else d.node? m := by
  unfold node? put
  by_cases hm : m = []
  · simp [hm, Ne.symm hl]
  · by_cases h : m = l
    · simp [h, hl]
    · have hml : (m == l) = false := by simpa using h
      simp only [hm, h, if_false, List.lookup_cons, hml, lookup_filter_ne h]

/-- Erasing changes one location. -/
theorem node?_erase {d : Disk} {l m : Location} (hl : l ≠ []) :
    (d.erase l).node? m = if m = l then none else d.node? m := by
  unfold node? erase
  by_cases hm : m = []
  · simp [hm, Ne.symm hl]
  · by_cases h : m = l
    · simp [h, hl, lookup_filter_self]
    · simp only [hm, h, if_false, lookup_filter_ne h]

/-! ## Following a path -/

/-- The longest name a directory can hold, in bytes. -/
def longestName : Nat := 255

/-- The longest path, in bytes. -/
def longestPath : Nat := 4095

/-- Step from a directory into the one that a segment names. -/
def enter (d : Disk) (here : Location) (segment : String) : Except FileError Location :=
  if segment = "." then .ok here
  else if segment = ".." then .ok here.dropLast
  else if longestName < segment.utf8ByteSize then .error .nameTooLong
  else
    match d.node? (here ++ [segment]) with
    | none => .error .notFound
    | some .directory => .ok (here ++ [segment])
    | some (.file _) => .error .notDirectory

/-- Step through directories one after the other. -/
def enterAll (d : Disk) : Location → List String → Except FileError Location
  | here, [] => .ok here
  | here, s :: rest =>
    match d.enter here s with
    | .error e => .error e
    | .ok next => d.enterAll next rest

/-- The place that a path names: a directory, or a name in a directory. -/
structure Target where
  /-- The directory. -/
  directory : Location
  /-- The name in it, unless the path names the directory itself. -/
  name? : Option String
  /-- A slash at the end asks for a directory. -/
  endsInSlash : Bool

/-- The location of a target. -/
def Target.location (t : Target) : Location := t.directory ++ t.name?.toList

/-- Follow a path to the place it names. -/
def target (d : Disk) (p : Path) : Except FileError Target :=
  if p.text.toList.contains '\x00' then .error .nulInPath
  else if p.text.isEmpty then .error .notFound
  else if longestPath < p.text.utf8ByteSize then .error .nameTooLong
  else
    let start := if p.isAbsolute then [] else d.workingDir
    if d.node? start ≠ some .directory then .error .notFound
    else
      let steps := p.segments.filter (fun s => !s.isEmpty)
      match steps.getLast? with
      | none => .ok ⟨start, none, p.endsInSlash⟩
      | some last =>
        if last = "." ∨ last = ".." then
          match d.enterAll start steps with
          | .error e => .error e
          | .ok here => .ok ⟨here, none, p.endsInSlash⟩
        else
          match d.enterAll start steps.dropLast with
          | .error e => .error e
          | .ok here => .ok ⟨here, some last, p.endsInSlash⟩

/-- What stands at a target, if anything. -/
def at? (d : Disk) (t : Target) : Except FileError (Option Node) :=
  match t.name? with
  | none => .ok (some .directory)
  | some name =>
    if longestName < name.utf8ByteSize then .error .nameTooLong else .ok (d.node? t.location)

/-- What a path leads to. -/
def find (d : Disk) (p : Path) : Except FileError (Location × Node) :=
  match d.target p with
  | .error e => .error e
  | .ok t =>
    match d.at? t with
    | .error e => .error e
    | .ok none => .error .notFound
    | .ok (some .directory) => .ok (t.location, .directory)
    | .ok (some (.file content)) =>
      if t.endsInSlash then .error .notDirectory else .ok (t.location, .file content)

/-- The path leads somewhere. -/
def pathExists (d : Disk) (p : Path) : Bool :=
  match d.find p with
  | .ok _ => true
  | .error _ => false

/-- The path leads to a directory. -/
def isDir (d : Disk) (p : Path) : Bool :=
  match d.find p with
  | .ok (_, .directory) => true
  | _ => false

/-- The path leads to a file. -/
def isFile (d : Disk) (p : Path) : Bool :=
  match d.find p with
  | .ok (_, .file _) => true
  | _ => false

/-- The working directory, as long as it exists. -/
def workingPath (d : Disk) : Except FileError Path :=
  if d.node? d.workingDir = some .directory then .ok ⟨"/" ++ "/".intercalate d.workingDir⟩
  else .error .notFound

end Disk

end DeviceSpec
