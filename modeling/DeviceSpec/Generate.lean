import DeviceSpec.Artifact
import DeviceSpec.Disk.Access

/-!
# Writing the generated files

Items are written one after the other below the device directory. The first that cannot be written
ends the run; the files written before it stay.

* `Spec.generate` answers with the disk, the names written in order and the reason for stopping.
-/

namespace DeviceSpec

/-- Why a file could not be generated. -/
inductive GenerateError where
  /-- The directory for the file could not be made. -/
  | createDir (path : Path) (cause : FileError)
  | write (path : Path) (cause : FileError)
  /-- The file has no text, or a name that is not allowed. -/
  | render (name reason : String)
  deriving DecidableEq

/-- The wording of a generation error. -/
def GenerateError.message : GenerateError → String
  | .createDir path cause =>
    "failed to create directory for " ++ path.text ++ ": " ++ cause.message
  | .write path cause => "failed to write " ++ path.text ++ ": " ++ cause.message
  | .render name reason => "can't render " ++ name ++ ": " ++ reason

/-- The error for the script of a USB gadget that there is not. -/
def noGadget (name : String) : GenerateError := .render name "no usb_gadget configured"

/-- The error for a name that leads out of the device directory. -/
def outsideName (name : String) : GenerateError :=
  .render name "file names must be relative to the device directory"

/-- The component stays in the directory it starts from. -/
def Component.staysInside : Component → Bool
  | .name _ => true
  | .here => true
  | .root => false
  | .up => false

/-- The name stays in the device directory: it is not empty, does not start at the root and never
steps up. -/
def isInsideName (name : String) : Bool :=
  !name.isEmpty && (Path.mk name).components.all Component.staysInside

/-- The text of an item, or the error for one that has none. -/
def Item.content (s : Spec) (i : Item) : Except GenerateError String :=
  match i.render? s with
  | some text => .ok text
  | none => .error (noGadget (i.fileName s))

/-- Write a text under a name in the device directory. -/
def writeNamed (dir : Path) (name text : String) (d : Disk) : Except GenerateError Unit × Disk :=
  if !isInsideName name then (.error (outsideName name), d)
  else
    let path := dir.join name
    match d.makeParents path with
    | (.error e, d) => (.error (.createDir path e), d)
    | (.ok (), d) =>
      match d.write path text.toUTF8 with
      | .error e => (.error (.write path e), d)
      | .ok d => (.ok (), d)

/-- What has come of a run. -/
structure Generation where
  disk : Disk
  /-- The names of the files written, in order. -/
  written : List String
  /-- Why the run stopped before its end. -/
  failure : Option GenerateError

/-- The paths of the files written. -/
def Generation.paths (g : Generation) (dir : Path) : List Path := g.written.map dir.join

/-- What is printed while files are written. -/
def Generation.lines (g : Generation) : List String := g.written.map ("  generate file " ++ ·)

/-- Write items in order until one fails. -/
def writeItems (s : Spec) (dir : Path) : List Item → Disk → Generation
  | [], d => ⟨d, [], none⟩
  | i :: rest, d =>
    match i.content s with
    | .error e => ⟨d, [], some e⟩
    | .ok text =>
      match writeNamed dir (i.fileName s) text d with
      | (.error e, d) => ⟨d, [], some e⟩
      | (.ok (), d) =>
        let g := writeItems s dir rest d
        { g with written := i.fileName s :: g.written }

/-- Generate everything a description asks for. -/
def Spec.generate (s : Spec) (dir : Path) (d : Disk) : Generation := writeItems s dir s.items d

/-- Generate the embedded init scripts alone. -/
def Spec.generateScripts (s : Spec) (dir : Path) (d : Disk) : Generation :=
  writeItems s dir (s.embeddedScripts.map .script) d

end DeviceSpec
