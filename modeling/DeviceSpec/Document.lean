import DeviceSpec.Disk.Access
import DeviceSpec.Spec.Basic

/-!
# Documents on disk

Descriptions and HALs are kept in files. A document is only ever saved under an absolute path, and
its file may be read and written by everyone.
-/

namespace DeviceSpec

/-- The permissions of a saved document. -/
def documentMode : Nat := 0o666

/-- Why a document could not be loaded or saved. -/
inductive SpecError where
  | notFound (path : Path)
  | read (path : Path) (cause : FileError)
  | parse (path : Path) (cause : Json.Error)
  | relativePath (path : Path)
  | write (path : Path) (cause : FileError)

/-- The wording of a document error. -/
def SpecError.message : SpecError → String
  | .notFound path => "JSON specification file " ++ path.text ++ " not found"
  | .read path cause => "failed to read " ++ path.text ++ ": " ++ cause.message
  | .parse path cause => "malformed specification " ++ path.text ++ ": " ++ cause.message
  | .relativePath path => path.text ++ " isn't an absolute path"
  | .write path cause => "failed to write " ++ path.text ++ ": " ++ cause.message

/-- The wordings of what caused a document error. -/
def SpecError.causes : SpecError → List String
  | .notFound _ => []
  | .read _ cause => [cause.message]
  | .parse _ cause => [cause.message]
  | .relativePath _ => []
  | .write _ cause => [cause.message]

/-- There is no such document. -/
def SpecError.isNotFound : SpecError → Bool
  | .notFound _ => true
  | _ => false

/-- Load a document and read it with `decode`. -/
def loadDocument {α : Type} (decode : String → Except Json.Error α) (p : Path) (d : Disk) :
    Except SpecError α :=
  match d.readText p with
  | .error .notFound => .error (.notFound p)
  | .error e => .error (.read p e)
  | .ok text =>
    match decode text with
    | .error e => .error (.parse p e)
    | .ok v => .ok v

/-- Load a device description. -/
def loadSpec (p : Path) (d : Disk) : Except SpecError Spec := loadDocument Spec.decode p d

/-- Load a HAL. -/
def loadHal (p : Path) (d : Disk) : Except SpecError Hal := loadDocument Hal.decode p d

/-- Read a description that is in no file. -/
def readSpec (document : String) : Except SpecError Spec :=
  match Spec.decode document with
  | .error e => .error (.parse ⟨"<memory>"⟩ e)
  | .ok s => .ok s

/-- Save a document under an absolute path. -/
def saveDocument (document : String) (p : Path) (d : Disk) : Except SpecError Unit × Disk :=
  if !p.isAbsolute then (.error (.relativePath p), d)
  else
    match d.writeWithParents p document.toUTF8 with
    | (.error e, d) => (.error (.write p e), d)
    | (.ok (), d) => (.ok (), d)

/-- Save a device description. -/
def saveSpec (s : Spec) (p : Path) (d : Disk) : Except SpecError Unit × Disk :=
  saveDocument s.encode p d

end DeviceSpec
