import DeviceSpec.Document

/-!
# The ledger of generated files

The ledger of a device directory lists the files that were generated into it, so that they can be
removed again. It is kept in the directory itself, with the name the directory had when the ledger
was written; files below that name are taken to lie below the directory's present name.

* `Ledger.store` and `Ledger.load` keep and fetch it.
* `Ledger.clean` removes the files of the ledger and leaves it empty.
-/

namespace DeviceSpec

open Json

/-- The files that were generated into a device directory. -/
structure Ledger where
  /-- The device directory. -/
  dir : Path := {}
  /-- The generated files, in order. -/
  files : List Path := []
  deriving DecidableEq, Inhabited

/-- A path in a document. -/
def pathCodec : Codec Path where
  read depth cs := do
    let (s, rest) ← (textNamed "path string").read depth cs
    .ok (⟨s⟩, rest)
  write indent p := (textNamed "path string").write indent p.text

/-- The format of a ledger. -/
def Ledger.record : Record Ledger where
  name := "AvsState"
  start := {}
  fields := [
    .required "gen_dir" pathCodec ⟨Ledger.dir, fun x r => { r with dir := x }⟩,
    .required "generated_files" (listOf pathCodec)
      ⟨Ledger.files, fun x r => { r with files := x }⟩]

/-- Read a ledger. -/
def Ledger.decode (document : String) : Except Error Ledger := Ledger.record.codec.decode document

/-- Write a ledger. -/
def Ledger.encode (l : Ledger) : String := Ledger.record.codec.encode l

/-- Why a ledger could not be used. -/
inductive LedgerError where
  /-- There is no ledger, or it is empty. -/
  | noLedger (dir : Path)
  | read (path : Path) (cause : FileError)
  | parse (path : Path) (cause : Error)
  | remove (path : Path) (cause : FileError)
  | currentDir (cause : FileError)
  | save (cause : SpecError)

/-- The wording of a ledger error. -/
def LedgerError.message : LedgerError → String
  | .noLedger dir =>
    "no avs state in " ++ dir.text ++ " (run `avs init` or `avs update` first)"
  | .read path cause => "failed to read " ++ path.text ++ ": " ++ cause.message
  | .parse path cause => "malformed avs state " ++ path.text ++ ": " ++ cause.message
  | .remove path cause => "failed to remove " ++ path.text ++ ": " ++ cause.message
  | .currentDir cause => "can't determine the working directory: " ++ cause.message
  | .save cause => cause.message

/-- The wordings of what caused a ledger error. A failure to save stands for its own cause. -/
def LedgerError.causes : LedgerError → List String
  | .noLedger _ => []
  | .read _ cause => [cause.message]
  | .parse _ cause => [cause.message]
  | .remove _ cause => [cause.message]
  | .currentDir cause => [cause.message]
  | .save cause => cause.causes

/-- The file name of a ledger. -/
def ledgerName : String := ".avsstate"

/-- Where the ledger of a device directory is kept. -/
def ledgerPath (dir : Path) : Path := dir.join ledgerName

/-- A path from the root: a relative one starts from the working directory. -/
def absolutePath (p : Path) (d : Disk) : Except FileError Path :=
  if p.isAbsolute then .ok p
  else
    match d.workingPath with
    | .error e => .error e
    | .ok working => .ok (working.join p.text)

/-- Keep the ledger in its directory, whose name is made absolute first. -/
def Ledger.store (l : Ledger) (d : Disk) : Except LedgerError Ledger × Disk :=
  match absolutePath l.dir d with
  | .error e => (.error (.currentDir e), d)
  | .ok dir =>
    let l := { l with dir := dir }
    match saveDocument l.encode (ledgerPath dir) d with
    | (.error e, d) => (.error (.save e), d)
    | (.ok (), d) => (.ok l, d)

/-- Fetch the ledger of a directory. -/
def Ledger.load (dir : Path) (d : Disk) : Except LedgerError Ledger :=
  let path := ledgerPath dir
  match d.readText path with
  | .error .notFound => .error (.noLedger dir)
  | .error e => .error (.read path e)
  | .ok text =>
    match Ledger.decode text with
    | .error e => .error (.parse path e)
    | .ok l => .ok l

/-! ## Removing what is listed -/

/-- What became of the files of a ledger. -/
structure CleanSummary where
  removed : List Path := []
  /-- Files that were gone already. -/
  missing : List Path := []
  /-- Files in whose place there is a directory. -/
  keptDirs : List Path := []
  deriving DecidableEq

/-- A file listed for one directory, as a file of another. Files elsewhere stay where they are. -/
def rebase (recorded dir file : Path) : Path :=
  match file.below? recorded with
  | some rest => dir.join rest
  | none => file

/-- Remove files in order until one cannot be removed. Directories are kept. -/
def removeListed : List Path → CleanSummary → Disk →
    Except (Path × FileError) CleanSummary × Disk
  | [], summary, d => (.ok summary, d)
  | file :: rest, summary, d =>
    if d.isDir file then
      removeListed rest { summary with keptDirs := summary.keptDirs ++ [file] } d
    else
      match d.removeIfThere file with
      | .error e => (.error (file, e), d)
      | .ok (true, d) =>
        removeListed rest { summary with removed := summary.removed ++ [file] } d
      | .ok (false, d) =>
        removeListed rest { summary with missing := summary.missing ++ [file] } d

/-- Remove the files that the ledger of a directory lists, and leave the ledger empty. -/
def Ledger.clean (dir : Path) (d : Disk) : Except LedgerError CleanSummary × Disk :=
  match Ledger.load dir d with
  | .error e => (.error e, d)
  | .ok l =>
    if l.files.isEmpty then (.error (.noLedger dir), d)
    else
      match removeListed (l.files.map (rebase l.dir dir)) {} d with
      | (.error (path, e), d) => (.error (.remove path e), d)
      | (.ok summary, d) =>
        match Ledger.store ⟨dir, []⟩ d with
        | (.error e, d) => (.error e, d)
        | (.ok _, d) => (.ok summary, d)

end DeviceSpec
